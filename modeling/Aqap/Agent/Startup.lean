import Aqap.Agent.DlqConsumer
import Aqap.Agent.Jobs
import Aqap.Agent.Supervisor
import Aqap.Core.Security

/-!
# The agents of the engine

`_init_agents` goes through the entries of the configuration and creates an agent for each one whose type it
knows. It passes on the entry's `targets` as keyword arguments, and nothing else that the agents' classes have of
their own; so what a scheduler is to do is not passed on.

* `init_agents_ok_iff`: the configurations of which agents can be created.
* `encrypts_iff`: when they encrypt.
* `schedule_ignored`: the jobs of the schedulers among them.
-/

namespace Aqap

open Py Aqap.Core Async

/-- The classes that `AGENT_MAP` names. -/
inductive AgentClass where
  | ProbeAgent
  | JudgeAgent
  | ReporterAgent
  | SchedulerAgent
  | DLQConsumerAgent
  deriving DecidableEq

def AGENT_MAP : List (String × AgentClass) := [
  ("probe", .ProbeAgent),
  ("judge", .JudgeAgent),
  ("reporter", .ReporterAgent),
  ("scheduler", .SchedulerAgent),
  ("dlq-consumer", .DLQConsumerAgent)]

/-- The parameter that a class has of its own, with its default. -/
def AgentClass.own : AgentClass → Option (String × Json)
  | ProbeAgent => some ("judge_target", .str "judge-1")
  | JudgeAgent => some ("reporter_target", .str "reporter-1")
  | ReporterAgent => none
  | SchedulerAgent => some ("schedule", .null)
  | DLQConsumerAgent => some ("dlq_ttl", .int DEFAULT_DLQ_TTL)

/-- An entry of `_schedules`, `_topics` and `_payloads`. -/
structure SchedulerJob where
  cron : CronSchedule
  topic : Json
  payload : Json

/-- An agent as its constructor leaves it, with what was subscribed to. -/
structure CreatedAgent where
  agent_id : String
  cls : AgentClass
  group : Json
  max_retries : Json
  heartbeat_interval : Json
  cipher : PayloadCipher
  max_concurrency : Json
  /-- The value of the class's own parameter. -/
  own : Json
  /-- The jobs of a scheduler. -/
  jobs : List SchedulerJob
  topics : List Json

/-! ## The scheduler -/

/-- What `__init__` does if there is no schedule. -/
def default_job : SchedulerJob where
  cron := CronSchedule.new "*/5m"
  topic := .str "aqap:agent:probe"
  payload := .obj [("task_id", .str "scheduled-001"), ("name", .str "定时检测")]

/-- `ScheduledJob` of an entry of `schedule`. -/
def schedule_job : Json → Except String SchedulerJob
  | .obj entry =>
    match (entry.lookup "cron").getD (.str "*/5m") with
    | .str expr => .ok {
        cron := CronSchedule.new expr
        topic := (entry.lookup "topic").getD (.str "aqap:agent:probe")
        payload := (entry.lookup "payload").getD (.obj []) }
    | v => .error (no_attribute v "strip")
  | v => .error (no_attribute v "get")

/-- What a `for` goes through: the items of a list, the characters of a string, the keys of a dictionary. -/
def iterated : Json → Except String (List Json)
  | .arr items => .ok items
  | .str s => .ok (s.toList.map fun c => .str (String.singleton c))
  | .obj fields => .ok (fields.map fun e => .str e.1)
  | v => .error ("'" ++ v.type_name ++ "' object is not iterable")

/-- The jobs of a `SchedulerAgent` with the argument `schedule`. -/
def schedule_jobs (schedule : Json) : Except String (List SchedulerJob) := do
  if schedule.truthy then
    let entries ← iterated schedule
    let jobs ← entries.mapM schedule_job
    return if jobs.isEmpty then [default_job] else jobs
  else return [default_job]

/-! ## The constructors -/

/-- The keyword arguments that the engine gives itself. -/
def engine_kwargs : List String :=
  ["agent_id", "transport", "group", "max_retries", "heartbeat_interval", "cipher", "supervisor"]

/-- The other ones that a class takes. -/
def AgentClass.takes (cls : AgentClass) (name : String) : Bool :=
  name == "max_concurrency" || cls.own.any (·.1 == name)

/-- `v > 0` does not raise. -/
def comparable : Json → Bool
  | .int _ => true
  | .bool _ => true
  | .float _ => true
  | _ => false

/-- The argument `max_concurrency`. -/
def max_concurrency_of (kwargs : List (String × Json)) : Json :=
  (kwargs.lookup "max_concurrency").getD (.int 0)

/-- What is wrong with `targets`: a name that is given already, a name that no constructor takes, or a
`max_concurrency` that is no number. -/
def check_targets (cls : AgentClass) (kwargs : List (String × Json)) : Except String Unit :=
  match kwargs.find? fun kwarg => engine_kwargs.contains kwarg.1 with
  | some kwarg => .error ("got multiple values for keyword argument '" ++ kwarg.1 ++ "'")
  | none =>
    match kwargs.find? fun kwarg => !cls.takes kwarg.1 with
    | some kwarg => .error ("got an unexpected keyword argument '" ++ kwarg.1 ++ "'")
    | none =>
      if comparable (max_concurrency_of kwargs) then .ok ()
      else .error ("'>' not supported between instances of '" ++ (max_concurrency_of kwargs).type_name ++
        "' and 'int'")

/-- The value of the class's own parameter. -/
def AgentClass.own_of (cls : AgentClass) (kwargs : List (String × Json)) : Json :=
  match cls.own with
  | some (name, default) => (kwargs.lookup name).getD default
  | none => .null

/-- Only a scheduler has jobs. -/
def AgentClass.jobs (cls : AgentClass) (own : Json) : Except String (List SchedulerJob) :=
  if cls = .SchedulerAgent then schedule_jobs own else .ok []

section

variable (lib : CipherLib) (cipher : Option PayloadCipher)

/-- `agent_cls(agent_id=…, …, **targets)` -/
def construct (cls : AgentClass) (agent_id : String) (group max_retries heartbeat_interval targets : Json) :
    Except String CreatedAgent :=
  match targets with
  | .obj kwargs => do
    check_targets cls kwargs
    let own := cls.own_of kwargs
    let jobs ← cls.jobs own
    return {
      agent_id, cls, group, max_retries, heartbeat_interval, own, jobs
      max_concurrency := max_concurrency_of kwargs
      -- `cipher or PayloadCipher()`
      cipher := cipher.getD ⟨lib, none⟩
      topics := jobs.map (·.topic) }
  | v => .error ("argument after ** must be a mapping, not " ++ v.type_name)

/-- The class of an entry; looking up a type that cannot be hashed raises. -/
def class_of (cfg : List (String × Json)) : Except String (Option (String × AgentClass)) :=
  let agent_type := (cfg.lookup "type").getD (.str "")
  agent_type.key.map fun
    | .str s => (AGENT_MAP.lookup s).map (s, ·)
    | _ => none

/-- `cfg.get("targets", {})` -/
def targets_of (cfg : List (String × Json)) : Json := (cfg.lookup "targets").getD (.obj [])

/-- `cfg.get("topics", [])` -/
def topics_of (cfg : List (String × Json)) : Json := (cfg.lookup "topics").getD (.arr [])

/-- An agent of a known type, subscribed to its topics. -/
def create (agent_id : String) (cfg : List (String × Json)) (agent_type : String) (cls : AgentClass) :
    Except String CreatedAgent := do
  let agent ← construct lib cipher cls agent_id
    ((cfg.lookup "group").getD (.str ("aqap-" ++ agent_type ++ "s")))
    ((cfg.lookup "max_retries").getD (.int 3)) ((cfg.lookup "heartbeat_interval").getD (.int 30))
    (targets_of cfg)
  let topics ← iterated (topics_of cfg)
  return { agent with topics := agent.topics ++ topics }

/-- What is done for one entry: there is no agent if its type is not known. -/
def create_agent (agent_id : String) (cfg : List (String × Json)) : Except String (Option CreatedAgent) := do
  match ← class_of cfg with
  | none => return none
  | some (agent_type, cls) => (create lib cipher agent_id cfg agent_type cls).map some

/-- The loop of `_init_agents`. -/
def init_agent_entries (s : SupervisorState CreatedAgent) :
    List (String × Json) → Except String (SupervisorState CreatedAgent)
  | [] => .ok s
  | (agent_id, .obj cfg) :: entries =>
    match create_agent lib cipher agent_id cfg with
    | .error e => .error e
    | .ok none => init_agent_entries s entries
    | .ok (some agent) => init_agent_entries (s.register agent_id agent) entries
  | (_, v) :: _ => .error (no_attribute v "get")

/-- `_init_agents`: the agents are created and registered one after another, up to the first that raises. -/
def _init_agents (s : SupervisorState CreatedAgent) (agent_configs : Json) :
    Except String (SupervisorState CreatedAgent) :=
  if !agent_configs.truthy then .ok s
  else match agent_configs with
    | .obj entries => init_agent_entries lib cipher s entries
    | v => .error (no_attribute v "items")

end

section

variable (lib : CipherLib) (crypto_available : Bool) (derive : String → List UInt8)

/-- `PayloadCipher(secret)`: `crypto_available` is whether the package `cryptography` is installed, and
`derive` is `_derive_key_bytes`. Without the package a warning is logged, and there is no key. -/
def cipher_of (secret : Json) : Except String PayloadCipher :=
  if secret.truthy && crypto_available then
    match secret with
    | .str secret => .ok ⟨lib, some (derive secret)⟩
    | v => .error (no_attribute v "encode")
  else .ok ⟨lib, none⟩

/-- Without a secret there is no cipher, and a warning is logged. -/
def _init_security (sec_cfg : Json) : Except String (Option PayloadCipher) :=
  match sec_cfg with
  | .obj cfg => do
    if ((cfg.lookup "enabled").getD .null).truthy then
      let secret := (cfg.lookup "secret").getD .null
      if !secret.truthy then return none
      let cipher ← cipher_of lib crypto_available derive secret
      return some cipher
    else
      -- `PayloadCipher()`
      let cipher ← cipher_of lib crypto_available derive .null
      return some cipher
  | v => .error (no_attribute v "get")

end

/-! ## Which configurations are accepted -/

/-- The arguments that a class can be constructed with. -/
structure AcceptsTargets (cls : AgentClass) (kwargs : List (String × Json)) : Prop where
  taken : ∀ kwarg ∈ kwargs, cls.takes kwarg.1 = true
  max_concurrency : comparable (max_concurrency_of kwargs) = true
  jobs : ∃ jobs, cls.jobs (cls.own_of kwargs) = .ok jobs

/-- The type of an entry can be looked up; and if it is known, its targets are arguments of its class, and its
topics can be gone through. -/
structure Accepts (cfg : List (String × Json)) : Prop where
  agent_type : ((cfg.lookup "type").getD (.str "")).Hashable
  targets : ∀ agent_type cls, class_of cfg = .ok (some (agent_type, cls)) →
    ∃ kwargs, targets_of cfg = .obj kwargs ∧ AcceptsTargets cls kwargs
  topics : ∀ agent_type cls, class_of cfg = .ok (some (agent_type, cls)) →
    ∃ topics, iterated (topics_of cfg) = .ok topics

/-- What a class takes is `max_concurrency` or its own parameter. -/
theorem takes_iff {cls : AgentClass} {name : String} :
    cls.takes name = true ↔ name = "max_concurrency" ∨ ∃ default, cls.own = some (name, default) := by
  cases cls <;> simp [AgentClass.takes, AgentClass.own]

/-- No class takes what the engine gives. -/
theorem not_engine_kwarg {cls : AgentClass} {name : String} (h : cls.takes name = true) :
    name ∉ engine_kwargs := by
  rcases takes_iff.mp h with rfl | ⟨default, hown⟩
  · decide
  · cases cls <;> cases hown <;> decide

theorem check_targets_ok_iff {cls : AgentClass} {kwargs : List (String × Json)} :
    check_targets cls kwargs = .ok () ↔
      (∀ kwarg ∈ kwargs, cls.takes kwarg.1 = true) ∧ comparable (max_concurrency_of kwargs) = true := by
  unfold check_targets
  constructor
  · intro h
    split at h
    · cases h
    · split at h
      · cases h
      · rename_i htaken
        split at h
        · rename_i hcomparable
          exact ⟨fun kwarg hmem => by simpa using List.find?_eq_none.mp htaken kwarg hmem, hcomparable⟩
        · cases h
  · rintro ⟨htaken, hcomparable⟩
    have hgiven : (kwargs.find? fun kwarg => engine_kwargs.contains kwarg.1) = none :=
      List.find?_eq_none.mpr fun kwarg hmem => by simpa using not_engine_kwarg (htaken kwarg hmem)
    have hother : (kwargs.find? fun kwarg => !cls.takes kwarg.1) = none :=
      List.find?_eq_none.mpr fun kwarg hmem => by simp [htaken kwarg hmem]
    rw [hgiven, hother, if_pos hcomparable]

variable {lib : CipherLib} {cipher : Option PayloadCipher} {agent_id agent_type : String} {cls : AgentClass}
  {cfg : List (String × Json)} {agent : CreatedAgent}

/-- What an entry's agent is made of. -/
structure MadeOf (lib : CipherLib) (cipher : Option PayloadCipher) (agent_id : String)
    (cfg : List (String × Json)) (agent_type : String) (kwargs : List (String × Json))
    (agent : CreatedAgent) : Prop where
  agent_id : agent.agent_id = agent_id
  group : agent.group = (cfg.lookup "group").getD (.str ("aqap-" ++ agent_type ++ "s"))
  max_retries : agent.max_retries = (cfg.lookup "max_retries").getD (.int 3)
  heartbeat_interval : agent.heartbeat_interval = (cfg.lookup "heartbeat_interval").getD (.int 30)
  cipher : agent.cipher = cipher.getD ⟨lib, none⟩
  max_concurrency : agent.max_concurrency = max_concurrency_of kwargs
  own : agent.own = agent.cls.own_of kwargs
  jobs : agent.cls.jobs agent.own = .ok agent.jobs
  topics : ∃ topics, iterated (topics_of cfg) = .ok topics ∧
    agent.topics = agent.jobs.map (·.topic) ++ topics

theorem create_eq_ok (h : create lib cipher agent_id cfg agent_type cls = .ok agent) :
    agent.cls = cls ∧ ∃ kwargs, targets_of cfg = .obj kwargs ∧ AcceptsTargets cls kwargs ∧
      MadeOf lib cipher agent_id cfg agent_type kwargs agent := by
  unfold create at h
  obtain ⟨made, hmade, h⟩ := bind_ok h
  obtain ⟨topics, htopics, h⟩ := bind_ok h
  cases h
  unfold construct at hmade
  split at hmade
  · rename_i kwargs htargets
    obtain ⟨⟨⟩, hcheck, hmade⟩ := bind_ok hmade
    obtain ⟨jobs, hjobs, hmade⟩ := bind_ok hmade
    cases hmade
    obtain ⟨htaken, hcomparable⟩ := check_targets_ok_iff.mp hcheck
    exact ⟨rfl, kwargs, htargets, ⟨htaken, hcomparable, jobs, hjobs⟩,
      ⟨rfl, rfl, rfl, rfl, rfl, rfl, rfl, hjobs, topics, htopics, rfl⟩⟩
  · cases hmade

theorem create_ok_of_accepts {kwargs : List (String × Json)} (htargets : targets_of cfg = .obj kwargs)
    (haccepts : AcceptsTargets cls kwargs) {topics : List Json}
    (htopics : iterated (topics_of cfg) = .ok topics) :
    ∃ agent, create lib cipher agent_id cfg agent_type cls = .ok agent := by
  obtain ⟨jobs, hjobs⟩ := haccepts.jobs
  have hcheck := check_targets_ok_iff.mpr ⟨haccepts.taken, haccepts.max_concurrency⟩
  cases h : create lib cipher agent_id cfg agent_type cls with
  | ok agent => exact ⟨agent, rfl⟩
  | error e =>
    unfold create construct at h
    rw [htargets, htopics] at h
    dsimp only at h
    rw [hcheck] at h
    dsimp only [bind, Except.bind] at h
    rw [hjobs] at h
    cases h

theorem class_of_ok_iff :
    (∃ known, class_of cfg = .ok known) ↔ ((cfg.lookup "type").getD (.str "")).Hashable := by
  rw [← Json.key_isOk_iff, class_of]
  cases ((cfg.lookup "type").getD (.str "")).key with
  | error e => simp [Except.map]
  | ok key => exact ⟨fun _ => ⟨key, rfl⟩, fun _ => ⟨_, rfl⟩⟩

theorem create_agent_ok_iff :
    (∃ made, create_agent lib cipher agent_id cfg = .ok made) ↔ Accepts cfg := by
  cases hclass : class_of cfg with
  | error e =>
    have hnot : ¬ ((cfg.lookup "type").getD (.str "")).Hashable := by
      rw [← class_of_ok_iff, hclass]
      simp
    refine iff_of_false ?_ fun h => hnot h.agent_type
    rintro ⟨made, h⟩
    rw [create_agent, hclass] at h
    cases h
  | ok known =>
    have hhash : ((cfg.lookup "type").getD (.str "")).Hashable := class_of_ok_iff.mp ⟨known, hclass⟩
    cases known with
    | none =>
      refine iff_of_true ⟨none, by rw [create_agent, hclass]; rfl⟩ ⟨hhash, ?_, ?_⟩
      · intro agent_type cls h
        rw [hclass] at h
        cases h
      · intro agent_type cls h
        rw [hclass] at h
        cases h
    | some known =>
      obtain ⟨agent_type, cls⟩ := known
      have hcreate : create_agent lib cipher agent_id cfg =
          (create lib cipher agent_id cfg agent_type cls).map some := by
        rw [create_agent, hclass]
        rfl
      rw [hcreate]
      constructor
      · rintro ⟨made, h⟩
        cases hagent : create lib cipher agent_id cfg agent_type cls with
        | error e => rw [hagent] at h; cases h
        | ok agent =>
          obtain ⟨-, kwargs, htargets, haccepts, hmade⟩ := create_eq_ok hagent
          obtain ⟨topics, htopics, -⟩ := hmade.topics
          refine ⟨hhash, fun _ _ h => ?_, fun _ _ h => ⟨topics, htopics⟩⟩
          rw [hclass] at h
          cases h
          exact ⟨kwargs, htargets, haccepts⟩
      · intro h
        obtain ⟨kwargs, htargets, haccepts⟩ := h.targets _ _ hclass
        obtain ⟨topics, htopics⟩ := h.topics _ _ hclass
        obtain ⟨agent, hagent⟩ := create_ok_of_accepts htargets haccepts htopics
        exact ⟨some agent, by rw [hagent]; rfl⟩

/-! ## The agents -/

variable {s s' : SupervisorState CreatedAgent} {entries : List (String × Json)}

theorem init_agent_entries_ok_iff :
    (∃ s', init_agent_entries lib cipher s entries = .ok s') ↔
      ∀ e ∈ entries, ∃ cfg, e.2 = .obj cfg ∧ Accepts cfg := by
  induction entries generalizing s with
  | nil => exact iff_of_true ⟨s, rfl⟩ fun e he => absurd he List.not_mem_nil
  | cons e entries ih =>
    obtain ⟨agent_id, v⟩ := e
    rw [List.forall_mem_cons]
    cases v with
    | obj cfg =>
      have hobj : (∃ cfg', Json.obj cfg = .obj cfg' ∧ Accepts cfg') ↔ Accepts cfg := by simp
      rw [hobj, ← @create_agent_ok_iff lib cipher agent_id cfg]
      cases hmade : create_agent lib cipher agent_id cfg with
      | error e => simp [init_agent_entries, hmade]
      | ok made =>
        rw [and_iff_right ⟨made, rfl⟩]
        cases made with
        | none => simpa only [init_agent_entries, hmade] using @ih s
        | some agent => simpa only [init_agent_entries, hmade] using @ih (s.register agent_id agent)
    | _ => simp [init_agent_entries]

/-- **Which configurations are accepted**: those whose entries are dictionaries with a type that can be looked
up, and, if the type is known, with targets that its class takes and with topics that can be gone through. -/
theorem init_agents_ok_iff (lib : CipherLib) (cipher : Option PayloadCipher)
    (s : SupervisorState CreatedAgent) (entries : List (String × Json)) :
    (∃ s', _init_agents lib cipher s (.obj entries) = .ok s') ↔
      ∀ e ∈ entries, ∃ cfg, e.2 = .obj cfg ∧ Accepts cfg := by
  rw [← @init_agent_entries_ok_iff lib cipher s entries]
  unfold _init_agents
  cases entries with
  | nil => rfl
  | cons e entries => rfl

/-- The entries leave what they are not about, and register what they create. -/
theorem get?_init_agent_entries (hnodup : (entries.map Prod.fst).Nodup)
    (h : init_agent_entries lib cipher s entries = .ok s') {id : String} :
    s'.agents.get? id = some agent ↔
      (∃ cfg, (id, .obj cfg) ∈ entries ∧ create_agent lib cipher id cfg = .ok (some agent)) ∨
        (∀ cfg agent', (id, .obj cfg) ∈ entries → create_agent lib cipher id cfg ≠ .ok (some agent')) ∧
          s.agents.get? id = some agent := by
  induction entries generalizing s with
  | nil => cases h; simp
  | cons e entries ih =>
    obtain ⟨agent_id, v⟩ := e
    rw [List.map_cons, List.nodup_cons] at hnodup
    obtain ⟨hnew, hnodup⟩ := hnodup
    have hother : ∀ cfg, (agent_id, Json.obj cfg) ∉ entries := fun cfg hmem =>
      hnew (List.mem_map.mpr ⟨_, hmem, rfl⟩)
    cases v with
    | obj cfg =>
      rw [init_agent_entries] at h
      have hmem : ∀ cfg', (id, Json.obj cfg') ∈ (agent_id, Json.obj cfg) :: entries ↔
          (id = agent_id ∧ cfg' = cfg) ∨ (id, Json.obj cfg') ∈ entries := by
        intro cfg'
        rw [List.mem_cons, Prod.mk.injEq, Json.obj.injEq]
      cases hmade : create_agent lib cipher agent_id cfg with
      | error e => rw [hmade] at h; cases h
      | ok made =>
        rw [hmade] at h
        by_cases hid : id = agent_id
        · subst hid
          cases made with
          | none =>
            have hnone : ∀ cfg' agent', cfg' = cfg →
                create_agent lib cipher id cfg' ≠ .ok (some agent') := by
              rintro _ agent' rfl
              rw [hmade]
              simp
            rw [ih hnodup h]
            simpa [hmem, hother, hmade] using fun _ => hnone
          | some agent' =>
            rw [ih hnodup h]
            simp [hmem, hother, hmade, SupervisorState.register, eq_comm]
        · cases made with
          | none =>
            rw [ih hnodup h]
            simp [hmem, hid]
          | some agent' =>
            rw [ih hnodup h]
            simp [hmem, hid, SupervisorState.register]
    | _ => cases h

/-- If the agents are created, the registered ones are those that are created of the entries, each under the key
of its entry. -/
theorem registered_iff {lib : CipherLib} {cipher : Option PayloadCipher} {clock : Int}
    {entries : List (String × Json)} (hnodup : (entries.map Prod.fst).Nodup)
    {s' : SupervisorState CreatedAgent}
    (h : _init_agents lib cipher (.new clock) (.obj entries) = .ok s') (id : String) (agent : CreatedAgent) :
    s'.agents.get? id = some agent ↔
      ∃ cfg, (id, .obj cfg) ∈ entries ∧ create_agent lib cipher id cfg = .ok (some agent) := by
  have hentries : init_agent_entries lib cipher (.new clock) entries = .ok s' := by
    cases entries with
    | nil => exact h
    | cons e entries => exact h
  rw [get?_init_agent_entries hnodup hentries]
  simp [SupervisorState.new]

theorem made_of_registered {clock : Int} (hnodup : (entries.map Prod.fst).Nodup)
    (h : _init_agents lib cipher (.new clock) (.obj entries) = .ok s') {id : String}
    (hagent : s'.agents.get? id = some agent) :
    ∃ cfg agent_type kwargs, (id, .obj cfg) ∈ entries ∧ class_of cfg = .ok (some (agent_type, agent.cls)) ∧
      targets_of cfg = .obj kwargs ∧ MadeOf lib cipher id cfg agent_type kwargs agent := by
  obtain ⟨cfg, hmem, hmade⟩ := (registered_iff hnodup h id agent).mp hagent
  unfold create_agent at hmade
  obtain ⟨known, hclass, hmade⟩ := bind_ok hmade
  cases known with
  | none => cases hmade
  | some known =>
    obtain ⟨agent_type, cls⟩ := known
    dsimp only at hmade
    cases hcreate : create lib cipher id cfg agent_type cls with
    | error e => rw [hcreate] at hmade; cases hmade
    | ok made =>
      rw [hcreate] at hmade
      cases hmade
      obtain ⟨rfl, kwargs, htargets, -, hmadeof⟩ := create_eq_ok hcreate
      exact ⟨cfg, agent_type, kwargs, hmem, hclass, htargets, hmadeof⟩

/-- The key of a cipher: the package is installed, and there is a secret to derive it of. -/
theorem key_cipher_of {crypto_available : Bool} {derive : String → List UInt8} {secret : Json}
    {cipher : PayloadCipher} (h : cipher_of lib crypto_available derive secret = .ok cipher) (key : List UInt8) :
    cipher.key = some key ↔
      crypto_available = true ∧ ∃ text, secret = .str text ∧ text ≠ "" ∧ key = derive text := by
  unfold cipher_of at h
  by_cases htaken : (secret.truthy && crypto_available) = true
  · rw [if_pos htaken] at h
    obtain ⟨htruthy, havailable⟩ := (Bool.and_eq_true ..).mp htaken
    cases secret with
    | str text =>
      cases h
      have hne : text ≠ "" := by simpa [Json.truthy] using htruthy
      simp [havailable, hne, eq_comm]
    | _ => cases h
  · rw [if_neg htaken] at h
    cases h
    refine iff_of_false (by simp) ?_
    rintro ⟨havailable, text, rfl, hne, -⟩
    exact htaken (by simp [Json.truthy, hne, havailable])

/-- The key of the agents' cipher. -/
theorem key_init_security {crypto_available : Bool} {derive : String → List UInt8} {sec_cfg : Json}
    (h : _init_security lib crypto_available derive sec_cfg = .ok cipher) (key : List UInt8) :
    (cipher.getD ⟨lib, none⟩).key = some key ↔ crypto_available = true ∧
      ∃ cfg secret, sec_cfg = .obj cfg ∧ ((cfg.lookup "enabled").getD .null).truthy = true ∧
        cfg.lookup "secret" = some (.str secret) ∧ secret ≠ "" ∧ key = derive secret := by
  unfold _init_security at h
  cases sec_cfg with
  | obj cfg =>
    dsimp only at h
    by_cases henabled : ((cfg.lookup "enabled").getD .null).truthy = true
    · rw [if_pos henabled] at h
      by_cases htruthy : ((cfg.lookup "secret").getD .null).truthy = true
      · rw [htruthy, Bool.not_true, if_neg Bool.false_ne_true] at h
        obtain ⟨made, hmade, h⟩ := bind_ok h
        cases h
        rw [Option.getD_some, key_cipher_of hmade]
        refine and_congr_right fun _ => ⟨?_, ?_⟩
        · rintro ⟨text, hsecret, hne, hkey⟩
          refine ⟨cfg, text, rfl, henabled, ?_, hne, hkey⟩
          cases hlookup : cfg.lookup "secret" with
          | none => rw [hlookup] at hsecret; cases hsecret
          | some v => rw [hlookup, Option.getD_some] at hsecret; rw [hsecret]
        · rintro ⟨_, text, ⟨⟩, -, hsecret, hne, hkey⟩
          exact ⟨text, by rw [hsecret, Option.getD_some], hne, hkey⟩
      · rw [Bool.not_eq_true] at htruthy
        rw [htruthy, Bool.not_false, if_pos rfl] at h
        cases h
        refine iff_of_false (by simp) ?_
        rintro ⟨-, _, text, ⟨⟩, -, hsecret, hne, -⟩
        rw [hsecret, Option.getD_some] at htruthy
        exact hne (by simpa [Json.truthy] using htruthy)
    · rw [if_neg henabled] at h
      obtain ⟨made, hmade, h⟩ := bind_ok h
      cases h
      refine iff_of_false (fun hkey => ?_) ?_
      · obtain ⟨-, text, htext, -⟩ := (key_cipher_of hmade key).mp hkey
        cases htext
      · rintro ⟨-, _, text, ⟨⟩, htrue, -⟩
        exact henabled htrue
  | _ => cases h

/-- **When the agents encrypt.** Every agent that the engine registers has a key exactly if the package
`cryptography` is installed and the security section is enabled and has a secret, and then the one that is
derived of it; without the package or a secret they all run, and do not encrypt. -/
theorem encrypts_iff {lib : CipherLib} {crypto_available : Bool} {derive : String → List UInt8} {sec_cfg : Json}
    {cipher : Option PayloadCipher}
    (hsecurity : _init_security lib crypto_available derive sec_cfg = .ok cipher) {clock : Int}
    {entries : List (String × Json)} (hnodup : (entries.map Prod.fst).Nodup)
    {s' : SupervisorState CreatedAgent}
    (h : _init_agents lib cipher (.new clock) (.obj entries) = .ok s') {id : String} {agent : CreatedAgent}
    (hagent : s'.agents.get? id = some agent) (key : List UInt8) :
    agent.cipher.key = some key ↔ crypto_available = true ∧
      ∃ cfg secret, sec_cfg = .obj cfg ∧ ((cfg.lookup "enabled").getD .null).truthy = true ∧
        cfg.lookup "secret" = some (.str secret) ∧ secret ≠ "" ∧ key = derive secret := by
  obtain ⟨cfg, agent_type, kwargs, -, -, -, hmade⟩ := made_of_registered hnodup h hagent
  rw [hmade.cipher]
  exact key_init_security hsecurity key

/-- **The schedule of a scheduler is not passed on.** A registered scheduler has the default job and no other one,
whatever the `schedule` of its entry is, unless there is a schedule among its `targets`. -/
theorem schedule_ignored {lib : CipherLib} {cipher : Option PayloadCipher} {clock : Int}
    {entries : List (String × Json)} (hnodup : (entries.map Prod.fst).Nodup)
    {s' : SupervisorState CreatedAgent}
    (h : _init_agents lib cipher (.new clock) (.obj entries) = .ok s') {id : String} {agent : CreatedAgent}
    (hagent : s'.agents.get? id = some agent) (hscheduler : agent.cls = .SchedulerAgent) :
    agent.jobs = [default_job] ∨
      ∃ cfg kwargs schedule, (id, .obj cfg) ∈ entries ∧ cfg.lookup "targets" = some (.obj kwargs) ∧
        kwargs.lookup "schedule" = some schedule ∧ schedule.truthy = true := by
  obtain ⟨cfg, agent_type, kwargs, hmem, -, htargets, hmade⟩ := made_of_registered hnodup h hagent
  have hjobs := hmade.jobs
  rw [hmade.own, hscheduler] at hjobs
  have hjobs' : schedule_jobs ((kwargs.lookup "schedule").getD .null) = .ok agent.jobs := hjobs
  by_cases htruthy : ((kwargs.lookup "schedule").getD .null).truthy = true
  · right
    cases hschedule : kwargs.lookup "schedule" with
    | none =>
      rw [hschedule] at htruthy
      cases htruthy
    | some schedule =>
      rw [hschedule] at htruthy
      refine ⟨cfg, kwargs, schedule, hmem, ?_, hschedule, htruthy⟩
      unfold targets_of at htargets
      cases htarget : cfg.lookup "targets" with
      | none =>
        rw [htarget] at htargets
        cases htargets
        cases hschedule
      | some v => rw [htarget, Option.getD_some] at htargets; rw [htargets]
  · left
    unfold schedule_jobs at hjobs'
    rw [if_neg htruthy] at hjobs'
    exact (Except.ok.inj hjobs').symm

/-! ## A sample -/

/-- Texts and bytes as they are. -/
def startup_lib : CipherLib where
  dumps _ := .ok []
  loads _ := .ok .null
  b64encode _ := ""
  b64decode _ := .ok []
  urandom _ := []
  encrypt _ _ data := data
  decrypt _ _ data := .ok data

/-- A probe, and a scheduler with a schedule. -/
def startup_entries : List (String × Json) := [
  ("probe-1", .obj [
    ("type", .str "probe"),
    ("topics", .arr [.str "aqap:agent:probe"]),
    ("targets", .obj [("judge_target", .str "judge-2")])]),
  ("scheduler-1", .obj [
    ("type", .str "scheduler"),
    ("schedule", .arr [.obj [("cron", .str "@hourly")]])])]

def startup_security : Json := .obj [("enabled", .bool true), ("secret", .str "s")]

def startup_cipher : PayloadCipher := ⟨startup_lib, some [0x73]⟩

def startup_derive (_ : String) : List UInt8 := [0x73]

def startup_state : SupervisorState CreatedAgent :=
  match _init_agents startup_lib (some startup_cipher) (.new 0) (.obj startup_entries) with
  | .ok s => s
  | .error _ => .new 0

theorem startup_accepted : _init_agents startup_lib (some startup_cipher) (.new 0) (.obj startup_entries) =
    .ok startup_state := rfl

/-- The scheduler that is registered. -/
def startup_scheduler : CreatedAgent where
  agent_id := "scheduler-1"
  cls := .SchedulerAgent
  group := .str "aqap-schedulers"
  max_retries := .int 3
  heartbeat_interval := .int 30
  cipher := startup_cipher
  max_concurrency := .int 0
  own := .null
  jobs := [default_job]
  topics := [.str "aqap:agent:probe"]

theorem startup_registered : startup_state.agents.get? "scheduler-1" = some startup_scheduler := rfl

theorem encrypts_iff_sample :
    startup_scheduler.cipher.key = some [0x73] ↔ true = true ∧
      ∃ cfg secret, startup_security = .obj cfg ∧ ((cfg.lookup "enabled").getD .null).truthy = true ∧
        cfg.lookup "secret" = some (.str secret) ∧ secret ≠ "" ∧ [0x73] = startup_derive secret :=
  encrypts_iff rfl (by decide) startup_accepted startup_registered [0x73]

theorem schedule_ignored_sample :
    startup_scheduler.jobs = [default_job] ∨
      ∃ cfg kwargs schedule, ("scheduler-1", .obj cfg) ∈ startup_entries ∧
        cfg.lookup "targets" = some (.obj kwargs) ∧ kwargs.lookup "schedule" = some schedule ∧
        schedule.truthy = true :=
  schedule_ignored (by decide) startup_accepted startup_registered rfl

end Aqap
