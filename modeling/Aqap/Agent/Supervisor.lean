import Aqap.Agent.Base
import Aqap.Async.Workers

/-!
# The supervisor

`AgentSupervisor` starts and stops the agents, and its monitor restarts those whose last heartbeat is too old.
A restart leaves the heartbeat as it is, and nothing is known of an agent that has not sent one.

* `run_restart_agent`, `run_turn`: the ways through a restart, and through one turn of the monitor.
* `restarted_by_turns`: in which turns the monitor restarts an agent.
* `start_all_monitors_iff`: when `start_all` gets to the monitor.
* `stop_all_stops`: what `stop_all` awaits, whatever the agents raise.
-/

namespace Aqap

open Py Async

def HEARTBEAT_TIMEOUT : Int := 90

/-- What the supervisor awaits. -/
inductive SupervisorRequest (α : Type) where
  /-- `agent.start()` -/
  | start (agent_id : String) (agent : α)
  /-- `agent.stop()` -/
  | stop (agent_id : String) (agent : α)
  | sleep (ticks : Int)
  /-- `self._monitor_task`, which was cancelled -/
  | monitor_task
  deriving DecidableEq

/-- `α` are the agents. -/
structure SupervisorState (α : Type) where
  agents : Dict String α
  last_heartbeat : Dict String Int
  running : Bool
  /-- `_monitor_task` is a task. -/
  monitored : Bool
  /-- `time.time()` -/
  clock : Int

/-- An `async` method of the supervisor. -/
abbrev SupervisorCo (α β : Type) := Co (SupervisorState α) (SupervisorRequest α) (fun _ => Unit) β

abbrev SupervisorEvent (α : Type) := Event (SupervisorState α) (SupervisorRequest α) fun _ => Unit

/-- The heartbeat timeout is in seconds. -/
structure AgentSupervisor where
  heartbeat_timeout : Int := HEARTBEAT_TIMEOUT

/-- The order in which a set of ids is iterated. -/
structure SetOrder where
  order : List String → List String
  perm : ∀ ids, (order ids).Perm ids

/-- What `get_status` says of an agent. -/
inductive AgentStatus where
  | unknown
  | stale (last_heartbeat elapsed : Int)
  | healthy (elapsed : Int)
  deriving DecidableEq

namespace SupervisorState

variable {α : Type} (s : SupervisorState α)

/-- A supervisor as `__init__` leaves it. -/
def new (clock : Int) : SupervisorState α where
  agents := .empty
  last_heartbeat := .empty
  running := false
  monitored := false
  clock

/-- `register` -/
def register (agent_id : String) (agent : α) : SupervisorState α :=
  { s with agents := s.agents.set agent_id agent }

/-- `record_heartbeat` -/
def record_heartbeat (agent_id : String) : SupervisorState α :=
  { s with last_heartbeat := s.last_heartbeat.set agent_id s.clock }

/-- `set(self._agents.keys()) | set(self._last_heartbeat.keys())` -/
def all_ids : List String := s.agents.keys ∪ s.last_heartbeat.keys

end SupervisorState

namespace AgentSupervisor

variable {α : Type} (self : AgentSupervisor)

/-- `get_status` of one agent. -/
def status (s : SupervisorState α) (agent_id : String) : AgentStatus :=
  match s.last_heartbeat.get? agent_id with
  | none => .unknown
  | some last =>
    let elapsed := s.clock - last
    if self.heartbeat_timeout * second < elapsed then .stale last elapsed else .healthy elapsed

/-- The `"agents"` of the result, in their order. -/
def health_check (order : SetOrder) (s : SupervisorState α) : List (String × AgentStatus) :=
  (order.order s.all_ids).map fun agent_id => (agent_id, self.status s agent_id)

/-- `try: await …` with `except Exception`, which logs it. -/
def logged (q : SupervisorRequest α) : SupervisorCo α Unit := (Co.call q).tryExcept fun _ => pure ()

/-- `restart_agent`: a failing stop or start is logged. -/
def restart_agent (agent_id : String) : SupervisorCo α Unit := do
  let agent ← Co.read fun s => s.agents.get? agent_id
  match agent with
  | none => pure ()
  | some agent =>
    logged (.stop agent_id agent)
    logged (.start agent_id agent)

/-! ## The monitor -/

/-- The second loop of `_monitor_loop`. -/
def restart_stale : List (String × AgentStatus) → SupervisorCo α Unit
  | [] => pure ()
  | (agent_id, .stale _ _) :: statuses => do
    restart_agent agent_id
    restart_stale statuses
  | _ :: statuses => restart_stale statuses

/-- One turn of `_monitor_loop`; the result says whether it goes on. -/
def turn (order : SetOrder) : SupervisorCo α Bool := do
  let running ← Co.read (·.running)
  if running then
    let statuses ← Co.read (self.health_check order)
    restart_stale statuses
    Co.call (.sleep (self.heartbeat_timeout / 3 * second))
    pure true
  else pure false

/-- The first turns of `_monitor_loop`, with the orders in which they go through the ids. -/
def monitor_loop : List SetOrder → SupervisorCo α Unit
  | [] => pure ()
  | order :: orders => do
    let goes_on ← self.turn order
    if goes_on then monitor_loop orders else pure ()

/-! ## Starting and stopping all agents -/

/-- The next item of a dictionary of which an iteration began when it had `size` items. -/
def same_size (size : Nat) : SupervisorCo α Unit := do
  let now ← Co.read fun s => s.agents.size
  if now = size then pure () else Co.raise (.error "dictionary changed size during iteration")

/-- The loop of `start_all`. It iterates over `_agents` itself; keys are never removed, so as long as the size
is the same, so are the keys. -/
def start_agents (size : Nat) : List String → SupervisorCo α Unit
  | [] => same_size size
  | agent_id :: ids => do
    same_size size
    let agent ← Co.read fun s => s.agents.get? agent_id
    match agent with
    | none => pure ()
    | some agent => logged (.start agent_id agent)
    start_agents size ids

/-- `start_all`: the flag is set before the agents are started, the monitor is created after them. -/
def start_all : SupervisorCo α Unit := do
  Co.update fun s => { s with running := true }
  let ids ← Co.read fun s => s.agents.keys
  start_agents ids.length ids
  Co.update fun s => { s with monitored := true }

/-- `try: await self._monitor_task` with `except asyncio.CancelledError` -/
def join_monitor : SupervisorCo α Unit :=
  Co.await .monitor_task fun ans => match ans with
    | .error .cancelled => pure ()
    | ans => Co.ofExcept ans

/-- The loop of `stop_all`, over a list of the items. -/
def stop_agents : List (String × α) → SupervisorCo α Unit
  | [] => pure ()
  | (agent_id, agent) :: items => do
    logged (.stop agent_id agent)
    stop_agents items

/-- `stop_all`: the monitor is awaited before the agents are stopped. -/
def stop_all : SupervisorCo α Unit := do
  Co.update fun s => { s with running := false }
  let monitored ← Co.read (·.monitored)
  if monitored then join_monitor else pure ()
  let items ← Co.read fun s => s.agents.items
  stop_agents items

/-! ## What the monitor restarts -/

/-- What is asked of one agent. -/
inductive Demand where
  | stop
  | start
  deriving DecidableEq

end AgentSupervisor

open AgentSupervisor

/-- What a request asks of the agent. -/
def SupervisorRequest.about {α : Type} (agent_id : String) : SupervisorRequest α → Option Demand
  | start id _ => if id = agent_id then some .start else none
  | stop id _ => if id = agent_id then some .stop else none
  | _ => none

namespace AgentSupervisor

variable {α : Type} {self : AgentSupervisor} {R : SupervisorState α → SupervisorState α → Prop}
  {s s' : SupervisorState α} {tr tr₁ tr₂ : List (SupervisorEvent α)} {agent_id id : String}

/-- What the events of a run asked of the agent. -/
def asked (agent_id : String) (tr : List (SupervisorEvent α)) : List Demand :=
  tr.filterMap fun ev => ev.req.about agent_id

@[simp] theorem asked_nil : asked agent_id ([] : List (SupervisorEvent α)) = [] := rfl

@[simp] theorem asked_append : asked agent_id (tr₁ ++ tr₂) = asked agent_id tr₁ ++ asked agent_id tr₂ :=
  List.filterMap_append ..

/-- The other tasks remove no agent. -/
def KeepsAgents (R : SupervisorState α → SupervisorState α → Prop) : Prop :=
  ∀ s s' agent_id, R s s' → (s.agents.get? agent_id).isSome → (s'.agents.get? agent_id).isSome

/-- The last heartbeat is longer ago than the timeout. -/
def Stale (self : AgentSupervisor) (s : SupervisorState α) (agent_id : String) : Prop :=
  ∃ last, s.last_heartbeat.get? agent_id = some last ∧ self.heartbeat_timeout * second < s.clock - last

theorem run_logged {q : SupervisorRequest α} {r : Except Exc Unit} :
    Co.Run R (logged q) s tr s' r ↔ ∃ ans, tr = [⟨q, ans, s'⟩] ∧ R s s' ∧
      r = if ans = .error .cancelled then .error .cancelled else .ok () := by
  rw [logged, Co.run_tryExcept]
  constructor
  · rintro (⟨a, h, rfl⟩ | ⟨h, rfl⟩ | ⟨text, tr₁, s₁, tr₂, h, rfl, rfl, rfl, rfl⟩)
    · obtain ⟨rfl, hR⟩ := Co.run_call.mp h
      exact ⟨.ok a, rfl, hR, rfl⟩
    · obtain ⟨rfl, hR⟩ := Co.run_call.mp h
      exact ⟨.error .cancelled, rfl, hR, rfl⟩
    · obtain ⟨rfl, hR⟩ := Co.run_call.mp h
      exact ⟨.error (.error text), rfl, hR, rfl⟩
  · rintro ⟨ans, rfl, hR, rfl⟩
    match ans with
    | .ok () => exact .inl ⟨(), Co.run_call.mpr ⟨rfl, hR⟩, rfl⟩
    | .error .cancelled => exact .inr (.inl ⟨Co.run_call.mpr ⟨rfl, hR⟩, rfl⟩)
    | .error (.error text) =>
      exact .inr (.inr ⟨text, _, s', [], Co.run_call.mpr ⟨rfl, hR⟩, rfl, rfl, rfl, rfl⟩)

/-- How a run that is about one agent ends: it was cancelled before it had asked all that it is to ask, or it
has asked all. -/
def Asked (expected : List Demand) (asked : List Demand) {β : Type} (r : Except Exc β) : Prop :=
  (r = .error .cancelled ∧ asked <+: expected) ∨ ((∃ b, r = .ok b) ∧ asked = expected)

/-- A restart of a registered agent stops it and starts it, whatever these raise; only a cancellation ends it
before. -/
theorem run_restart_agent {r : Except Exc Unit} (hR : KeepsAgents R)
    (hregistered : (s.agents.get? agent_id).isSome) (h : Co.Run R (restart_agent id) s tr s' r) :
    (s'.agents.get? agent_id).isSome ∧
      Asked (if id = agent_id then [.stop, .start] else []) (asked agent_id tr) r := by
  rw [restart_agent, Co.run_read_bind] at h
  cases hagent : s.agents.get? id with
  | none =>
    rw [hagent] at h
    obtain ⟨rfl, rfl, rfl⟩ := h
    have hne : id ≠ agent_id := by
      rintro rfl
      simp [hagent] at hregistered
    rw [if_neg hne]
    exact ⟨hregistered, .inr ⟨⟨(), rfl⟩, rfl⟩⟩
  | some agent =>
    rw [hagent] at h
    dsimp only at h
    rw [Co.run_bind] at h
    rcases h with ⟨e, hstop, rfl⟩ | ⟨⟨⟩, tr₁, s₁, tr₂, hstop, rfl, hstart⟩
    · obtain ⟨ans, rfl, hs, hans⟩ := run_logged.mp hstop
      refine ⟨hR _ _ _ hs hregistered, .inl ⟨?_, ?_⟩⟩
      · split at hans
        · exact hans
        · cases hans
      · by_cases hid : id = agent_id <;> simp [asked, SupervisorRequest.about, hid]
    · obtain ⟨ans, rfl, hs, -⟩ := run_logged.mp hstop
      obtain ⟨ans', rfl, hs', rfl⟩ := run_logged.mp hstart
      refine ⟨hR _ _ _ hs' (hR _ _ _ hs hregistered), ?_⟩
      have hasked : asked agent_id ([⟨.stop id agent, ans, s₁⟩] ++ [⟨.start id agent, ans', s'⟩]) =
          if id = agent_id then [.stop, .start] else [] := by
        by_cases hid : id = agent_id <;> simp [asked, SupervisorRequest.about, hid]
      rw [hasked]
      by_cases hans : ans' = .error .cancelled
      · exact .inl ⟨if_pos hans, List.prefix_rfl⟩
      · exact .inr ⟨⟨(), if_neg hans⟩, rfl⟩

/-- What a turn asks of an agent. -/
def restarts (self : AgentSupervisor) (agent_id : String) (s : SupervisorState α) : List Demand :=
  if s.running then
    match self.status s agent_id with
    | .stale _ _ => [.stop, .start]
    | _ => []
  else []

theorem Asked.append {expected₁ expected₂ asked₁ asked₂ : List Demand} {β : Type} {r : Except Exc β}
    (h₁ : asked₁ = expected₁) (h₂ : Asked expected₂ asked₂ r) :
    Asked (expected₁ ++ expected₂) (asked₁ ++ asked₂) r := by
  rw [h₁]
  rcases h₂ with ⟨hr, hfirst⟩ | ⟨hr, heq⟩
  · exact .inl ⟨hr, (List.prefix_append_right_inj _).mpr hfirst⟩
  · exact .inr ⟨hr, by rw [heq]⟩

/-- The demands for an agent among some statuses. -/
def demands (agent_id : String) (statuses : List (String × AgentStatus)) : List Demand :=
  statuses.flatMap fun e => match e with
    | (id, .stale _ _) => if id = agent_id then [.stop, .start] else []
    | _ => []

theorem run_restart_stale {statuses : List (String × AgentStatus)} {r : Except Exc Unit}
    (hR : KeepsAgents R) (hregistered : (s.agents.get? agent_id).isSome)
    (h : Co.Run R (restart_stale statuses) s tr s' r) :
    (s'.agents.get? agent_id).isSome ∧ Asked (demands agent_id statuses) (asked agent_id tr) r := by
  induction statuses generalizing s tr with
  | nil =>
    obtain ⟨rfl, rfl, rfl⟩ := h
    exact ⟨hregistered, .inr ⟨⟨(), rfl⟩, rfl⟩⟩
  | cons e statuses ih =>
    obtain ⟨id, status⟩ := e
    cases status with
    | stale last elapsed =>
      rw [restart_stale, Co.run_bind] at h
      rcases h with ⟨e, hrestart, rfl⟩ | ⟨⟨⟩, tr₁, s₁, tr₂, hrestart, rfl, hrest⟩
      · obtain ⟨hs', hasked⟩ := run_restart_agent hR hregistered hrestart
        rcases hasked with ⟨hr, hfirst⟩ | ⟨⟨b, hr⟩, -⟩
        · exact ⟨hs', .inl ⟨hr, hfirst.trans (List.prefix_append _ _)⟩⟩
        · cases hr
      · obtain ⟨hs₁, hasked⟩ := run_restart_agent hR hregistered hrestart
        obtain ⟨hs', hrest⟩ := ih hs₁ hrest
        rcases hasked with ⟨hr, -⟩ | ⟨-, heq⟩
        · cases hr
        · rw [asked_append]
          exact ⟨hs', hrest.append heq⟩
    | unknown => exact ih hregistered h
    | healthy elapsed => exact ih hregistered h

theorem commands_of_not_mem {ids : List String} {f : String → AgentStatus} (h : agent_id ∉ ids) :
    demands agent_id (ids.map fun id => (id, f id)) = [] := by
  unfold demands
  rw [List.flatMap_eq_nil_iff]
  intro e he
  obtain ⟨id, hid, rfl⟩ := List.mem_map.mp he
  have hne : id ≠ agent_id := fun heq => h (heq ▸ hid)
  cases f id <;> simp [hne]

/-- A health check has one status of each id. -/
theorem commands_health_check (order : SetOrder) (hregistered : (s.agents.get? agent_id).isSome) :
    demands agent_id (self.health_check order s) =
      match self.status s agent_id with
      | .stale _ _ => [.stop, .start]
      | _ => [] := by
  have hnodup : (order.order s.all_ids).Nodup := by
    rw [(order.perm _).nodup_iff]
    exact List.Nodup.union _ s.last_heartbeat.nodup
  have hmem : agent_id ∈ order.order s.all_ids := by
    rw [(order.perm _).mem_iff]
    exact List.mem_union_iff.mpr (.inl (Dict.mem_keys_iff.mpr hregistered))
  obtain ⟨before, after, hids⟩ := List.append_of_mem hmem
  rw [hids] at hnodup
  have hbefore : agent_id ∉ before := fun h =>
    (List.disjoint_of_nodup_append hnodup h) List.mem_cons_self
  have hafter : agent_id ∉ after := (List.nodup_cons.mp (List.nodup_append.mp hnodup).2.1).1
  have hsplit : demands agent_id (self.health_check order s) =
      demands agent_id (before.map fun id => (id, self.status s id)) ++
        (demands agent_id [(agent_id, self.status s agent_id)] ++
          demands agent_id (after.map fun id => (id, self.status s id))) := by
    simp only [health_check, hids, demands, List.map_append, List.map_cons, List.flatMap_append,
      List.flatMap_cons, List.flatMap_nil, List.append_nil]
  rw [hsplit, commands_of_not_mem hbefore, commands_of_not_mem hafter, List.nil_append, List.append_nil]
  unfold demands
  cases self.status s agent_id <;> simp

/-- The states in which the sleeps of a run were over. -/
def slept (tr : List (SupervisorEvent α)) : List (SupervisorState α) :=
  tr.filterMap fun ev => match ev.req, ev.ans with
    | .sleep _, .ok () => some ev.resumed
    | _, _ => none

@[simp] theorem slept_append : slept (tr₁ ++ tr₂) = slept tr₁ ++ slept tr₂ := List.filterMap_append ..

/-- `asyncio.sleep` raises nothing but a cancellation. -/
def SleepsOnly (tr : List (SupervisorEvent α)) : Prop :=
  ∀ ev ∈ tr, ∀ ticks text, ev.req = .sleep ticks → ev.ans ≠ .error (.error text)

theorem slept_restart_agent {r : Except Exc Unit} (h : Co.Run R (restart_agent id) s tr s' r) :
    slept tr = [] := by
  rw [restart_agent, Co.run_read_bind] at h
  cases hagent : s.agents.get? id with
  | none =>
    rw [hagent] at h
    obtain ⟨rfl, -, -⟩ := h
    rfl
  | some agent =>
    rw [hagent] at h
    dsimp only at h
    rw [Co.run_bind] at h
    rcases h with ⟨e, hstop, rfl⟩ | ⟨⟨⟩, tr₁, s₁, tr₂, hstop, rfl, hstart⟩
    · obtain ⟨ans, rfl, -⟩ := run_logged.mp hstop
      rfl
    · obtain ⟨ans, rfl, -⟩ := run_logged.mp hstop
      obtain ⟨ans', rfl, -⟩ := run_logged.mp hstart
      rfl

theorem slept_restart_stale {statuses : List (String × AgentStatus)} {r : Except Exc Unit}
    (h : Co.Run R (restart_stale statuses) s tr s' r) : slept tr = [] := by
  induction statuses generalizing s tr with
  | nil =>
    obtain ⟨rfl, -, -⟩ := h
    rfl
  | cons e statuses ih =>
    obtain ⟨id, status⟩ := e
    cases status with
    | stale last elapsed =>
      rw [restart_stale, Co.run_bind] at h
      rcases h with ⟨e, hrestart, -⟩ | ⟨⟨⟩, tr₁, s₁, tr₂, hrestart, rfl, hrest⟩
      · exact slept_restart_agent hrestart
      · rw [slept_append, slept_restart_agent hrestart, ih hrest, List.append_nil]
    | unknown => exact ih h
    | healthy elapsed => exact ih h

/-- A turn restarts the agent if it was stale at the start, and sleeps; it ends the loop if the supervisor does
not run. -/
theorem run_turn {order : SetOrder} {r : Except Exc Bool} (hR : KeepsAgents R) (hsleeps : SleepsOnly tr)
    (hregistered : (s.agents.get? agent_id).isSome) (h : Co.Run R (self.turn order) s tr s' r) :
    (s'.agents.get? agent_id).isSome ∧ Asked (self.restarts agent_id s) (asked agent_id tr) r ∧
      (r = .ok true → slept tr = [s']) ∧ (r = .ok false → slept tr = []) := by
  rw [turn, Co.run_read_bind] at h
  cases hrunning : s.running with
  | false =>
    rw [hrunning] at h
    obtain ⟨rfl, rfl, rfl⟩ := h
    refine ⟨hregistered, .inr ⟨⟨false, rfl⟩, ?_⟩, nofun, fun _ => rfl⟩
    simp [restarts, hrunning]
  | true =>
    rw [hrunning, if_pos rfl, Co.run_read_bind, Co.run_bind] at h
    have hexpected : self.restarts agent_id s = demands agent_id (self.health_check order s) := by
      rw [commands_health_check order hregistered, restarts, hrunning, if_pos rfl]
    rw [hexpected]
    rcases h with ⟨e, hstale, rfl⟩ | ⟨⟨⟩, tr₁, s₁, tr₂, hstale, rfl, hrest⟩
    · obtain ⟨hs', hasked⟩ := run_restart_stale hR hregistered hstale
      refine ⟨hs', ?_, nofun, nofun⟩
      rcases hasked with ⟨hr, hfirst⟩ | ⟨⟨b, hr⟩, -⟩
      · cases hr
        exact .inl ⟨rfl, hfirst⟩
      · cases hr
    · obtain ⟨hs₁, hasked⟩ := run_restart_stale hR hregistered hstale
      rcases hasked with ⟨hr, -⟩ | ⟨-, hasked⟩
      · cases hr
      obtain ⟨ans, s₂, tr₃, rfl, hs₂, hend⟩ := Co.run_call_bind.mp hrest
      have hs' := hR _ _ agent_id hs₂ hs₁
      rcases hend with ⟨e, rfl, rfl, rfl, rfl⟩ | ⟨⟨⟩, rfl, rfl, rfl, rfl⟩
      · refine ⟨hs', .inl ⟨?_, ?_⟩, nofun, nofun⟩
        · cases e with
          | cancelled => rfl
          | error text => exact absurd rfl (hsleeps _ (List.mem_append_right _ List.mem_cons_self) _ text rfl)
        · rw [asked_append, hasked]
          simp [asked, SupervisorRequest.about]
      · refine ⟨hs', .inr ⟨⟨true, rfl⟩, ?_⟩, fun _ => ?_, nofun⟩
        · rw [asked_append, hasked]
          simp [asked, SupervisorRequest.about]
        · rw [slept_append, slept_restart_stale hstale]
          rfl

/-- **When the monitor restarts an agent.** In each of its turns, it stops and starts a registered agent exactly
if the last heartbeat of the agent is older than the timeout at the start of the turn, whatever the restarts of
this agent and of others raise: nothing but a cancellation of the monitor ends a turn early. -/
theorem restarted_by_turns {orders : List SetOrder} {r : Except Exc Unit} (hR : KeepsAgents R)
    (hsleeps : SleepsOnly tr) (hregistered : (s.agents.get? agent_id).isSome)
    (h : Co.Run R (self.monitor_loop orders) s tr s' r) :
    Asked (((s :: slept tr).take orders.length).flatMap (self.restarts agent_id)) (asked agent_id tr) r := by
  induction orders generalizing s tr with
  | nil =>
    obtain ⟨rfl, rfl, rfl⟩ := h
    exact .inr ⟨⟨(), rfl⟩, rfl⟩
  | cons order orders ih =>
    rw [monitor_loop, Co.run_bind] at h
    rw [List.length_cons, List.take_succ_cons, List.flatMap_cons]
    rcases h with ⟨e, hturn, rfl⟩ | ⟨goes_on, tr₁, s₁, tr₂, hturn, rfl, hrest⟩
    · obtain ⟨-, hasked, -, -⟩ := run_turn hR hsleeps hregistered hturn
      rcases hasked with ⟨hr, hfirst⟩ | ⟨⟨b, hr⟩, -⟩
      · cases hr
        exact .inl ⟨rfl, hfirst.trans (List.prefix_append _ _)⟩
      · cases hr
    · have hsleeps₁ : SleepsOnly tr₁ := fun ev hev => hsleeps ev (List.mem_append_left _ hev)
      have hsleeps₂ : SleepsOnly tr₂ := fun ev hev => hsleeps ev (List.mem_append_right _ hev)
      obtain ⟨hs₁, hasked, htrue, hfalse⟩ := run_turn hR hsleeps₁ hregistered hturn
      rcases hasked with ⟨hr, -⟩ | ⟨-, hasked⟩
      · cases hr
      rw [asked_append, slept_append]
      cases goes_on with
      | true =>
        rw [if_pos rfl] at hrest
        rw [htrue rfl]
        exact (ih hsleeps₂ hs₁ hrest).append hasked
      | false =>
        obtain ⟨rfl, rfl, rfl⟩ := hrest
        rw [hfalse rfl]
        refine .inr ⟨⟨(), rfl⟩, ?_⟩
        rw [hasked]
        simp [slept]

/-- The order of the list. -/
def listed : SetOrder := ⟨fun ids => ids, fun _ => .refl _⟩

/-- A supervisor that runs, whose agent sent a heartbeat two minutes ago. -/
def silent_agent : SupervisorState Unit :=
  { (SupervisorState.new 0).register "probe-1" () |>.record_heartbeat "probe-1" with
    running := true
    clock := 120 * second }

/-- What the agents raise. -/
def refused (q : SupervisorRequest Unit) : Except Exc Unit :=
  if q.about "probe-1" = none then .ok () else .error (.error "refused")

/-- Two turns, and both restart it. -/
theorem restarted_by_turns_sample :
    Asked [.stop, .start, .stop, .start]
      (asked "probe-1" ((monitor_loop {} [listed, listed]).exec refused silent_agent).1)
      ((monitor_loop {} [listed, listed]).exec refused silent_agent).2.2 := by
  have hsleeps : SleepsOnly ((monitor_loop {} [listed, listed]).exec refused silent_agent).1 := by
    intro ev hev ticks text hreq
    rw [Co.exec_ans refused _ _ ev hev, hreq]
    exact nofun
  have hregistered : (silent_agent.agents.get? "probe-1").isSome := rfl
  have hasked := restarted_by_turns (R := Eq) (fun _ _ _ h hs => h ▸ hs) hsleeps hregistered
    (Co.run_exec (fun _ => rfl) _ _ _)
  exact hasked

/-! ## Starting and stopping all -/

/-- The agents that a run started, or tried to. -/
def started (tr : List (SupervisorEvent α)) : List String :=
  tr.filterMap fun ev => match ev.req with
    | .start agent_id _ => some agent_id
    | _ => none

/-- The agents that a run stopped, or tried to. -/
def stopped (tr : List (SupervisorEvent α)) : List (String × α) :=
  tr.filterMap fun ev => match ev.req with
    | .stop agent_id agent => some (agent_id, agent)
    | _ => none

theorem run_same_size {size : Nat} {r : Except Exc Unit} (h : Co.Run R (same_size size) s tr s' r) :
    tr = [] ∧ s' = s ∧ ((r = .ok () ∧ s.agents.size = size) ∨
      (r = .error (.error "dictionary changed size during iteration") ∧ s.agents.size ≠ size)) := by
  rw [same_size, Co.run_read_bind] at h
  split at h
  · rename_i hsize
    obtain ⟨rfl, rfl, rfl⟩ := h
    exact ⟨rfl, rfl, .inl ⟨rfl, hsize⟩⟩
  · rename_i hsize
    obtain ⟨rfl, rfl, rfl⟩ := h
    exact ⟨rfl, rfl, .inr ⟨rfl, hsize⟩⟩

/-- The loop raises when it finds another size, which is nowhere but after an await. -/
theorem run_start_agents {size : Nat} {ids : List String} {r : Except Exc Unit} (hR : KeepsAgents R)
    (hids : ∀ id ∈ ids, (s.agents.get? id).isSome) (h : Co.Run R (start_agents size ids) s tr s' r)
    (hr : r ≠ .error .cancelled) :
    (r = .ok () ↔ s.agents.size = size ∧ ∀ ev ∈ tr, ev.resumed.agents.size = size) ∧
      (r = .ok () → started tr = ids) := by
  induction ids generalizing s tr with
  | nil =>
    obtain ⟨rfl, rfl, ⟨rfl, hsize⟩ | ⟨rfl, hsize⟩⟩ := run_same_size h
    · exact ⟨iff_of_true rfl ⟨hsize, nofun⟩, fun _ => rfl⟩
    · exact ⟨iff_of_false nofun fun h => hsize h.1, nofun⟩
  | cons id ids ih =>
    rw [start_agents, Co.run_bind] at h
    rcases h with ⟨e, hsize, rfl⟩ | ⟨⟨⟩, tr₁, s₁, tr₂, hsize, rfl, hrest⟩
    · obtain ⟨rfl, rfl, ⟨hr', -⟩ | ⟨-, hsize⟩⟩ := run_same_size hsize
      · cases hr'
      · exact ⟨iff_of_false nofun fun h => hsize h.1, nofun⟩
    · obtain ⟨rfl, rfl, ⟨-, hsize⟩ | ⟨hr', -⟩⟩ := run_same_size hsize
      swap
      · cases hr'
      obtain ⟨agent, hagent⟩ := Option.isSome_iff_exists.mp (hids id List.mem_cons_self)
      rw [Co.run_read_bind, hagent] at hrest
      dsimp only at hrest
      rw [Co.run_bind] at hrest
      rcases hrest with ⟨e, hstart, rfl⟩ | ⟨⟨⟩, tr₃, s₂, tr₄, hstart, rfl, hrest⟩
      · obtain ⟨ans, -, -, hans⟩ := run_logged.mp hstart
        split at hans
        · exact absurd hans hr
        · cases hans
      · obtain ⟨ans, rfl, hs₂, -⟩ := run_logged.mp hstart
        have hids₂ : ∀ id ∈ ids, (s₂.agents.get? id).isSome := fun id' hid' =>
          hR _ _ _ hs₂ (hids id' (List.mem_cons_of_mem _ hid'))
        obtain ⟨hiff, hstarted⟩ := ih hids₂ hrest
        refine ⟨?_, fun hok => ?_⟩
        · rw [hiff]
          simp only [List.nil_append, List.singleton_append, List.forall_mem_cons, hsize, true_and]
        · rw [← hstarted hok]
          rfl

/-- The other tasks neither start nor stop the supervisor. -/
def KeepsFlags (R : SupervisorState α → SupervisorState α → Prop) : Prop :=
  ∀ s s', R s s' → s'.running = s.running ∧ s'.monitored = s.monitored

/-- Starting the agents touches neither flag. -/
theorem run_start_agents_flags {size : Nat} {ids : List String} {r : Except Exc Unit} (hR : KeepsFlags R)
    (h : Co.Run R (start_agents size ids) s tr s' r) :
    s'.running = s.running ∧ s'.monitored = s.monitored := by
  let I : SupervisorState α → Prop := fun t => t.running = s.running ∧ t.monitored = s.monitored
  have hsize : Co.Guarded I (fun _ _ => True) (fun _ => True) (same_size size) := by
    refine .read_bind fun t _ => ?_
    split
    · exact .pure ()
    · exact fun _ _ => trivial
  have hguarded : Co.Guarded I (fun _ _ => True) (fun _ => True) (start_agents (α := α) size ids) := by
    clear h
    induction ids with
    | nil => exact hsize
    | cons id ids ih =>
      refine .bind hsize fun _ => .read_bind fun t _ => ?_
      cases t.agents.get? id with
      | none => exact .bind (.pure ()) fun _ => ih
      | some agent => exact .bind (.tryExcept (.call trivial) fun _ => .pure ()) fun _ => ih
  refine (hguarded.run (fun t t' hstep ht => ?_) ⟨rfl, rfl⟩ h).1
  exact ⟨(hR t t' hstep).1.trans ht.1, (hR t t' hstep).2.trans ht.2⟩

/-- **When `start_all` gets to the monitor.** Unless it is cancelled, it creates the monitor exactly if no agent
with a new id is registered while an agent starts. It has then started every agent, in the order of their
registration, whatever the others raised. Otherwise it raises, and if no other task starts or stops the
supervisor meanwhile, it leaves it running with no other monitor than it had before. -/
theorem start_all_monitors_iff {r : Except Exc Unit} (hR : KeepsAgents R)
    (h : Co.Run R start_all s tr s' r) (hr : r ≠ .error .cancelled) :
    (r = .ok () ↔ ∀ ev ∈ tr, ev.resumed.agents.size = s.agents.size) ∧
      (r = .ok () → s'.monitored = true ∧ started tr = s.agents.keys) ∧
      (r ≠ .ok () → KeepsFlags R → s'.running = true ∧ s'.monitored = s.monitored) := by
  rw [start_all, Co.run_update_bind, Co.run_read_bind, Co.run_bind] at h
  have hloop : ∀ {tr s' r}, Co.Run R (start_agents s.agents.keys.length s.agents.keys)
      { s with running := true } tr s' r → r ≠ .error .cancelled →
      (r = .ok () ↔ ∀ ev ∈ tr, ev.resumed.agents.size = s.agents.size) ∧
        (r = .ok () → started tr = s.agents.keys) := by
    intro tr s' r h hr
    obtain ⟨hiff, hstarted⟩ := run_start_agents (s := { s with running := true }) hR
      (fun id hid => Dict.mem_keys_iff.mp hid) h hr
    rw [Dict.length_keys] at hiff
    exact ⟨hiff.trans (and_iff_right rfl), hstarted⟩
  rcases h with ⟨e, h, rfl⟩ | ⟨⟨⟩, tr₁, s₁, tr₂, h, rfl, rfl, rfl, rfl⟩
  · obtain ⟨hiff, -⟩ := hloop h hr
    have hnot : ¬ ∀ ev ∈ tr, ev.resumed.agents.size = s.agents.size := fun hall =>
      nomatch hiff.mpr hall
    exact ⟨iff_of_false nofun hnot, nofun, fun _ hflags => run_start_agents_flags hflags h⟩
  · obtain ⟨hiff, hstarted⟩ := hloop h nofun
    rw [List.append_nil]
    exact ⟨iff_of_true rfl (hiff.mp rfl), fun _ => ⟨rfl, hstarted rfl⟩, fun h => absurd rfl h⟩

/-- One agent is started, and the monitor is created. -/
theorem start_all_monitors_sample :
    ((start_all.exec (fun _ => .ok ()) silent_agent).2.2 = .ok () ↔
        ∀ ev ∈ (start_all.exec (fun _ => .ok ()) silent_agent).1, ev.resumed.agents.size = 1) ∧
      ((start_all.exec (fun _ => .ok ()) silent_agent).2.2 = .ok () →
        (start_all.exec (fun _ => .ok ()) silent_agent).2.1.monitored = true ∧
          started (start_all.exec (fun _ => .ok ()) silent_agent).1 = ["probe-1"]) ∧
      ((start_all.exec (fun _ => .ok ()) silent_agent).2.2 ≠ .ok () →
        KeepsFlags (α := Unit) Eq →
        (start_all.exec (fun _ => .ok ()) silent_agent).2.1.running = true ∧
          (start_all.exec (fun _ => .ok ()) silent_agent).2.1.monitored = silent_agent.monitored) :=
  start_all_monitors_iff (R := Eq) (fun _ _ _ h hs => h ▸ hs) (Co.run_exec (fun _ => rfl) _ _ _) nofun

theorem run_stop_agents {items : List (String × α)} {r : Except Exc Unit}
    (h : Co.Run R (stop_agents items) s tr s' r) :
    (r = .error .cancelled ∧ stopped tr <+: items) ∨ (r = .ok () ∧ stopped tr = items) := by
  induction items generalizing s tr with
  | nil =>
    obtain ⟨rfl, rfl, rfl⟩ := h
    exact .inr ⟨rfl, rfl⟩
  | cons item items ih =>
    obtain ⟨id, agent⟩ := item
    rw [stop_agents, Co.run_bind] at h
    rcases h with ⟨e, hstop, rfl⟩ | ⟨⟨⟩, tr₁, s₁, tr₂, hstop, rfl, hrest⟩
    · obtain ⟨ans, rfl, -, hans⟩ := run_logged.mp hstop
      split at hans
      · exact .inl ⟨hans, ⟨items, rfl⟩⟩
      · cases hans
    · obtain ⟨ans, rfl, -, -⟩ := run_logged.mp hstop
      have hsplit : stopped ([⟨.stop id agent, ans, s₁⟩] ++ tr₂) = (id, agent) :: stopped tr₂ := rfl
      rw [hsplit]
      rcases ih hrest with ⟨hr, hfirst⟩ | ⟨hr, heq⟩
      · exact .inl ⟨hr, List.cons_prefix_cons.mpr ⟨rfl, hfirst⟩⟩
      · exact .inr ⟨hr, by rw [heq]⟩

/-- **What `stop_all` stops.** If the monitor raises nothing but its cancellation, every agent that is registered
when it has ended is stopped once, in the order of the registration, whatever the others raise; only a
cancellation of `stop_all` itself ends this early. -/
theorem stop_all_stops {r : Except Exc Unit} (h : Co.Run R stop_all s tr s' r)
    (hmonitor : ∀ ev ∈ tr, ev.req = .monitor_task → ∀ text, ev.ans ≠ .error (.error text)) :
    ∃ left : SupervisorState α,
      (if s.monitored then ∃ ans rest, tr = ⟨.monitor_task, ans, left⟩ :: rest
        else left = { s with running := false }) ∧
      ((r = .error .cancelled ∧ stopped tr <+: left.agents.items) ∨
        (r = .ok () ∧ stopped tr = left.agents.items)) := by
  rw [stop_all, Co.run_update_bind, Co.run_read_bind] at h
  cases hmonitored : s.monitored with
  | false =>
    simp only [hmonitored, Bool.false_eq_true, if_false, Co.run_read_bind] at h
    exact ⟨_, rfl, run_stop_agents h⟩
  | true =>
    simp only [hmonitored, if_true] at h
    obtain ⟨ans, s₁, tr₁, rfl, hs₁, hrest⟩ := h
    refine ⟨s₁, ⟨ans, tr₁, rfl⟩, ?_⟩
    have hjoined : Co.Run R (stop_agents s₁.agents.items) s₁ tr₁ s' r := by
      cases ans with
      | ok u => exact hrest
      | error e =>
        cases e with
        | cancelled => exact hrest
        | error text => exact absurd rfl (hmonitor _ List.mem_cons_self rfl text)
    have hstopped : stopped (⟨.monitor_task, ans, s₁⟩ :: tr₁) = stopped tr₁ := rfl
    rw [hstopped]
    exact run_stop_agents hjoined

/-- An agent that refuses to stop. -/
theorem stop_all_stops_sample :
    ∃ left : SupervisorState Unit, left = { silent_agent with running := false } ∧
      (((stop_all.exec refused silent_agent).2.2 = .error .cancelled ∧
          stopped (stop_all.exec refused silent_agent).1 <+: left.agents.items) ∨
        ((stop_all.exec refused silent_agent).2.2 = .ok () ∧
          stopped (stop_all.exec refused silent_agent).1 = left.agents.items)) := by
  have hmonitor : ∀ ev ∈ (stop_all.exec refused silent_agent).1, ev.req = .monitor_task →
      ∀ text, ev.ans ≠ .error (.error text) := by
    intro ev hev hreq text
    rw [Co.exec_ans refused _ _ ev hev, hreq]
    exact nofun
  obtain ⟨left, hleft, hstopped⟩ := stop_all_stops (R := Eq) (Co.run_exec (fun _ => rfl) _ _ _) hmonitor
  exact ⟨left, hleft, hstopped⟩

end AgentSupervisor

end Aqap
