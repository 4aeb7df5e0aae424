import Aqap.Agent.Publications

/-!
# What leaves an agent in clear

The payload of a reply goes through the cipher. Neither `send` nor the dead letter does this, and the
consume loop has put the decrypted payload in the place of the received one.

* `confidential_runs`: in a run of the iterations of an agent with any handler, what carries content of a
  decrypted payload is published encrypted, if the handler sends nothing that it has not encrypted
  itself and no message fails at the limit; and a decrypted message that fails at the limit, or is sent,
  leaves in clear.
* `confidential_probe`, `confidential_judge`: these send nothing, so the second condition decides.
* `report_in_clear`: the Reporter broadcasts its report in clear, and keeps a secret only if no report
  carries it (`confidential_reporter`).
-/

namespace Aqap

open Py Aqap.Core Async

/-- The value `v` occurs in a JSON value. -/
inductive Occurs (v : Json) : Json → Prop
  | whole : Occurs v v
  | item {w : Json} {items : List Json} : w ∈ items → Occurs v w → Occurs v (.arr items)
  | field {w : Json} {key : String} {fields : List (String × Json)} : (key, w) ∈ fields →
      Occurs v w → Occurs v (.obj fields)

/-- A notion of what carries the content of a decrypted payload: whatever the payload occurs in does. -/
structure Carrying where
  carries : Json → Json → Prop
  of_occurs : ∀ {plain v}, Occurs plain v → carries plain v

/-- A payload that `encrypt_payload` produced. -/
def Agent.Sealed (self : Agent) (v : Json) : Prop :=
  ∃ n payload, self.cipher.encrypt_payload n payload = .ok v

namespace Consumption

variable {agent : Agent} {handler : Handler}

/-- The cipher is enabled, and the message is one that the agent decrypts, to the payload `plain`. -/
structure Decrypts (c : Consumption agent handler) (plain : Json) : Prop where
  admitted : ∃ k, agent.Admitted c.message k c.start
  enabled : agent.cipher.enabled = true
  marked : PayloadCipher.marked c.message.payload = true
  decrypted : agent.cipher.decrypt_payload c.message.payload = .ok plain

/-- The attempt on the message raises an exception in a state in which the message had failed
`max_retries - 1` times, or more. -/
def FailsAtLimit (c : Consumption agent handler) : Prop :=
  ∃ calls s₁ tr₁, c.Calls calls ∧ agent.Processes c.topic c.message c.start calls s₁ tr₁ ∧
    agent.RaisesAtLimit (agent.opened c.message) s₁ tr₁

end Consumption

/-- The run decrypts a payload to `plain`. -/
def Decrypted {agent : Agent} {handler : Handler} (run : List (Consumption agent handler))
    (plain : Json) : Prop :=
  ∃ c ∈ run, c.Decrypts plain

/-- Nothing decrypted leaves in clear: what carries content of a payload that the run decrypted is
published encrypted, whatever message it is published for. -/
def Confidential {agent : Agent} {handler : Handler} (carrying : Carrying)
    (run : List (Consumption agent handler)) : Prop :=
  ∀ c ∈ run, ∀ topic msg plain, c.Publishes topic msg → Decrypted run plain →
    carrying.carries plain msg.payload → agent.Sealed msg.payload

/-! ## Sealed payloads and dead letters -/

/-- What the cipher produced has the three fields of an encrypted payload only. -/
theorem not_sealed_of_lookup {agent : Agent} {fields : List (String × Json)} {key : String} {v : Json}
    (henabled : agent.cipher.enabled = true) (hkey : key ∉ ["_encrypted", "_ciphertext", "_nonce"])
    (h : fields.lookup key = some v) : ¬ agent.Sealed (.obj fields) := by
  rintro ⟨n, payload, hsealed⟩
  obtain ⟨secret, hsecret⟩ := Option.isSome_iff_exists.mp henabled
  rw [PayloadCipher.encrypt_payload, hsecret] at hsealed
  cases hd : agent.cipher.lib.dumps payload with
  | error text =>
    rw [hd] at hsealed
    cases hsealed
  | ok plaintext =>
    rw [hd] at hsealed
    cases hsealed
    refine hkey ?_
    obtain ⟨l₁, l₂, heq, -⟩ := List.lookup_eq_some_iff.mp h
    have hmem : key ∈ (l₁ ++ (key, v) :: l₂).map Prod.fst := by simp
    rw [← heq] at hmem
    exact hmem

/-- A dead letter is not encrypted. -/
theorem not_sealed_of_carriesDeadLetter {agent : Agent} {m msg : Message} {n : Nat}
    (henabled : agent.cipher.enabled = true) (h : Agent.CarriesDeadLetter m n msg) :
    ¬ agent.Sealed msg.payload := by
  obtain ⟨record, hrecord, horiginal, -⟩ := h
  rw [hrecord]
  exact not_sealed_of_lookup henabled (by decide) horiginal

theorem mem_of_lookup {fields : List (String × Json)} {key : String} {v : Json}
    (h : fields.lookup key = some v) : (key, v) ∈ fields := by
  obtain ⟨l₁, l₂, rfl, -⟩ := List.lookup_eq_some_iff.mp h
  exact List.mem_append_right _ List.mem_cons_self

/-- The payload of the failed message occurs in its dead letter. -/
theorem occurs_of_carriesDeadLetter {m msg : Message} {n : Nat} (h : Agent.CarriesDeadLetter m n msg) :
    Occurs m.payload msg.payload := by
  obtain ⟨record, hrecord, horiginal, -⟩ := h
  have hpayload : ("payload", m.payload) ∈ m.to_dict := by simp [Message.to_dict]
  rw [hrecord]
  exact .field (mem_of_lookup horiginal) (.field hpayload .whole)

namespace Consumption

variable {agent : Agent} {handler : Handler} {c : Consumption agent handler}

theorem Decrypts.opened {plain : Json} (h : c.Decrypts plain) :
    (agent.opened c.message).payload = plain := by
  unfold Agent.opened
  rw [h.decrypted]

/-- A decrypted message that fails at the limit leaves in clear. -/
theorem FailsAtLimit.dead_letter (h : c.FailsAtLimit) :
    ∃ msg n, c.Publishes DLQ_TOPIC msg ∧ Agent.CarriesDeadLetter (agent.opened c.message) n msg := by
  obtain ⟨calls, s₁, tr₁, hcalls, hp, hraises⟩ := h
  obtain ⟨r₁, hrun⟩ := hp.run hcalls.run
  obtain ⟨msg, n, ans, st, hmem, hcarries⟩ := Agent.dead_letter_of_raisesAtLimit hrun hraises
  obtain ⟨k, -, hentered⟩ := hp
  refine ⟨msg, n, .inl ⟨ans, st, ?_⟩, hcarries⟩
  exact (hcalls.inl_mem_iff (by rintro m ⟨⟩)).mpr (hentered.subset _ hmem)

/-- What is published is sealed, or sent by the handler, or the ERROR for an unknown type, or a dead
letter after the message failed at the limit. -/
theorem Publishes.cases {t : String} {msg : Message} (h : c.Publishes t msg) :
    c.Sends t msg ∨ agent.Sealed msg.payload ∨ c.FailsAtLimit ∨
      c.message.type = .UNKNOWN ∧ ∃ fresh, msg = agent.unknown_type_error fresh c.message := by
  rcases h with ⟨ans, st, hev⟩ | hsend
  · obtain ⟨calls, hcalls⟩ := c.exists_calls
    rcases hcalls.issued hev with
      ⟨k, hrej, hmsg⟩ | ⟨s₁, tr₁, hp, ⟨replies, st', -, reply, -, n, payload, -, henc, rfl⟩ |
        ⟨-, -, hraises⟩⟩
    · exact .inr (.inr (.inr ⟨hrej.unknown, _, hmsg⟩))
    · exact .inr (.inl ⟨n, reply.payload, henc⟩)
    · exact .inr (.inr (.inl ⟨calls, s₁, tr₁, hcalls, hp, hraises⟩))
  · exact .inl hsend

end Consumption

/-! ## When a run keeps its secrets -/

/-- The iteration takes none of the ways on which a payload leaves in clear: the handler sends nothing
that it has not encrypted itself, the message does not fail at the limit, and the ERROR for an unknown
type tells nothing of `plain`. -/
structure Consumption.Discreet {agent : Agent} {handler : Handler} (c : Consumption agent handler)
    (carrying : Carrying) (plain : Json) : Prop where
  sends : ∀ topic msg, c.Sends topic msg → agent.Sealed msg.payload
  below : ¬ c.FailsAtLimit
  unknown : c.message.type = .UNKNOWN → ∀ fresh,
    ¬ carrying.carries plain (agent.unknown_type_error fresh c.message).payload

/-- Once something is decrypted, every iteration is discreet. -/
def Discreet {agent : Agent} {handler : Handler} (carrying : Carrying)
    (run : List (Consumption agent handler)) : Prop :=
  ∀ plain, Decrypted run plain → ∀ c ∈ run, c.Discreet carrying plain

section

variable {agent : Agent} {handler : Handler} {carrying : Carrying}
  {run : List (Consumption agent handler)}

theorem confidential_of_discreet (h : Discreet carrying run) : Confidential carrying run := by
  intro c hc t msg plain hpub hplain hcarries
  have hdiscreet := h plain hplain c hc
  rcases hpub.cases with hsend | hsealed | hfails | ⟨hunknown, fresh, rfl⟩
  · exact hdiscreet.sends t msg hsend
  · exact hsealed
  · exact absurd hfails hdiscreet.below
  · exact absurd hcarries (hdiscreet.unknown hunknown fresh)

/-- A decrypted message that fails at the limit leaves in clear. -/
theorem Confidential.below (h : Confidential carrying run) {c : Consumption agent handler} (hc : c ∈ run)
    {plain : Json} (hplain : c.Decrypts plain) : ¬ c.FailsAtLimit := by
  intro hlimit
  obtain ⟨msg, n, hpub, hdead⟩ := hlimit.dead_letter
  refine not_sealed_of_carriesDeadLetter hplain.enabled hdead ?_
  refine h c hc _ msg plain hpub ⟨c, hc, hplain⟩ (carrying.of_occurs ?_)
  rw [← hplain.opened]
  exact occurs_of_carriesDeadLetter hdead

/-- **What leaves an agent in clear.** In every run in which, once something is decrypted, no handler
sends what it has not encrypted, no message fails at the limit and no ERROR for an unknown type carries
something decrypted, everything that does is published encrypted. On the first two ways it leaks: a
decrypted message that fails at the limit leaves in clear, and so does a decrypted payload in what the
handler sends, unless it has encrypted that. -/
theorem confidential_runs (carrying : Carrying) (run : List (Consumption agent handler)) :
    (Discreet carrying run → Confidential carrying run) ∧
    (∀ c ∈ run, ∀ plain, c.Decrypts plain → c.FailsAtLimit → ¬ Confidential carrying run) ∧
    ∀ c ∈ run, ∀ topic msg plain, c.Sends topic msg → Decrypted run plain → Occurs plain msg.payload →
      ¬ agent.Sealed msg.payload → ¬ Confidential carrying run := by
  refine ⟨confidential_of_discreet, ?_, ?_⟩
  · intro c hc plain hplain hlimit h
    exact h.below hc hplain hlimit
  · intro c hc t msg plain hsend hplain hoccurs hclear h
    exact hclear (h c hc t msg plain (.inr hsend) hplain (carrying.of_occurs hoccurs))

/-- A handler that sends nothing keeps its secrets if nothing fails at the limit. -/
theorem confidential_of_silent (hknown : ∀ c ∈ run, c.message.type ≠ .UNKNOWN)
    (hsilent : ∀ (c : Consumption agent handler) topic msg, ¬ c.Sends topic msg)
    (hbelow : ∀ plain, Decrypted run plain → ∀ c ∈ run, ¬ c.FailsAtLimit) :
    Confidential carrying run :=
  confidential_of_discreet fun plain hplain c hc =>
    { sends := fun t msg hsend => absurd hsend (hsilent c t msg)
      below := hbelow plain hplain c hc
      unknown := fun hunknown => absurd hunknown (hknown c hc) }

end

/-- The Probe sends nothing: only a dead letter leaves it in clear. -/
theorem confidential_probe {self : ProbeAgent} (carrying : Carrying)
    {run : List (Consumption self.toAgent self.handle_message)}
    (hknown : ∀ c ∈ run, c.message.type ≠ .UNKNOWN)
    (hbelow : ∀ plain, Decrypted run plain → ∀ c ∈ run, ¬ c.FailsAtLimit) :
    Confidential carrying run :=
  confidential_of_silent hknown (fun _ _ _ => Consumption.sends_probe) hbelow

/-- Nor does the Judge. -/
theorem confidential_judge {self : JudgeAgent} (carrying : Carrying)
    {run : List (Consumption self.toAgent self.handle_message)}
    (hknown : ∀ c ∈ run, c.message.type ≠ .UNKNOWN)
    (hbelow : ∀ plain, Decrypted run plain → ∀ c ∈ run, ¬ c.FailsAtLimit) :
    Confidential carrying run :=
  confidential_of_silent hknown (fun _ _ _ => Consumption.sends_judge) hbelow

/-- A Probe consumes an encrypted task. -/
def sealed_probe : ProbeAgent where
  toAgent := { sample_agent 3 with
    cipher := ⟨{ sample_lib with decrypt := fun _ _ _ => .ok [] }, some []⟩ }

def sealed_task : Message :=
  { sample_task with
    payload := .obj [("_encrypted", .bool true), ("_ciphertext", .str ""), ("_nonce", .str "")] }

def sealed_step : Consumption sealed_probe.toAgent sealed_probe.handle_message :=
  .exec _ Topic.AGENT_PROBE sealed_task (AgentState.started 0) sample_await

/-- The event publishes a dead letter. -/
def publishes_dead_letter (ev : AwaitEvent) : Bool :=
  match ev.req with
  | .inl (.publish topic _) => topic == DLQ_TOPIC
  | _ => false

theorem not_failsAtLimit_sealed : ¬ sealed_step.FailsAtLimit := by
  intro h
  obtain ⟨msg, n, ⟨ans, st, hev⟩ | hsend, -⟩ := h.dead_letter
  · have hnone : sealed_step.events.any publishes_dead_letter = false := by decide +kernel
    rw [List.any_eq_false] at hnone
    exact hnone _ hev rfl
  · exact Consumption.sends_probe hsend

/-- A Probe that decrypts a task tells no one what it decrypted. -/
theorem confidential_sealed_step :
    sealed_step.Decrypts (.obj []) ∧ ∀ carrying, Confidential carrying [sealed_step] := by
  refine ⟨⟨⟨.str "0011223344556677", rfl, by decide, rfl, rfl, by decide +kernel, by decide⟩, rfl, rfl, rfl⟩,
    fun carrying => (confidential_runs carrying [sealed_step]).1 fun plain hplain c hc => ?_⟩
  rw [List.mem_singleton.mp hc]
  exact {
    sends := fun t msg hsend => absurd hsend Consumption.sends_probe
    below := not_failsAtLimit_sealed
    unknown := fun h => by cases h }

/-- A report has a title. -/
theorem report_title {self : ReporterAgent} {generated_at : String} {data : Json}
    {results : List PluginResult} {report : List (String × Json)}
    (h : self.report generated_at data results = .ok report) :
    ∃ title, report.lookup "title" = some title := by
  unfold ReporterAgent.report at h
  obtain ⟨task, -, h⟩ := bind_ok h
  obtain ⟨task_id, -, h⟩ := bind_ok h
  obtain ⟨name, -, h⟩ := bind_ok h
  obtain ⟨verdict, -, h⟩ := bind_ok h
  obtain ⟨score, -, h⟩ := bind_ok h
  obtain ⟨passed, -, h⟩ := bind_ok h
  obtain ⟨summary, -, h⟩ := bind_ok h
  cases h
  exact ⟨_, rfl⟩

/-- What the Reporter sends, its report, is not encrypted. -/
theorem report_in_clear {self : ReporterAgent} {c : Consumption self.toAgent self.handle_message}
    {topic : String} {msg : Message} (henabled : self.cipher.enabled = true)
    (h : c.Sends topic msg) : ¬ self.Sealed msg.payload := by
  obtain ⟨-, fresh, at_time, results, report, hreport, rfl⟩ := Consumption.sends_reporter h
  obtain ⟨title, htitle⟩ := report_title hreport
  exact not_sealed_of_lookup henabled (by decide) htitle

/-- A Reporter that reports on something decrypted keeps a secret only if no report carries it. -/
theorem confidential_reporter {self : ReporterAgent} {carrying : Carrying}
    {run : List (Consumption self.toAgent self.handle_message)} (h : Confidential carrying run)
    {c : Consumption self.toAgent self.handle_message} (hc : c ∈ run) {topic : String} {msg : Message}
    (hsend : c.Sends topic msg) {plain : Json} (hplain : Decrypted run plain) :
    ¬ carrying.carries plain msg.payload := by
  intro hcarries
  obtain ⟨c', hc', hdec⟩ := hplain
  exact report_in_clear hdec.enabled hsend (h c hc topic msg plain (.inr hsend) ⟨c', hc', hdec⟩ hcarries)

/-! ## A report in clear -/

/-- What a judge asks a report for. -/
def sample_evidence : Json := .obj [("task", .obj [("task_id", .str "task-7")])]

/-- A Reporter with a cipher, all of whose ciphertexts stand for `sample_evidence`. -/
def sample_reporter : ReporterAgent where
  rt := sample_runtime
  cipher :=
    ⟨{ sample_lib with decrypt := fun _ _ _ => .ok [], loads := fun _ => .ok sample_evidence }, some []⟩
  agent_id := "reporter-1"
  numbers := sample_numbers

/-- An encrypted REPORT_REQUEST. -/
def sample_request : Message :=
  Message.new ⟨"0011223344556677", "8899aabbccddeeff", "2026-01-01T00:00:00+00:00"⟩ .REPORT_REQUEST
    (.str "judge-1") [("_encrypted", .bool true), ("_ciphertext", .str ""), ("_nonce", .str "")]

/-- The report that it asks for. -/
def sample_report : Consumption sample_reporter.toAgent sample_reporter.handle_message :=
  .exec _ "aqap:inbox:reporter-1" sample_request (AgentState.started 0) sample_await

/-- A payload carries what it has a value in common with. -/
def shares : Carrying where
  carries plain v := ∃ w, Occurs w plain ∧ Occurs w v
  of_occurs h := ⟨_, .whole, h⟩

/-- The task is named in the payload. -/
def names_task : Json → Bool
  | .obj fields => fields.any fun e => e.2.eq_str "task-7"
  | _ => false

/-- The handler publishes a payload that names the task. -/
def sends_task (ev : AwaitEvent) : Bool :=
  match ev.req with
  | .inr (.publish _ msg) => names_task msg.payload
  | _ => false

theorem shares_of_names_task {v : Json} (h : names_task v = true) :
    shares.carries sample_evidence v := by
  cases v with
  | obj fields =>
    obtain ⟨⟨key, w⟩, hmem, hw⟩ := List.any_eq_true.mp h
    cases w with
    | str s =>
      cases beq_iff_eq.mp hw
      have htask : Occurs (.str "task-7") (.obj [("task_id", .str "task-7")]) :=
        .field List.mem_cons_self .whole
      exact ⟨_, .field List.mem_cons_self htask, .field hmem .whole⟩
    | _ => cases hw
  | _ => cases h

/-- The Reporter broadcasts the report on an encrypted request in clear. -/
theorem report_leaks :
    ¬ ∀ (agent : Agent) (handler : Handler) (carrying : Carrying)
      (run : List (Consumption agent handler)), Confidential carrying run := by
  intro h
  have hsent : sample_report.events.any sends_task = true := by decide +kernel
  obtain ⟨⟨q, ans, st⟩, hev, hnames⟩ := List.any_eq_true.mp hsent
  have hplain : sample_report.Decrypts sample_evidence :=
    ⟨⟨.str "0011223344556677", rfl, by decide, rfl, rfl, by decide +kernel, by decide⟩, rfl, rfl, rfl⟩
  cases q with
  | inl q => cases hnames
  | inr q =>
    cases q with
    | publish topic msg =>
      have hsends : sample_report.Sends topic msg := ⟨ans, st, hev⟩
      exact report_in_clear rfl hsends (h _ _ shares [sample_report] _ List.mem_cons_self topic msg _
        (.inr hsends) ⟨_, List.mem_cons_self, hplain⟩ (shares_of_names_task hnames))
    | _ => cases hnames

end Aqap
