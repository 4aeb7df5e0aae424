import Aqap.Agent.Publications

/-!
# Messages through the three agents

A run of any number of Probes, Judges and Reporters is a list of steps, each the consumption of one
message by one of them. A message descends from another one if it was delivered after it was published by
the step that consumed a message that descends from it.

* `Descends.induction`: what every step of a run passes on holds of all descendants.
* `Step.Answers.reply`: the answers of a step are the replies of its handler, with their payloads
  encrypted.
-/

namespace Aqap

open Py Aqap.Core Async

/-- One of the three agents consumes a message. -/
structure Step where
  stage : Stage
  consumption : Consumption stage.agent stage.handle_message

namespace Step

/-- The message that is consumed. -/
def message (e : Step) : Message := e.consumption.message

/-- The message is published in the step. -/
def Publishes (e : Step) (msg : Message) : Prop := ∃ topic, e.consumption.Publishes topic msg

/-- The handler returned `replies`. -/
def Returns (e : Step) (replies : List Message) : Prop :=
  ∃ calls r st, e.consumption.Calls calls ∧ replies = r.getD [] ∧
    (⟨.handle_message (e.stage.agent.opened e.message), .ok r, st⟩ : AgentEvent) ∈ calls

/-- The message is published after the handler, and it is no dead letter and no ERROR for an unknown
type. -/
def Answers (e : Step) (topic : String) (msg : Message) : Prop :=
  (∃ ans st, (⟨.inl (.publish topic msg), ans, st⟩ : AwaitEvent) ∈ e.consumption.events) ∧
    topic ≠ DLQ_TOPIC ∧ e.message.type ≠ .UNKNOWN

/-- The answers of a step are replies of its handler. -/
theorem Answers.reply {e : Step} {topic : String} {msg : Message} (h : e.Answers topic msg) :
    ∃ replies, e.Returns replies ∧
      e.stage.agent.IsReply (e.stage.agent.opened e.message) replies topic msg := by
  obtain ⟨⟨ans, st, hev⟩, hne, hknown⟩ := h
  obtain ⟨calls, hcalls⟩ := e.consumption.exists_calls
  rcases hcalls.issued hev with
    ⟨k, hrej, -⟩ | ⟨s₁, tr₁, -, ⟨r, st', hmem, hreply⟩ | ⟨hdlq, -⟩⟩
  · exact absurd hrej.unknown hknown
  · exact ⟨_, ⟨calls, r, st', hcalls, rfl, hmem⟩, hreply⟩
  · exact absurd hdlq hne

/-- What is published is sent by the handler, or an ERROR, or a reply. -/
theorem publishes_cases {e : Step} {topic : String} {msg : Message}
    (h : e.consumption.Publishes topic msg) :
    e.consumption.Sends topic msg ∨ msg.type = .ERROR ∨ ∃ replies, e.Returns replies ∧
      e.stage.agent.IsReply (e.stage.agent.opened e.message) replies topic msg := by
  rcases h with ⟨ans, st, hev⟩ | hsend
  · obtain ⟨calls, hcalls⟩ := e.consumption.exists_calls
    rcases hcalls.issued hev with
      ⟨k, -, rfl⟩ | ⟨s₁, tr₁, -, ⟨r, st', hmem, hreply⟩ | ⟨-, ⟨fresh, error, n, failed_at, rfl⟩, -⟩⟩
    · right; left
      unfold Agent.unknown_type_error
      split <;> rfl
    · exact .inr (.inr ⟨_, ⟨calls, r, st', hcalls, rfl, hmem⟩, hreply⟩)
    · exact .inr (.inl rfl)
  · exact .inl hsend

/-- What a handler returned, it returned in a run on the decrypted message. -/
theorem Returns.run {e : Step} {replies : List Message} (h : e.Returns replies) :
    ∃ r s s' tr, replies = r.getD [] ∧
      Co.Run e.consumption.others (e.stage.handle_message (e.stage.agent.opened e.message)) s tr s'
        (.ok r) ∧ ∀ ev ∈ tr, ev.inr ∈ e.consumption.events := by
  obtain ⟨calls, r, st, hcalls, rfl, hmem⟩ := h
  obtain ⟨s, tr, hrun, hsub⟩ := hcalls.handler_run hmem
  exact ⟨r, s, st, tr, rfl, hrun, hsub⟩

end Step

/-- `m` descends from `m₀` in the run: `passes e msg` says that the step `e` passes on with `msg`. -/
inductive Descends (run : List Step) (passes : Step → Message → Prop) (m₀ : Message) : Message → Prop
  | root : Descends run passes m₀ m₀
  | step {e : Step} {msg m : Message} : Descends run passes m₀ e.message → e ∈ run → passes e msg →
      Delivered msg m → Descends run passes m₀ m

/-- A property that every step passes on, and that does not depend on the transport id, holds of all
descendants. -/
theorem Descends.induction {run : List Step} {passes : Step → Message → Prop} {m₀ m : Message}
    {P : Message → Prop} (h0 : P m₀)
    (hpasses : ∀ e ∈ run, ∀ msg, P e.message → passes e msg → P msg)
    (hdelivered : ∀ msg tid, P msg → P { msg with transport_msg_id := tid })
    (h : Descends run passes m₀ m) : P m := by
  induction h with
  | root => exact h0
  | step _ he hmsg hdel ih =>
    rw [hdel.eq]
    exact hdelivered _ _ (hpasses _ he _ ih hmsg)

/-! ## A sample step -/

def sample_probe : ProbeAgent := { toAgent := sample_agent 3 }

/-- A Probe answers `sample_task`. -/
def sample_step : Step where
  stage := .probe sample_probe
  consumption := .exec _ Topic.AGENT_PROBE sample_task (AgentState.started 0) sample_await

/-- The event publishes an answer that satisfies `p`. -/
def answers_with (p : Message → Bool) (ev : AwaitEvent) : Bool :=
  match ev.req with
  | .inl (.publish topic msg) => topic != DLQ_TOPIC && p msg
  | _ => false

/-- An answer of the sample step, from what can be evaluated. -/
theorem sample_answers {p : Message → Bool}
    (h : sample_step.consumption.events.any (answers_with p) = true) :
    ∃ topic msg, sample_step.Answers topic msg ∧ p msg = true := by
  obtain ⟨⟨q, ans, st⟩, hev, hp⟩ := List.any_eq_true.mp h
  cases q with
  | inr q => cases hp
  | inl q =>
    cases q with
    | publish topic msg =>
      obtain ⟨hne, hp⟩ := (Bool.and_eq_true ..).mp hp
      exact ⟨topic, msg, ⟨⟨ans, st, hev⟩, bne_iff_ne.mp hne, by decide⟩, hp⟩
    | _ => cases hp

end Aqap
