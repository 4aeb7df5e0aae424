import Aqap.Agent.Runs
import Aqap.Async.Subst
import Aqap.Core.Payload

/-!
# Handlers

`Handler` is the `handle_message` of an agent: a coroutine of its own, that publishes through `send`, runs
plugins, or awaits anything else (`Call`). `consume` is the iteration of `_consume_loop` with a handler
in the place of the await of `handle_message`. A `Consumption` is a run of it, while the other tasks
do to the state what they like.

* `Consumption.exists_calls`: a consumption is a run of `consume_one`, with the events of the handler
  in the place of its await (`Consumption.Calls`).
* `Calls.inl_mem_iff`, `Calls.of_inr`, `Calls.handler_run`: the two kinds of events, in the terms of that
  run.
-/

namespace Aqap

open Py Aqap.Core Async

/-- What `execute_all` returns for a plugin. -/
structure PluginResult where
  plugin : String
  result : Json
  error : Option String

/-- `to_dict` -/
def PluginResult.to_dict (self : PluginResult) : List (String × Json) := [
  ("plugin", .str self.plugin),
  ("result", self.result),
  ("error", match self.error with
    | some error => .str error
    | none => .null)]

/-- What a handler awaits. -/
inductive Call where
  /-- `_transport.publish` -/
  | publish (topic : String) (message : Message)
  /-- `registry.execute_all` -/
  | execute_all (topic : String) (context : Json)
  /-- Any other await of a subclass. -/
  | other (name : String) (arguments : List Json)

/-- What an await of a handler returns. -/
@[reducible] def Call.Answer : Call → Type
  | publish _ _ => Unit
  | execute_all _ _ => List PluginResult
  | other _ _ => Json

/-- An `async` method of a handler. -/
abbrev HandlerCo (α : Type) := Co AgentState Call Call.Answer α

/-- An await of a handler that returned or raised. -/
abbrev HandlerEvent := Event AgentState Call Call.Answer

/-- `handle_message` -/
abbrev Handler := Message → HandlerCo (Option (List Message))

namespace Agent

variable (self : Agent)

/-! ## The methods that handlers use -/

/-- The defaults of a new message, in a handler. -/
def new_fresh : HandlerCo Fresh := do
  let fresh ← Co.read fun s => self.rt.fresh s.made s.clock
  Co.update fun s => { s with made := s.made + 1 }
  pure fresh

/-- `send`: nothing is encrypted here. -/
def send (message : Message) : HandlerCo Unit :=
  if message.target.truthy then
    Co.call (Call.publish (Topic.agent_inbox (self.text message.target)) message)
  else
    Co.call (Call.publish Topic.BROADCAST message)

/-- `time.time()`, as the value of a payload. -/
def time_value (clock : Int) : Json := .float (.finite (clock < 0) (mkRat clock.natAbs 4194304))

/-- The context of the plugins: a copy of the payload, with the trace of the current message. -/
def plugin_context (current_message : Option Message) (clock : Int) (context : Json) :
    Except String Json := do
  let ctx ← if context.truthy then Payload.copy context else pure (.obj [])
  match current_message with
  | some message =>
    let ctx ← Payload.set ctx "_aqap_start_time" (time_value clock)
    let ctx ← Payload.set ctx "_aqap_trace_id" message.trace_id
    let ctx ← Payload.set ctx "_aqap_message_type" (.str message.type.value)
    Payload.set ctx "_aqap_source" message.source
  | none => pure ctx

/-- `run_plugins`: the results of `execute_all`, with the message that is handled in the context. -/
def run_plugins (topic : String) (context : Json) : HandlerCo (List PluginResult) := do
  let ctx ← Co.read fun s => plugin_context s.current_message s.clock context
  let ctx ← Co.lift ctx
  Co.call (Call.execute_all topic ctx)

end Agent

/-! ## An iteration with its handler -/

/-- The awaits of the loop, and those of the handler. -/
abbrev Await := Request ⊕ Call

/-- What an await of the agent or of its handler returns. -/
@[reducible] def Await.Answer : Await → Type := Sum.elim Request.Answer Call.Answer

abbrev AwaitEvent := Event AgentState Await Await.Answer

/-- What an await of the loop runs. -/
def perform (handler : Handler) : (q : Request) → Co AgentState Await Await.Answer q.Answer
  | .publish topic message => Co.call (Sum.inl (Request.publish topic message))
  | .ack topic msg_id group => Co.call (Sum.inl (Request.ack topic msg_id group))
  | .handle_message message => (handler message).inr
  | .acquire => Co.call (Sum.inl Request.acquire)

/-- One iteration of `_consume_loop`, with its handler. -/
def Agent.consume (self : Agent) (handler : Handler) (topic : String) (message : Message) :
    Co AgentState Await Await.Answer Bool :=
  (self.consume_one topic message).subst (perform handler)

/-- A run of an iteration; `others` is what the other tasks may do to the state at its awaits. -/
structure Consumption (agent : Agent) (handler : Handler) where
  topic : String
  message : Message
  others : AgentState → AgentState → Prop
  start : AgentState
  events : List AwaitEvent
  final : AgentState
  result : Except Exc Bool
  run : Co.Run others (agent.consume handler topic message) start events final result

namespace Consumption

variable {agent : Agent} {handler : Handler}

/-- The handler publishes `message`. -/
def Sends (c : Consumption agent handler) (topic : String) (message : Message) : Prop :=
  ∃ ans st, (⟨.inr (.publish topic message), ans, st⟩ : AwaitEvent) ∈ c.events

/-- The agent publishes `message`, in the handler or after it. -/
def Publishes (c : Consumption agent handler) (topic : String) (message : Message) : Prop :=
  (∃ ans st, (⟨.inl (.publish topic message), ans, st⟩ : AwaitEvent) ∈ c.events) ∨
    c.Sends topic message

/-- The events of the loop, with the handler as one await. -/
structure Calls (c : Consumption agent handler) (calls : List AgentEvent) : Prop where
  run : Co.Run (fun _ _ => True) (agent.consume_one c.topic c.message) c.start calls c.final c.result
  expand : Co.Expand c.others (perform handler) calls c.events

variable {c : Consumption agent handler} {calls : List AgentEvent}

theorem exists_calls (c : Consumption agent handler) : ∃ calls, c.Calls calls := by
  obtain ⟨calls, hrun, hexpand⟩ := Co.run_subst c.run
  exact ⟨calls, hrun, hexpand⟩

/-- What a request other than `handle_message` runs is that request. -/
theorem perform_eq {handler : Handler} {q : Request} (hq : ∀ m, q ≠ .handle_message m) :
    perform handler q = Co.call (Sum.inl q : Await) := by
  cases q with
  | handle_message m => exact absurd rfl (hq m)
  | _ => rfl

theorem Calls.inl_mem_iff (h : c.Calls calls) {q : Request} (hq : ∀ m, q ≠ .handle_message m)
    {ans : Except Exc q.Answer} {st : AgentState} :
    (⟨.inl q, ans, st⟩ : AwaitEvent) ∈ c.events ↔ (⟨q, ans, st⟩ : AgentEvent) ∈ calls := by
  constructor
  · intro hev
    obtain ⟨q', ans', s₀, s₁, seg, hmem, hrun, hseg⟩ := h.expand.mem _ hev
    by_cases hq' : ∀ m, q' ≠ .handle_message m
    · rw [perform_eq hq'] at hrun
      obtain ⟨rfl, -⟩ := Co.run_call.mp hrun
      cases List.mem_singleton.mp hseg
      exact hmem
    · push Not at hq'
      obtain ⟨m, rfl⟩ := hq'
      obtain ⟨evs, -, rfl⟩ := Co.run_inr.mp hrun
      obtain ⟨ev, -, hev'⟩ := List.mem_map.mp hseg
      cases hev'
  · intro hev
    obtain ⟨s₀, seg, hrun, hsub⟩ := h.expand.segment _ hev
    rw [perform_eq hq] at hrun
    obtain ⟨rfl, -⟩ := Co.run_call.mp hrun
    exact hsub _ (List.mem_singleton_self _)

/-- An await of the handler belongs to a run of the handler. -/
theorem Calls.of_inr (h : c.Calls calls) {q : Call} {ans : Except Exc q.Answer} {st : AgentState}
    (hev : (⟨.inr q, ans, st⟩ : AwaitEvent) ∈ c.events) :
    ∃ m r s s' tr, (⟨.handle_message m, r, s'⟩ : AgentEvent) ∈ calls ∧
      Co.Run c.others (handler m) s tr s' r ∧ (⟨q, ans, st⟩ : HandlerEvent) ∈ tr := by
  obtain ⟨q', ans', s₀, s₁, seg, hmem, hrun, hseg⟩ := h.expand.mem _ hev
  by_cases hq' : ∀ m, q' ≠ .handle_message m
  · rw [perform_eq hq'] at hrun
    obtain ⟨rfl, -⟩ := Co.run_call.mp hrun
    cases List.mem_singleton.mp hseg
  · push Not at hq'
    obtain ⟨m, rfl⟩ := hq'
    obtain ⟨evs, hevs, rfl⟩ := Co.run_inr.mp hrun
    obtain ⟨ev, hev', heq⟩ := List.mem_map.mp hseg
    obtain ⟨q₁, ans₁, st₁⟩ := ev
    cases heq
    exact ⟨m, ans', s₀, s₁, evs, hmem, hevs, hev'⟩

/-- The await of `handle_message` is a run of the handler, whose awaits are events. -/
theorem Calls.handler_run (h : c.Calls calls) {m : Message} {r : Except Exc (Option (List Message))}
    {s' : AgentState} (hev : (⟨.handle_message m, r, s'⟩ : AgentEvent) ∈ calls) :
    ∃ s tr, Co.Run c.others (handler m) s tr s' r ∧ ∀ ev ∈ tr, ev.inr ∈ c.events := by
  obtain ⟨s₀, seg, hrun, hsub⟩ := h.expand.segment _ hev
  obtain ⟨evs, hevs, rfl⟩ := Co.run_inr.mp hrun
  exact ⟨s₀, evs, hevs, fun ev hmem => hsub _ (List.mem_map_of_mem hmem)⟩

end Consumption

end Aqap
