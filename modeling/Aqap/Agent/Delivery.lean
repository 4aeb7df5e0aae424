import Aqap.Agent.Flow
import Aqap.Sdk.Producer

/-!
# Where targeted messages are handled

A message with a target is for the agent with that id. `Agent.send` and the replies of an agent go to the
inbox of the target, but the producer of the SDK writes to the topic of the message; and the consume loop
does not look at the target.

* `PublishedByAgent.inbox`: a targeted message that an agent publishes goes to the inbox of the target.
* `Consumption.handles_iff`: on which messages `handle_message` runs.
* `targetedDelivery_iff`: when targeted messages are handled by their targets only.
* `targetedDelivery_of_inboxes`: they are if only `Agent.send` and the iterations of the loops publish them
  and every agent subscribes to no other inbox than its own.
-/

namespace Aqap

open Py Aqap.Core Aqap.Sdk Async

/-- An agent publishes the message on the topic, by `send` or in an iteration of its loop. A replay of the
`DLQConsumerAgent`, which does not look at the target, is not among these. -/
inductive PublishedByAgent : String → Message → Prop
  /-- `Agent.send` -/
  | send {self : Agent} {R : AgentState → AgentState → Prop} {s s' : AgentState} {tr : List HandlerEvent}
      {r : Except Exc Unit} {message : Message} {topic : String} {msg : Message} :
      Co.Run R (self.send message) s tr s' r →
      (∃ ans st, (⟨.publish topic msg, ans, st⟩ : HandlerEvent) ∈ tr) → PublishedByAgent topic msg
  /-- A reply, or another message that an iteration publishes itself. -/
  | reply {agent : Agent} {handler : Handler} {c : Consumption agent handler} {topic : String}
      {msg : Message} : (∃ ans st, (⟨.inl (.publish topic msg), ans, st⟩ : AwaitEvent) ∈ c.events) →
      PublishedByAgent topic msg

/-- The producer of the SDK publishes the message on the topic. -/
inductive PublishedBySdk : String → Message → Prop
  /-- `StreamProducer.publish` -/
  | publish {producer : StreamProducer} {message : AQAPMessage} {topic : String} {msg : Message} :
      producer.publish message = .ok (topic, msg.to_dict) → PublishedBySdk topic msg
  /-- `StreamProducer.send_to` -/
  | send_to {producer : StreamProducer} {fresh : Fresh} {msg_type : MessageType}
      {source target named : String} {payload : List (String × Json)} {trace_id : String}
      {topic : String} {msg : Message} :
      producer.send_to fresh msg_type source target named payload trace_id =
        .ok (topic, msg.to_dict) → PublishedBySdk topic msg

/-- An agent with its handler and the topics that it subscribes to. -/
structure Subscriber where
  agent : Agent
  handler : Handler
  topics : List String

/-- A message that was published on a topic is delivered to a subscriber of the topic, which consumes
it. -/
structure Delivery where
  topic : String
  published : Message
  publication : PublishedByAgent topic published ∨ PublishedBySdk topic published
  subscriber : Subscriber
  subscribed : topic ∈ subscriber.topics
  consumption : Consumption subscriber.agent subscriber.handler
  from_topic : consumption.topic = topic
  delivered : Delivered published consumption.message

/-- `handle_message` runs. -/
def Consumption.Handles {agent : Agent} {handler : Handler} (c : Consumption agent handler) : Prop :=
  ∃ calls m r st, c.Calls calls ∧ (⟨.handle_message m, r, st⟩ : AgentEvent) ∈ calls

/-- The message passes the checks of the consume loop, and the semaphore is entered, if there is one. -/
def Consumption.Admits {agent : Agent} {handler : Handler} (c : Consumption agent handler) : Prop :=
  (∃ k, agent.Admitted c.message k c.start) ∧
    (agent.sem = true → ∃ st, (⟨.inl .acquire, .ok (), st⟩ : AwaitEvent) ∈ c.events)

/-- `handle_message` runs on a message with a target in the agent with that id only. -/
def TargetedDelivery (run : List Delivery) : Prop :=
  ∀ d ∈ run, d.published.target.truthy = true → d.consumption.Handles →
    d.published.target = .str d.subscriber.agent.agent_id

/-- No other subscriber of the topic admits a message with a target. -/
def Withheld (d : Delivery) : Prop :=
  d.published.target.truthy = true → d.published.target ≠ .str d.subscriber.agent.agent_id →
    ¬ d.consumption.Admits

/-! ## The topics of targeted messages -/

/-- `send` publishes a message with a target in the inbox of the target. -/
theorem send_inbox {self : Agent} {R : AgentState → AgentState → Prop} {s s' : AgentState}
    {tr : List HandlerEvent} {r : Except Exc Unit} {message msg : Message} {topic : String}
    {ans : Except Exc Unit} {st : AgentState} (h : Co.Run R (self.send message) s tr s' r)
    (hev : (⟨.publish topic msg, ans, st⟩ : HandlerEvent) ∈ tr) (htarget : msg.target.truthy = true) :
    topic = Topic.agent_inbox (self.text msg.target) := by
  unfold Agent.send at h
  split at h
  · obtain ⟨rfl, -⟩ := Co.run_call.mp h
    cases List.mem_singleton.mp hev
    rfl
  · rename_i hno
    obtain ⟨rfl, -⟩ := Co.run_call.mp h
    cases List.mem_singleton.mp hev
    exact absurd htarget hno

/-- The ERROR for an unknown type goes to the inbox of its target. -/
theorem reject_unknown_inbox {self : Agent} {R : AgentState → AgentState → Prop} {s s' : AgentState}
    {tr : List AgentEvent} {r : Except Exc Bool} {m msg : Message} {topic : String}
    {ans : Except Exc Unit} {st : AgentState} (h : Co.Run R (self.reject_unknown m) s tr s' r)
    (hev : (⟨.publish topic msg, ans, st⟩ : AgentEvent) ∈ tr) (htarget : msg.target.truthy = true) :
    topic = Topic.agent_inbox (self.text msg.target) := by
  unfold Agent.reject_unknown at h
  rw [Agent.run_fresh_bind] at h
  obtain ⟨r', h', -⟩ := Co.run_bind_pure.mp h
  obtain ⟨rfl, -⟩ := Co.run_call.mp h'
  cases List.mem_singleton.mp hev
  rw [if_pos htarget]

/-- **A message with a target that an agent publishes goes to the inbox of the target.** -/
theorem PublishedByAgent.inbox {topic : String} {msg : Message} (h : PublishedByAgent topic msg)
    (htarget : msg.target.truthy = true) :
    ∃ self : Agent, topic = Topic.agent_inbox (self.text msg.target) := by
  cases h with
  | @send self _ _ _ _ _ _ _ _ hrun hev =>
    obtain ⟨ans, st, hev⟩ := hev
    exact ⟨self, send_inbox hrun hev htarget⟩
  | @reply agent handler c _ _ hev =>
    obtain ⟨ans, st, hev⟩ := hev
    refine ⟨agent, ?_⟩
    obtain ⟨calls, hcalls⟩ := c.exists_calls
    rcases hcalls.issued hev with
      ⟨k, hrej, -⟩ | ⟨s₁, tr₁, -, ⟨replies, st', -, hreply⟩ | ⟨-, ⟨fresh, error, n, failed_at, rfl⟩, -⟩⟩
    · have hrun := Agent.run_consume_one_rejects hrej hcalls.run
      exact reject_unknown_inbox hrun ((hcalls.inl_mem_iff (by rintro m ⟨⟩)).mp hev) htarget
    · obtain ⟨reply, -, n, payload, htopic, -, rfl⟩ := hreply
      have htarget' : reply.target.truthy = true := htarget
      rw [Agent.reply_topic, if_pos htarget'] at htopic
      exact (Except.ok.inj htopic).symm
    · cases htarget

/-! ## The consume loop -/

/-- **On which messages `handle_message` runs**: the target has no part in it. -/
theorem Consumption.handles_iff {agent : Agent} {handler : Handler} {c : Consumption agent handler} :
    c.Handles ↔ c.Admits := by
  constructor
  · rintro ⟨calls, m, r, st, hcalls, hev⟩
    obtain ⟨-, s₁, tr₁, pubs, post, ⟨k, hadm, hentered⟩, -⟩ := hcalls.handled hev
    refine ⟨⟨k, hadm⟩, fun hsem => ?_⟩
    cases hentered with
    | free hfree => cases hfree.symm.trans hsem
    | acquired =>
      exact ⟨_, (hcalls.inl_mem_iff (by rintro m ⟨⟩)).mpr List.mem_cons_self⟩
  · rintro ⟨⟨k, hadm⟩, hacquired⟩
    obtain ⟨calls, hcalls⟩ := c.exists_calls
    obtain ⟨r, -, hrun⟩ := (Agent.run_consume_one hcalls.run).of_admitted hadm
    have hprocessed : ∃ s₁ tr₁ r₁, (∀ ev ∈ tr₁, ev ∈ calls) ∧ Co.Run (fun _ _ => True)
        (agent.process_one (agent.opened c.message) c.topic) s₁ tr₁ c.final r₁ := by
      rcases Agent.run_with_sem hrun with ⟨-, hone⟩ | ⟨hsem, ans, st, rest, rfl, -, hrest⟩
      · exact ⟨_, calls, r, fun _ h => h, hone⟩
      rcases hrest with ⟨e, rfl, rfl, -⟩ | ⟨-, hone⟩
      · -- The semaphore was not entered.
        obtain ⟨st', hev⟩ := hacquired hsem
        cases List.mem_singleton.mp ((hcalls.inl_mem_iff (by rintro m ⟨⟩)).mp hev)
      · exact ⟨st, rest, r, fun _ h => List.mem_cons_of_mem _ h, hone⟩
    obtain ⟨s₁, tr₁, r₁, hsub, hone⟩ := hprocessed
    obtain ⟨outcome, st, pubs, post, rfl, -⟩ := Agent.run_process_one_handler hone
    exact ⟨calls, _, outcome, st, hcalls, hsub _ List.mem_cons_self⟩

/-- **When targeted messages are handled by their targets only.** -/
theorem targetedDelivery_iff (run : List Delivery) :
    TargetedDelivery run ↔ ∀ d ∈ run, Withheld d := by
  refine forall₂_congr fun d _ => forall_congr' fun _ => ?_
  rw [Consumption.handles_iff]
  tauto

/-- The target of a message that is handled is a string, if it has one. -/
theorem Consumption.Admits.target {agent : Agent} {handler : Handler} {c : Consumption agent handler}
    (h : c.Admits) (htarget : c.message.target.truthy = true) : ∃ s, c.message.target = .str s := by
  obtain ⟨⟨k, hadm⟩, -⟩ := h
  have htype : KnownType (c.message.to_dict.lookup "type") := ⟨_, rfl, .inl (value_mem_known _)⟩
  have hwell := ((validate_message_eq_nil_iff htype).mp hadm.valid).1
  have hlookup : c.message.to_dict.lookup "target" = some c.message.target := rfl
  rcases hlookup ▸ hwell.target with hnone | hnull | ⟨s, hs⟩
  · cases hnone
  · rw [Option.some.inj hnull] at htarget
    cases htarget
  · exact ⟨s, Option.some.inj hs⟩

/-- If messages with a target are published by `send` and by the iterations of the loops only, and no agent
subscribes to the inbox of another one, such a message is handled by its target only. -/
theorem targetedDelivery_of_inboxes {run : List Delivery}
    (hagents : ∀ d ∈ run, d.published.target.truthy = true → PublishedByAgent d.topic d.published)
    (hinboxes : ∀ d ∈ run, ∀ id, Topic.agent_inbox id ∈ d.subscriber.topics →
      id = d.subscriber.agent.agent_id) : TargetedDelivery run := by
  intro d hd htarget hhandles
  have hdelivered : d.consumption.message.target = d.published.target := by rw [d.delivered.eq]
  have hadmits := Consumption.handles_iff.mp hhandles
  obtain ⟨s, hs⟩ := hadmits.target (by rwa [hdelivered])
  rw [hdelivered] at hs
  obtain ⟨self, htopic⟩ := (hagents d hd htarget).inbox htarget
  have hsubscribed := d.subscribed
  rw [htopic, hs] at hsubscribed
  rw [hs, hinboxes d hd s hsubscribed]

/-! ## A targeted message on a shared topic -/

/-- A task for the Judge, on the topic of the Probe. -/
def sample_targeted : Message :=
  { task_dispatch sample_fresh "client" [] with target := .str "judge-1" }

/-- The producer of a client sends it. -/
theorem sample_sent : StreamProducer.send_to ⟨fun v => .ok (v.text sample_runtime.repr)⟩ sample_fresh
    .TASK_DISPATCH "client" "judge-1" Topic.AGENT_PROBE [] "8899aabbccddeeff" =
      .ok (Topic.AGENT_PROBE, sample_targeted.to_dict) := by
  have htrace : or_default (.str "8899aabbccddeeff") sample_fresh.trace_id = .str "8899aabbccddeeff" :=
    (or_default_eq_iff (by decide)).mpr (by decide)
  have htopic : or_default (.str Topic.AGENT_PROBE) Topic.AGENT_PROBE = .str Topic.AGENT_PROBE :=
    (or_default_eq_iff (by decide)).mpr (by decide)
  simp only [StreamProducer.send_to, StreamProducer.publish, AQAPMessage.new, htrace, htopic]
  rfl

/-- The Probe consumes it. -/
def sample_delivery : Delivery where
  topic := Topic.AGENT_PROBE
  published := sample_targeted
  publication := .inr (.send_to sample_sent)
  subscriber := ⟨sample_probe.toAgent, sample_probe.handle_message, [Topic.AGENT_PROBE]⟩
  subscribed := List.mem_singleton_self _
  consumption := .exec _ Topic.AGENT_PROBE sample_targeted (AgentState.started 0) sample_await
  from_topic := rfl
  delivered := .refl _

/-- The Probe handles a task that was sent to the Judge. -/
theorem sent_to_another : ¬ ∀ run, TargetedDelivery run := by
  intro h
  have hadmits : sample_delivery.consumption.Admits := by
    refine ⟨⟨.str "0011223344556677", ⟨rfl, ?_, rfl, rfl, rfl, ?_⟩⟩, ?_⟩
    · show sample_targeted.source.eq_str "probe-1" = false
      decide
    · show sample_targeted.type ≠ .UNKNOWN
      decide
    · rintro ⟨⟩
  have htruthy : sample_targeted.target.truthy = true := by decide
  have htarget := h [sample_delivery] _ List.mem_cons_self htruthy
    (Consumption.handles_iff.mpr hadmits)
  have hjudge : "judge-1" = "probe-1" := Json.str.inj htarget
  revert hjudge
  decide

end Aqap
