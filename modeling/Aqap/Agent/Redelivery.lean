import Aqap.Agent.Conservation
import Aqap.Agent.Publications

/-!
# The way of a dead letter back

A message that an agent gave up goes into the record of a dead letter, the record into the payload of
an ERROR, and that into the index of the DLQ consumer. A replay makes the message anew from the index,
and publishes it on the topic that the message names.

* `Recorded.original`: the index holds the message as it was given up.
* `run_replay_one`: what the replay of one letter publishes.
* `replay_reaches_iff`: it reaches the queue of the message exactly if the message names that queue.
* `reply_replayed_elsewhere`: a reply in the inbox of an agent names the topic of a stage.
-/

namespace Aqap

open Py Aqap.Core Async

/-- What an agent reads: the topics of the stages, the broadcasts and its inbox. -/
def Agent.queues (agent : Agent) : List String :=
  [Topic.AGENT_PROBE, Topic.AGENT_JUDGE, Topic.AGENT_REPORTER, Topic.BROADCAST,
    Topic.agent_inbox agent.agent_id]

/-- `_handle_failure` gave up the message `m` that came from `topic`, and published `letter`. -/
def Agent.GivesUp (agent : Agent) (m : Message) (topic : String) (letter : Message) : Prop :=
  ∃ error s tr s' r ans st,
    Co.Run (fun _ _ => True) (agent.handle_failure m error topic) s tr s' r ∧
      (⟨.publish DLQ_TOPIC letter, ans, st⟩ : AgentEvent) ∈ tr

theorem Agent.GivesUp.eq {agent : Agent} {m letter : Message} {topic : String}
    (h : agent.GivesUp m topic letter) :
    ∃ fresh error n failed_at, letter = agent.dlq_message fresh m error n failed_at := by
  obtain ⟨error, s, tr, s', r, ans, st, hrun, hev⟩ := h
  rcases run_handle_failure hrun with ⟨-, rfl, -, -⟩ | ⟨-, r', -, hdead⟩
  · cases hev
  · exact (ofDisposal_dead_letter hdead _ hev).2

namespace DLQConsumerAgent

variable {agent base : Agent} {consumer : DLQConsumerAgent} {m : Message} {topic : String}
  {dl : DeadLetter} {message_id trace_id : Option String}

/-- The consumer received the letter of `m`, and `dl` is what its `handle_message` keeps of it; `base` is
the agent that the consumer is. -/
def Recorded (agent base : Agent) (m : Message) (topic : String) (dl : DeadLetter) : Prop :=
  ∃ letter received now received_at, agent.GivesUp m topic letter ∧ Delivered letter received ∧
    dead_letter (base.opened received) now received_at = .ok dl

/-- One message is published on `topic`, with the type, the payload, the target, the trace and the
correlation of `m`. -/
def Reaches (topic : String) (m : Message)
    (tr : List (Event DlqState DlqPublish fun _ => Unit)) : Prop :=
  ∃ msg ans st, tr = [⟨⟨.str topic, msg⟩, ans, st⟩] ∧ msg.type = m.type ∧ msg.payload = m.payload ∧
    msg.target = m.target ∧ msg.trace_id = m.trace_id ∧ msg.correlation_id = m.correlation_id

/-! ## From the message to the index -/

/-- The payload of a dead letter is not marked as encrypted. -/
theorem decrypt_dlq_payload (base : Agent) (fresh : Fresh) (error : String) (n : Nat)
    (failed_at : String) :
    base.cipher.decrypt_payload (agent.dlq_message fresh m error n failed_at).payload =
      .ok (agent.dlq_message fresh m error n failed_at).payload := by
  unfold PayloadCipher.decrypt_payload
  split <;> rfl

/-- The index has the message and its trace. -/
theorem Recorded.original (h : Recorded agent base m topic dl) :
    dl.original_message = m.to_dict ∧ dl.trace_id = m.trace_id := by
  obtain ⟨letter, received, now, received_at, hgives, hdelivered, hdead⟩ := h
  obtain ⟨fresh, error, n, failed_at, rfl⟩ := hgives.eq
  have hopened : base.opened received = received := by
    rw [hdelivered.eq]
    unfold Agent.opened
    rw [decrypt_dlq_payload]
  rw [hopened, hdelivered.eq] at hdead
  cases hdead
  exact ⟨rfl, rfl⟩

theorem original_type_to_dict (consumer : DLQConsumerAgent) (m : Message) :
    consumer.original_type m.to_dict = .ok m.type := by
  have h : consumer.original_type m.to_dict = (MessageType.of_value m.type.value).elim
      (.error (consumer.rt.repr (.str m.type.value) ++ " is not a valid MessageType")) .ok := rfl
  rw [h, MessageType.of_value_value]
  rfl

/-! ## From the index to the topic -/

/-- The replay of one letter awaits one publication. -/
theorem run_replay_one {R : DlqState → DlqState → Prop} {s s' : DlqState}
    {tr : List (Event DlqState DlqPublish fun _ => Unit)} {type : MessageType} {r : Except Exc Nat}
    (hone : to_replay message_id trace_id s.dead_letters = [dl])
    (hsome : dl.original_message.isEmpty = false)
    (htype : consumer.original_type dl.original_message = .ok type)
    (h : Co.Run R (consumer.replay message_id trace_id) s tr s' r) :
    ∃ fresh ans st, tr = [⟨⟨original_topic dl, replayed_message fresh type dl⟩, ans, st⟩] := by
  have hloop : ∀ {tr₁ s₁} {r₁ : Except Exc Unit},
      Co.Run R (consumer.publish_originals [dl]) s tr₁ s₁ r₁ →
      ∃ fresh ans st, tr₁ = [⟨⟨original_topic dl, replayed_message fresh type dl⟩, ans, st⟩] := by
    intro tr₁ s₁ r₁ h₁
    have hsome : ¬ dl.original_message.isEmpty = true := by simp [hsome]
    rw [publish_originals, if_neg hsome] at h₁
    obtain ⟨r₂, h₂, -⟩ := Co.run_bind_pure.mp h₁
    rcases run_publish_original h₂ with ⟨text, htext, -⟩ | ⟨type', fresh, ans, st, htype', rfl, -⟩
    · cases htext.symm.trans htype
    · cases htype'.symm.trans htype
      exact ⟨fresh, ans, st, rfl⟩
  unfold replay at h
  rw [Co.run_read_bind, hone] at h
  rcases Co.run_bind.mp h with ⟨e, h₁, -⟩ | ⟨u, t₁, s₁, t₂, h₁, rfl, h₂⟩
  · exact hloop h₁
  · rw [Co.run_update_bind] at h₂
    obtain ⟨rfl, -, -⟩ := h₂
    rw [List.append_nil]
    exact hloop h₁

/-- **When a replay reaches the queue of the message**: the topic that the message names is the queue. -/
theorem replay_reaches_iff {R : DlqState → DlqState → Prop} {s s' : DlqState}
    {tr : List (Event DlqState DlqPublish fun _ => Unit)} {r : Except Exc Nat}
    (hrecorded : Recorded agent base m topic dl)
    (hone : to_replay message_id trace_id s.dead_letters = [dl])
    (h : Co.Run R (consumer.replay message_id trace_id) s tr s' r) :
    Reaches topic m tr ↔ m.topic = .str topic := by
  obtain ⟨horiginal, htrace⟩ := hrecorded.original
  have htype : consumer.original_type dl.original_message = .ok m.type := by
    rw [horiginal, original_type_to_dict]
  have hsome : dl.original_message.isEmpty = false := by
    rw [horiginal]
    rfl
  have htopic : original_topic dl = m.topic := by
    rw [original_topic, horiginal]
    rfl
  obtain ⟨fresh, ans, st, rfl⟩ := run_replay_one hone hsome htype h
  rw [htopic]
  constructor
  · rintro ⟨msg, ans', st', heq, -⟩
    exact congrArg (fun ev => ev.req.topic) (List.cons.inj heq).1
  · intro hqueue
    refine ⟨replayed_message fresh m.type dl, ans, st, by rw [hqueue], rfl, ?_, ?_, htrace, ?_⟩
    all_goals
      unfold replayed_message
      rw [horiginal]
      rfl

/-! ## A reply in an inbox -/

/-- A letter of `m` in the index, and the state of a consumer that has it. -/
def sample_letter (m : Message) : DeadLetter where
  message_id := .str (sample_runtime.fresh 0 0).message_id
  trace_id := m.trace_id
  original_message := m.to_dict
  error := .str "timeout"
  retry_count := .int 1
  failed_by := .str "probe-1"
  failed_at := .str "2026-01-01T00:00:00+00:00"
  received_at := 0

/-- An agent that gives up after one failure publishes the letter of the message. -/
theorem recorded_sample (m : Message) (topic : String) :
    Recorded (sample_agent 1) (sample_agent 1) m topic (sample_letter m) := by
  refine ⟨_, _, "", 0, ⟨"timeout", sample_state, _, _, _, .ok (), _,
    Co.run_exec (fun _ => trivial) (sample_answer (.ok none)) _ _, List.mem_cons_self⟩,
    Delivered.refl _, rfl⟩

/-- A consumer with the letter of `m` in its index. -/
def with_letter (m : Message) : DlqState := { DlqState.started 0 with dead_letters := [sample_letter m] }

/-- A task that names the topic of the Probe is replayed there. -/
theorem replay_reaches_iff_task :
    let m : Message := { sample_task with topic := .str Topic.AGENT_PROBE }
    let e := (sample_consumer.replay none (some "8899aabbccddeeff")).exec (fun _ => .ok ())
      (with_letter m)
    Reaches Topic.AGENT_PROBE m e.1 ↔ m.topic = .str Topic.AGENT_PROBE := by
  intro m e
  exact replay_reaches_iff (recorded_sample m _) rfl
    (Co.run_exec (R := fun _ _ => True) (fun _ => trivial) _ _ _)

/-- A reply in the inbox of `probe-1` names the topic of the message that it answers: it is replayed
there. -/
theorem reply_replayed_elsewhere :
    ¬ ∀ (agent base : Agent) (consumer : DLQConsumerAgent) (m : Message) (topic : String)
      (dl : DeadLetter) (message_id trace_id : Option String) (s s' : DlqState)
      (tr : List (Event DlqState DlqPublish fun _ => Unit)) (r : Except Exc Nat),
      topic ∈ agent.queues → Recorded agent base m topic dl →
      to_replay message_id trace_id s.dead_letters = [dl] →
      Co.Run (fun _ _ => True) (consumer.replay message_id trace_id) s tr s' r →
      Reaches topic m tr := by
  intro h
  let m : Message :=
    { sample_task with target := .str "probe-1", topic := .str Topic.AGENT_JUDGE }
  obtain ⟨msg, ans, st, heq, -⟩ := h (sample_agent 1) (sample_agent 1) sample_consumer m
    (Topic.agent_inbox "probe-1") (sample_letter m) none (some "8899aabbccddeeff") (with_letter m) _ _ _
    (by decide) (recorded_sample m _) rfl (Co.run_exec (fun _ => trivial) (fun _ => .ok ()) _ _)
  have htopic : Json.str Topic.AGENT_JUDGE = .str (Topic.agent_inbox "probe-1") :=
    congrArg (fun ev => ev.req.topic) (List.cons.inj heq).1
  revert htopic
  simp only [Json.str.injEq]
  decide

end DLQConsumerAgent

end Aqap
