import Aqap.Agent.Frame
import Aqap.Async.Workers

/-!
# The consume loops of an agent

`start` runs one `_consume_loop` for each topic. The loops share the attributes of the agent: each of
them stores the transport id of the message that it received in `_last_msg_id`, and acknowledges what it
finds there when the message was processed.

* `Own`: the agent holds the transport id of a message, or none. The processing of any message keeps it
  (`guarded_own`); receiving another message does not.
* `ackIdentity_of_undisturbed`: every acknowledgement names the message and the topic that caused it, in
  every run in which no loop receives a transport id while another iteration may still acknowledge.
* `ack_of_another_message`: two loops, and the first acknowledges the message of the second.
-/

namespace Aqap

open Py Aqap.Core Async

namespace Agent

variable {self : Agent} {m : Message} {topic : String} {s s' : AgentState}

/-! ## The system of the loops -/

/-- The loops, numbered by `ι`. -/
abbrev Loops (ι : Type) := Sys ι Message AgentState Request Request.Answer Bool

/-- The loop takes the next message unless it was left, by `break` or by an exception. -/
def goes_on : Except Exc Bool → Bool
  | .ok b => b
  | .error _ => false

/-- The attributes of the last message are left alone. The tasks other than the loops do so. -/
structure KeepsLast (s s' : AgentState) : Prop where
  last_msg_id : s'.last_msg_id = s.last_msg_id
  last_group : s'.last_group = s.last_group

/-- All loops wait for their first message. -/
def consuming (ι : Type) (s : AgentState) : Loops ι := ⟨s, fun _ => .idle, []⟩

/-- An acknowledgement that was issued for the message `m` from `topic` names both. -/
def NamesItsMessage (self : Agent) (topic : String) (m : Message) (q : Request) : Prop :=
  ∀ t id group, q = .ack t id group →
    t = topic ∧ m.transport_msg_id = some id ∧ group = self.group

/-- Every acknowledgement that was issued names the message whose processing issued it, and its
topic. -/
def AckIdentity {ι : Type} (self : Agent) (topics : ι → String) (S : Loops ι) : Prop :=
  ∀ i m q, (i, m, q) ∈ S.log → self.NamesItsMessage (topics i) m q

/-- Once its await is answered, the iteration acknowledges nothing any more. -/
def Silent : AgentCo Bool → Prop
  | .await _ k => ∀ ans, Co.Guarded (fun _ => True) (fun _ _ => True) NoAck (k ans)
  | _ => True

/-- No message with a transport id is received while another loop may still acknowledge a message with
another id. -/
def Undisturbed {ι : Type} (S : Loops ι) : Label ι Message Request Request.Answer → Prop
  | .deliver i m => S.shared.running = true → ∀ id, m.transport_msg_id = some id → id.truthy = true →
      ∀ j m' start c, j ≠ i → S.workers j = .busy m' start c →
        m'.transport_msg_id = some id ∨ Silent c
  | _ => True

/-- The agent holds the transport id of `m`, or none. -/
structure Own (agent : Agent) (m : Message) (s : AgentState) : Prop where
  ack_id : ∀ id, s.ack_id = some id → m.transport_msg_id = some id
  last_group : s.last_group = agent.group

theorem KeepsLast.refl (s : AgentState) : KeepsLast s s := ⟨rfl, rfl⟩

theorem KeepsLast.trans (s₁ s₂ s₃ : AgentState) (h₁ : KeepsLast s₁ s₂) (h₂ : KeepsLast s₂ s₃) :
    KeepsLast s₁ s₃ :=
  ⟨h₂.last_msg_id.trans h₁.last_msg_id, h₂.last_group.trans h₁.last_group⟩

theorem Own.keepsLast (h : self.Own m s) (hk : KeepsLast s s') : self.Own m s' where
  ack_id id hid := by
    unfold AgentState.ack_id at hid
    rw [hk.last_msg_id] at hid
    exact h.ack_id id hid
  last_group := hk.last_group.trans h.last_group

theorem NoAck.names {q : Request} (h : NoAck q) : self.NamesItsMessage topic m q := by
  rintro t id group rfl
  cases h

/-! ## What one iteration guarantees -/

/-- The iteration after the message was received. -/
def after_receive (self : Agent) (topic : String) (m : Message) : AgentCo Bool :=
  if m.source.eq_str self.agent_id then pure true else self.deduplicate topic m

/-- The iteration leaves the attributes of the last message alone, also where another loop changed
them. -/
theorem keepsLast_after_receive :
    Co.Guarded (fun _ => True) KeepsLast (fun _ => True) (self.after_receive topic m) := by
  unfold after_receive
  split
  · exact .pure _
  refine guarded_deduplicate ⟨?_, ?_, ?_⟩ ?_ (fun _ _ => trivial) fun _ _ _ _ _ _ => trivial
  all_goals intros; exact ⟨trivial, rfl, rfl⟩

/-- The iteration names its message as long as the agent holds no other transport id. -/
theorem names_after_receive :
    Co.Guarded (self.Own m) (fun _ _ => True) (self.NamesItsMessage topic m)
      (self.after_receive topic m) := by
  unfold after_receive
  split
  · exact .pure _
  refine guarded_deduplicate ?_ (fun s k now _ h => ⟨⟨h.ack_id, h.last_group⟩, trivial⟩) ?_ ?_
  · refine .of_forall ?_ ?_ ?_
    all_goals exact fun s _ h => ⟨h.ack_id, h.last_group⟩
  · exact fun q hno => NoAck.names hno
  · rintro s s₁ id hs hs₁ hid t id' group ⟨⟩
    exact ⟨rfl, hs.ack_id id hid, hs₁.last_group⟩

/-- After another message was received, the agent holds its transport id, if it has one. -/
theorem own_receive {m' : Message}
    (h : ∀ id, m'.transport_msg_id = some id → id.truthy = true → m.transport_msg_id = some id) :
    self.Own m (self.receive topic m' s) where
  ack_id id hid := by
    obtain ⟨hlast, htruthy⟩ := Option.filter_eq_some_iff.mp hid
    exact h id hlast htruthy
  last_group := rfl

/-! ## All loops -/

variable {ι : Type} {topics : ι → String} {S S' : Loops ι}

/-- What holds of a loop that waits in the iteration `c` of the message `m`. -/
structure Waiting (agent : Agent) (topic : String) (m : Message) (c : AgentCo Bool)
    (shared : AgentState) : Prop where
  keeps : Co.Guarded (fun _ => True) KeepsLast (fun _ => True) c
  names : Silent c ∨
    Co.Guarded (agent.Own m) (fun _ _ => True) (agent.NamesItsMessage topic m) c ∧ agent.Own m shared

/-- The invariant of the loops. -/
structure Inv (agent : Agent) (topics : ι → String) (S : Loops ι) : Prop where
  waiting : ∀ i m start c, S.workers i = .busy m start c → agent.Waiting (topics i) m c S.shared
  acks : agent.AckIdentity topics S

theorem silent_of_guarded {c : AgentCo Bool}
    (h : Co.Guarded (fun _ => True) (fun _ _ => True) NoAck c) (s : AgentState) : Silent c := by
  cases c with
  | await q k => exact fun ans s' hs' => (h s trivial).2 ans s' hs'
  | _ => trivial

theorem inv_consuming : self.Inv topics (consuming ι s) where
  waiting i m start c hw := by cases hw
  acks i m q hmem := by cases hmem

variable [DecidableEq ι]

/-- **One step of a loop.** It leaves what holds of the other loops. -/
theorem inv_proceed {i : ι} {start : AgentState} {c : AgentCo Bool}
    (hothers : ∀ j m' start c', j ≠ i → S.workers j = .busy m' start c' →
      self.Waiting (topics j) m' c' S.shared)
    (hacks : self.AckIdentity topics S)
    (hkeeps : Co.Guarded (fun _ => True) KeepsLast (fun _ => True) c)
    (hnames : Co.Guarded (fun _ => True) (fun _ _ => True) NoAck c ∨
      Co.Guarded (self.Own m) (fun _ _ => True) (self.NamesItsMessage (topics i) m) c ∧
        self.Own m S.shared) :
    self.Inv topics (Sys.proceed goes_on S i m start c) := by
  obtain ⟨-, hlast, hkeeps'⟩ :=
    (hkeeps S.shared trivial).settle KeepsLast.refl KeepsLast.trans trivial
  have hnames' : Co.Guarded (fun _ => True) (fun _ _ => True) NoAck (c.settle S.shared).2 ∨
      Co.Guarded (self.Own m) (fun _ _ => True) (self.NamesItsMessage (topics i) m)
        (c.settle S.shared).2 ∧ self.Own m (c.settle S.shared).1 := by
    rcases hnames with h | ⟨h, hown⟩
    · exact .inl ((h _ trivial).settle (fun _ => trivial) (fun _ _ _ _ _ => trivial) trivial).2.2
    · obtain ⟨hown', -, h'⟩ :=
        (h _ hown).settle (fun _ => trivial) (fun _ _ _ _ _ => trivial) hown
      exact .inr ⟨h', hown'⟩
  constructor
  · intro j m' start' c' hw
    rcases Sys.busy_proceed hw with ⟨rfl, rfl, -, rfl⟩ | ⟨hj, hw⟩
    · exact ⟨hkeeps', hnames'.imp_left fun h => silent_of_guarded h S.shared⟩
    · have hwait := hothers j m' start' c' hj hw
      exact ⟨hwait.keeps, hwait.names.imp_right fun h => ⟨h.1, h.2.keepsLast hlast⟩⟩
  · intro j m' q hmem
    rcases List.mem_append.mp hmem with hold | hnew
    · exact hacks j m' q hold
    · obtain ⟨rfl, rfl, k, hk⟩ := Sys.mem_issued hnew
      rw [hk] at hnames'
      rcases hnames' with h | ⟨h, hown⟩
      · exact (h S.shared trivial).1.names
      · exact (h _ hown).1

theorem settle_running (hrun : s.running = true) : (self.consume_one topic m).settle s =
    (self.after_receive topic m).settle (self.receive topic m s) := by
  show (if !s.running then (pure false : AgentCo Bool) else _).settle s = _
  rw [hrun]
  rfl

theorem settle_stopped (hrun : s.running = false) :
    (self.consume_one topic m).settle s = (s, .ret false) := by
  show (if !s.running then (pure false : AgentCo Bool) else _).settle s = _
  rw [hrun]
  rfl

/-- A loop that ends acknowledges nothing. -/
theorem Inv.ended (h : self.Inv topics S) (i : ι) :
    self.Inv topics { S with workers := Function.update S.workers i .ended } := by
  refine ⟨fun j m start c hw => ?_, h.acks⟩
  exact h.waiting j m start c (Sys.busy_of_ended hw)

/-- The steps of the loops keep the invariant, if the loops leave each other undisturbed. -/
theorem inv_step {l : Label ι Message Request Request.Answer} (hinv : self.Inv topics S)
    (hmeets : Undisturbed S l)
    (hstep : Sys.Step goes_on (fun i m => self.consume_one (topics i) m) KeepsLast S l S') :
    self.Inv topics S' := by
  cases hstep with
  | @deliver i m hidle =>
    cases hrun : S.shared.running with
    | false =>
      -- The loop is left at once.
      have heq : Sys.proceed goes_on S i m S.shared (self.consume_one (topics i) m) =
          { S with workers := Function.update S.workers i .ended } := by
        unfold Sys.proceed
        rw [settle_stopped hrun]
        simp [Sys.after, Sys.issued, goes_on]
      rw [heq]
      exact hinv.ended i
    | true =>
      have heq : Sys.proceed goes_on S i m S.shared (self.consume_one (topics i) m) =
          Sys.proceed goes_on { S with shared := self.receive (topics i) m S.shared } i m S.shared
            (self.after_receive (topics i) m) := by
        unfold Sys.proceed
        rw [settle_running hrun]
      rw [heq]
      refine inv_proceed ?_ hinv.acks keepsLast_after_receive
        (.inr ⟨names_after_receive, own_receive fun id h _ => h⟩)
      intro j m' start c hj hw
      have hwait := hinv.waiting j m' start c hw
      refine ⟨hwait.keeps, ?_⟩
      by_cases hsilent : Silent c
      · exact .inl hsilent
      · rcases hwait.names with h | ⟨hg, -⟩
        · exact .inl h
        · refine .inr ⟨hg, own_receive fun id hid htruthy => ?_⟩
          exact (hmeets hrun id hid htruthy j m' start c hj hw).resolve_right hsilent
  | @resume i m start q k answer hbusy =>
    obtain ⟨hkeeps, hnames⟩ := hinv.waiting i m start _ hbusy
    refine inv_proceed (fun j m' start' c' _ => hinv.waiting j m' start' c') hinv.acks ?_ ?_
    · exact fun s hs => (hkeeps s hs).2 (answer q) s hs
    · refine hnames.imp (fun h => h (answer q)) fun h => ⟨fun s hs => ?_, h.2⟩
      exact (h.1 s hs).2 (answer q) s hs
  | @close i hidle => exact hinv.ended i
  | env hE =>
    refine ⟨fun j m' start c hw => ?_, hinv.acks⟩
    have hwait := hinv.waiting j m' start c hw
    exact ⟨hwait.keeps, hwait.names.imp_right fun h => ⟨h.1, h.2.keepsLast hE⟩⟩

/-- **When every acknowledgement names its message.** In every run of the loops, however they take
turns at their awaits, in which no message with a transport id is received while another loop may still
acknowledge a message with another id, every acknowledgement names the message whose processing issued
it, and the topic from which that was consumed. -/
theorem ackIdentity_of_undisturbed
    (h : Sys.Reach goes_on (fun i m => self.consume_one (topics i) m) KeepsLast Undisturbed
      (consuming ι s) S) : self.AckIdentity topics S := by
  have hinv : self.Inv topics S := by
    exact h.invariant inv_consuming fun S l S' => inv_step
  exact hinv.acks

/-! ## Two loops -/

/-- Another task, as it was delivered with the transport id `2-0`. -/
def second_task : Message :=
  { sample_task with message_id := .str "8899aabbccddeeff", transport_msg_id := some (.id "2-0") }

/-- The topics of two loops. -/
def two_topics : Bool → String
  | false => Topic.AGENT_PROBE
  | true => Topic.BROADCAST

/-- What may happen in the run of two loops: a loop receives a message, or its await returns. -/
abbrev TwoLoopsLabel := Label Bool Message Request Request.Answer

/-- The await of a loop returns, that of the handler without replies. -/
def returns (i : Bool) : TwoLoopsLabel := .resume i (sample_answer (.ok none))

/-- A run of two loops. -/
def two_loops (ls : List TwoLoopsLabel) : Loops Bool :=
  Sys.exec goes_on (fun i m => (sample_agent 3).consume_one (two_topics i) m)
    (consuming Bool (AgentState.started 0)) ls

theorem reach_two_loops (ls : List TwoLoopsLabel) :
    Sys.Reach goes_on (fun i m => (sample_agent 3).consume_one (two_topics i) m) KeepsLast
      (fun _ _ => True) (consuming Bool (AgentState.started 0)) (two_loops ls) :=
  Sys.reach_exec (fun _ _ _ => trivial) .start

/-- The id that was acknowledged, and the id of the message whose processing did so. -/
def acked : Bool × Message × Request → Option (TransportId × Option TransportId)
  | (_, m, .ack _ id _) => some (id, m.transport_msg_id)
  | _ => none

/-- The run goes on from `S`. -/
def go_on (S : Loops Bool) (ls : List TwoLoopsLabel) : Loops Bool :=
  Sys.exec goes_on (fun i m => (sample_agent 3).consume_one (two_topics i) m) S ls

/-- A loop takes what it received to its end. -/
def take_to_end (S : Loops Bool) (i : Bool) : Loops Bool := go_on S [returns i, returns i]

/-- The awaits of a loop are never in the way of another one. -/
theorem reach_take_to_end {S : Loops Bool} (i : Bool)
    (h : Sys.Reach goes_on (fun i m => (sample_agent 3).consume_one (two_topics i) m) KeepsLast Undisturbed
      (consuming Bool (AgentState.started 0)) S) :
    Sys.Reach goes_on (fun i m => (sample_agent 3).consume_one (two_topics i) m) KeepsLast Undisturbed
      (consuming Bool (AgentState.started 0)) (take_to_end S i) := by
  refine Sys.reach_exec (fun S' l hl => ?_) h
  obtain rfl : l = returns i := by simpa using hl
  trivial

/-- The first loop has handled and acknowledged its message. -/
def one_handled : Loops Bool := take_to_end (two_loops [.deliver false sample_task]) false

/-- And then the second one has. -/
def both_handled : Loops Bool := take_to_end (go_on one_handled [.deliver true second_task]) true

/-- A loop handles and acknowledges its message, and then the other one does. -/
theorem ackIdentity_of_undisturbed_sample :
    (sample_agent 3).AckIdentity two_topics both_handled ∧
      both_handled.log.filterMap acked = [(.id "1-0", some (.id "1-0")), (.id "2-0", some (.id "2-0"))] := by
  refine ⟨ackIdentity_of_undisturbed (reach_take_to_end true (.step ?_ ?_ (.deliver ?_))), by decide +kernel⟩
  · refine reach_take_to_end false (.step .start ?_ (.deliver rfl))
    rintro - id - - j m' start c - ⟨⟩
  · have hidle : ∀ i, one_handled.workers i = .idle := fun i => by cases i <;> rfl
    intro _ id _ _ j m' start c _ hbusy
    cases (hidle j).symm.trans hbusy
  · rfl

/-- The second loop receives a message while the handler of the first one runs: the first loop then
acknowledges the message of the second, on its own topic. -/
theorem ack_of_another_message :
    ¬ ∀ (ι : Type) [DecidableEq ι] (self : Agent) (topics : ι → String) (s : AgentState)
      (S : Loops ι), Sys.Reach goes_on (fun i m => self.consume_one (topics i) m) KeepsLast
        (fun _ _ => True) (consuming ι s) S → self.AckIdentity topics S := by
  intro h
  have hid := h Bool (sample_agent 3) two_topics _ _
    (reach_two_loops [.deliver false sample_task, .deliver true second_task, returns false])
  have hacked : (TransportId.id "2-0", some (TransportId.id "1-0")) ∈ (two_loops
      [.deliver false sample_task, .deliver true second_task, returns false]).log.filterMap acked := by
    decide +kernel
  obtain ⟨⟨i, m, q⟩, hmem, hq⟩ := List.mem_filterMap.mp hacked
  cases q with
  | ack topic id group =>
    obtain ⟨rfl, hm⟩ : id = .id "2-0" ∧ m.transport_msg_id = some (.id "1-0") := by
      simpa [acked] using hq
    obtain ⟨-, hown, -⟩ := hid _ _ _ hmem _ _ _ rfl
    rw [hm] at hown
    exact absurd hown (by decide)
  | _ => cases hq

end Agent

end Aqap
