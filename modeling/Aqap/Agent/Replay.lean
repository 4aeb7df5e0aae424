import Aqap.Agent.DlqConsumer

/-!
# Replaying dead letters

A replay publishes the letters that it asked for, one after another, and then assigns the index.

* `run_publish_original`: what the publication of one letter does.
* `run_replay_returns`: a replay that returns has published all of them.
* `settle_replay`: a step of a replay waits for the next publication, raises, or ends.
-/

namespace Aqap

open Py Aqap.Core Async

namespace DLQConsumerAgent

variable {self : DLQConsumerAgent} {message_id trace_id : Option String} {s : DlqState}

/-! ## What a replay publishes -/

/-- The event publishes the original message of the letter, on its topic. -/
def Republished (self : DLQConsumerAgent) (dl : DeadLetter)
    (ev : Event DlqState DlqPublish fun _ => Unit) : Prop :=
  ∃ fresh type st, self.original_type dl.original_message = .ok type ∧
    ev = ⟨⟨original_topic dl, replayed_message fresh type dl⟩, .ok (), st⟩

/-- **The publication of one letter**: it raises if the type is not known, and else it awaits one
publication. -/
theorem run_publish_original {R : DlqState → DlqState → Prop} {s' : DlqState} {dl : DeadLetter}
    {tr : List (Event DlqState DlqPublish fun _ => Unit)} {r : Except Exc Unit}
    (h : Co.Run R (self.publish_original dl) s tr s' r) :
    (∃ text, self.original_type dl.original_message = .error text ∧ tr = [] ∧ s' = s ∧ r ≠ .ok ()) ∨
    ∃ type fresh ans st, self.original_type dl.original_message = .ok type ∧
      tr = [⟨⟨original_topic dl, replayed_message fresh type dl⟩, ans, st⟩] ∧
      R { s with made := s.made + 1 } st ∧
      ((∃ e, ans = .error e ∧ s' = st ∧ r = .error e) ∨
        (ans = .ok () ∧ s' = st.publish dl ∧ r = .ok ())) := by
  unfold publish_original at h
  rcases Co.run_lift_bind.mp h with ⟨text, htext, rfl, rfl, rfl⟩ | ⟨type, htype, h⟩
  · refine .inl ⟨text, htext, rfl, rfl, ?_⟩
    rintro ⟨⟩
  rw [Co.run_read_bind, Co.run_update_bind] at h
  obtain ⟨ans, st, rest, rfl, hst, ⟨e, rfl, rfl, rfl, rfl⟩ | ⟨_, rfl, rfl, rfl, rfl⟩⟩ :=
    Co.run_call_bind.mp h
  · exact .inr ⟨type, _, _, s', htype, rfl, hst, .inl ⟨e, rfl, rfl, rfl⟩⟩
  · exact .inr ⟨type, _, _, st, htype, rfl, hst, .inr ⟨rfl, rfl, rfl⟩⟩

theorem publishable_cons_of_empty {dl : DeadLetter} (letters : List DeadLetter)
    (h : dl.original_message.isEmpty = true) : publishable (dl :: letters) = publishable letters :=
  List.filter_cons_of_neg (by simp [h])

theorem publishable_cons {dl : DeadLetter} (letters : List DeadLetter)
    (h : dl.original_message.isEmpty = false) :
    publishable (dl :: letters) = dl :: publishable letters :=
  List.filter_cons_of_pos (by simp [h])

theorem run_publish_originals {R : DlqState → DlqState → Prop} {s' : DlqState}
    {tr : List (Event DlqState DlqPublish fun _ => Unit)} {letters : List DeadLetter}
    (h : Co.Run R (self.publish_originals letters) s tr s' (.ok ())) :
    List.Forall₂ self.Republished (publishable letters) tr := by
  induction letters generalizing s tr with
  | nil =>
    obtain ⟨rfl, -, -⟩ := h
    exact .nil
  | cons dl letters ih =>
    rw [publish_originals] at h
    split at h
    · rename_i hempty
      rw [publishable_cons_of_empty letters hempty]
      exact ih h
    · rename_i hsome
      rw [publishable_cons letters (by simpa using hsome)]
      rcases Co.run_bind.mp h with ⟨e, -, ⟨⟩⟩ | ⟨u, t₁, s₁, t₂, h₁, rfl, h₂⟩
      rcases run_publish_original h₁ with ⟨-, -, -, -, hne⟩ | ⟨type, fresh, ans, st, htype, rfl, -, hrest⟩
      · exact absurd rfl hne
      rcases hrest with ⟨e, -, -, ⟨⟩⟩ | ⟨rfl, -, -⟩
      exact .cons ⟨fresh, type, st, htype, rfl⟩ (ih h₂)

/-- **A replay that returns has published the letters that the ledger counts as replayed.** -/
theorem run_replay_returns {R : DlqState → DlqState → Prop} {s' : DlqState}
    {tr : List (Event DlqState DlqPublish fun _ => Unit)} {count : Nat}
    (h : Co.Run R (self.replay message_id trace_id) s tr s' (.ok count)) :
    List.Forall₂ self.Republished (to_publish message_id trace_id s.dead_letters) tr := by
  unfold replay at h
  rw [Co.run_read_bind] at h
  rcases Co.run_bind.mp h with ⟨e, -, ⟨⟩⟩ | ⟨u, t₁, s₁, t₂, h₁, rfl, h₂⟩
  rw [Co.run_update_bind] at h₂
  obtain ⟨rfl, -, -⟩ := h₂
  rw [List.append_nil]
  exact run_publish_originals h₁

/-- A letter is published first: there is one that the replay asks for, and its type can be read. -/
def PublishesFirst (self : DLQConsumerAgent) (letters : List DeadLetter) : Prop :=
  ∃ dl rest type, letters = dl :: rest ∧ self.original_type dl.original_message = .ok type

/-- **What a replay publishes**: messages from the source `dlq-consumer`, and something at all exactly if
the first letter can be published. -/
theorem run_publish_originals_events {R : DlqState → DlqState → Prop} {s' : DlqState}
    {tr : List (Event DlqState DlqPublish fun _ => Unit)} {letters : List DeadLetter}
    {r : Except Exc Unit} (h : Co.Run R (self.publish_originals letters) s tr s' r) :
    (tr ≠ [] ↔ self.PublishesFirst (publishable letters)) ∧
      ∀ ev ∈ tr, ev.req.message.source = .str "dlq-consumer" := by
  induction letters generalizing s tr with
  | nil =>
    obtain ⟨rfl, -, -⟩ := h
    refine ⟨iff_of_false (fun h => h rfl) ?_, List.forall_mem_nil _⟩
    rintro ⟨dl, rest, type, ⟨⟩, -⟩
  | cons dl letters ih =>
    rw [publish_originals] at h
    split at h
    · rename_i hempty
      rw [publishable_cons_of_empty letters hempty]
      exact ih h
    rename_i hsome
    rw [publishable_cons letters (by simpa using hsome)]
    rcases Co.run_bind.mp h with ⟨e, h₁, -⟩ | ⟨u, t₁, s₁, t₂, h₁, rfl, h₂⟩
    · rcases run_publish_original h₁ with ⟨text, htext, rfl, -⟩ | ⟨type, fresh, ans, st, htype, rfl, -⟩
      · refine ⟨iff_of_false (fun h => h rfl) ?_, List.forall_mem_nil _⟩
        rintro ⟨dl', rest, type, ⟨⟩, htype⟩
        cases htext.symm.trans htype
      · refine ⟨iff_of_true (List.cons_ne_nil _ _) ⟨dl, _, type, rfl, htype⟩, ?_⟩
        exact List.forall_mem_singleton.mpr rfl
    · rcases run_publish_original h₁ with ⟨-, -, -, -, hne⟩ | ⟨type, fresh, ans, st, htype, rfl, -⟩
      · exact absurd rfl hne
      · refine ⟨iff_of_true (List.cons_ne_nil _ _) ⟨dl, _, type, rfl, htype⟩, ?_⟩
        exact List.forall_mem_cons.mpr ⟨rfl, (ih h₂).2⟩

/-! ## The steps of a replay -/

/-- The end of a replay that read `letters`. -/
def finish (message_id trace_id : Option String) (letters : List DeadLetter) : DlqCo (Option Nat) := do
  Co.update (replay_end message_id trace_id letters)
  pure (some (to_replay message_id trace_id letters).length)

/-- A replay that read `letters`, and that will publish `rest`. -/
def replay_rest (self : DLQConsumerAgent) (message_id trace_id : Option String)
    (letters rest : List DeadLetter) : DlqCo (Option Nat) := do
  self.publish_originals rest
  finish message_id trace_id letters

/-- A replay that awaits the publication `q` of the letter `dl`. -/
def waiting (self : DLQConsumerAgent) (message_id trace_id : Option String)
    (letters : List DeadLetter) (q : DlqPublish) (dl : DeadLetter) (rest : List DeadLetter) :
    DlqCo (Option Nat) := do
  Co.call q
  Co.update (·.publish dl)
  self.replay_rest message_id trace_id letters rest

theorem run_replay (self : DLQConsumerAgent) (message_id trace_id : Option String) :
    DlqCall.run self (.replay message_id trace_id) = (do
      let letters ← Co.read (·.dead_letters)
      self.replay_rest message_id trace_id letters (to_replay message_id trace_id letters)) := by
  simp only [DlqCall.run, replay, Co.bind_assoc]
  rfl

/-- The ways in which a step of a replay ends; `pending` are the letters that it has not published. -/
inductive Settled (self : DLQConsumerAgent) (message_id trace_id : Option String)
    (letters : List DeadLetter) (s : DlqState) :
    List DeadLetter → DlqState → DlqCo (Option Nat) → Prop
  | waits (made : Nat) {q : DlqPublish} {dl : DeadLetter} {rest : List DeadLetter} :
      Settled self message_id trace_id letters s (dl :: publishable rest) { s with made := made }
        (self.waiting message_id trace_id letters q dl rest)
  | raises (made : Nat) {pending : List DeadLetter} {e : Exc} :
      Settled self message_id trace_id letters s pending { s with made := made } (.raise e)
  | returns {count : Nat} :
      Settled self message_id trace_id letters s [] (replay_end message_id trace_id letters s)
        (.ret (some count))

/-- **A step of a replay** that has `rest` still to publish. -/
theorem settle_replay (letters rest : List DeadLetter) :
    let step := (self.replay_rest message_id trace_id letters rest).settle s
    self.Settled message_id trace_id letters s (publishable rest) step.1 step.2 := by
  intro step
  induction rest with
  | nil => exact .returns
  | cons dl rest ih =>
    cases hempty : dl.original_message.isEmpty with
    | true =>
      have hskip : self.publish_originals (dl :: rest) = self.publish_originals rest := by
        rw [publish_originals, if_pos hempty]
      have hstep : step = (self.replay_rest message_id trace_id letters rest).settle s := by
        unfold replay_rest
        rw [← hskip]
        rfl
      rw [hstep, publishable_cons_of_empty rest hempty]
      exact ih
    | false =>
      have hpublish : self.publish_originals (dl :: rest) = (do
          self.publish_original dl
          self.publish_originals rest) := by
        rw [publish_originals, if_neg (by simp [hempty])]
      have hstep : step = (self.publish_original dl >>= fun _ =>
          self.replay_rest message_id trace_id letters rest).settle s := by
        unfold replay_rest
        rw [← Co.bind_assoc, ← hpublish]
        rfl
      rw [hstep, publishable_cons rest hempty]
      unfold publish_original
      simp only [Co.bind_assoc]
      cases hty : self.original_type dl.original_message with
      | error text => exact .raises s.made
      | ok type => exact .waits (s.made + 1)

/-- The first step of a replay. -/
theorem settle_deliver (self : DLQConsumerAgent) (message_id trace_id : Option String) (s : DlqState) :
    let step := (DlqCall.run self (.replay message_id trace_id)).settle s
    self.Settled message_id trace_id s.dead_letters s (to_publish message_id trace_id s.dead_letters)
      step.1 step.2 := by
  rw [run_replay]
  exact settle_replay _ _

/-- A replay that waits goes on when its letter was published. -/
theorem settle_published {letters rest : List DeadLetter} {q q' : DlqPublish} {dl : DeadLetter}
    {k : Except Exc Unit → DlqCo (Option Nat)}
    (h : .await q k = self.waiting message_id trace_id letters q' dl rest) :
    let step := (k (.ok ())).settle s
    self.Settled message_id trace_id letters (s.publish dl) (publishable rest) step.1 step.2 := by
  cases h
  exact settle_replay letters rest

/-- It raises what its await raises. -/
theorem settle_failed {letters rest : List DeadLetter} {q q' : DlqPublish} {dl : DeadLetter}
    {k : Except Exc Unit → DlqCo (Option Nat)}
    (h : .await q k = self.waiting message_id trace_id letters q' dl rest) (e : Exc) :
    (k (.error e)).settle s = (s, .raise e) := by
  cases h
  rfl

end DLQConsumerAgent

end Aqap
