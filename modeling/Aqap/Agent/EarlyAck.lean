import Aqap.Agent.Frame

/-!
# When a message is acknowledged

`_process_one` acknowledges a message in its `finally`, also when the `try` statement ended with an
exception that `should_ack` knows nothing about.

* `noEarlyAck_iff`: no acknowledgement of a message comes before its replies or its dead letter
  exactly if no await of the run was interrupted (`Interrupts`) while the agent held the id of the
  message.
* `acked_before_dead_letter`: the dead letter cannot be published, and the message is acknowledged.
-/

namespace Aqap

open Py Aqap.Core Async

variable {R : AgentState → AgentState → Prop} {s s' : AgentState} {tr : List AgentEvent}

namespace Agent

variable {self : Agent} {m : Message} {topic : String}

/-! ## What comes before an acknowledgement -/

/-- The event acknowledges `m`. -/
def Acks (m : Message) (ev : AgentEvent) : Prop :=
  ∃ topic tid group, ev.req = .ack topic tid group ∧ m.transport_msg_id = some tid

/-- `handle_message` returned and all its replies were published. -/
def HandledBefore (self : Agent) (m : Message) (pre : List AgentEvent) : Prop :=
  ∃ done rest, pre = done ++ rest ∧ self.Handled m done

/-- A dead letter record that contains the message was published. -/
def DeadLetteredBefore (m : Message) (pre : List AgentEvent) : Prop :=
  ∃ msg n st, (⟨.publish DLQ_TOPIC msg, .ok (), st⟩ : AgentEvent) ∈ pre ∧ CarriesDeadLetter m n msg

/-- The message is acknowledged only after its replies or its dead letter were published. -/
def NoEarlyAck (self : Agent) (m : Message) (tr : List AgentEvent) : Prop :=
  ∀ pre ev post, tr = pre ++ ev :: post → Acks m ev →
    self.HandledBefore m pre ∨ DeadLetteredBefore m pre

/-- The await ends the `try` statement with an exception: the handler or a reply is cancelled, or the
dead letter cannot be published. -/
inductive Interrupts : AgentEvent → Prop
  | handler {m : Message} {st : AgentState} : Interrupts ⟨.handle_message m, .error .cancelled, st⟩
  | reply {topic : String} {msg : Message} {st : AgentState} :
      Interrupts ⟨.publish topic msg, .error .cancelled, st⟩
  | dead_letter {msg : Message} {e : Exc} {st : AgentState} :
      Interrupts ⟨.publish DLQ_TOPIC msg, .error e, st⟩

/-- The agent holds the transport id of the message. -/
def Holds (m : Message) (s : AgentState) : Prop :=
  ∃ tid, s.ack_id = some tid ∧ m.transport_msg_id = some tid

theorem Sent.not_interrupts {reply : Message} {ev : AgentEvent} (h : self.Sent m reply ev) :
    ¬ Interrupts ev := by
  obtain ⟨topic, payload, n, st, -, -, rfl⟩ := h
  rintro ⟨⟩

theorem Sent.not_failed {reply : Message} {ev : AgentEvent} (h : self.Sent m reply ev) (e : Exc) :
    ev.ans ≠ .error e := by
  obtain ⟨topic, payload, n, st, -, -, rfl⟩ := h
  rintro ⟨⟩

theorem sent_of_mem {replies : List Message} {sent : List AgentEvent}
    (h : List.Forall₂ (self.Sent m) replies sent) : ∀ ev ∈ sent, ∃ reply, self.Sent m reply ev := by
  induction h with
  | nil => exact fun _ h => absurd h List.not_mem_nil
  | cons hs _ ih =>
    intro ev hev
    rcases List.mem_cons.mp hev with rfl | hev
    · exact ⟨_, hs⟩
    · exact ih ev hev

/-- If more replies were sent than `done`, the next one is among the events after theirs. -/
theorem sent_next {done rest : List Message} {failed : Message} {sent tail q x : List AgentEvent}
    (hs : List.Forall₂ (self.Sent m) done sent)
    (hq : List.Forall₂ (self.Sent m) (done ++ failed :: rest) q) (heq : q ++ x = sent ++ tail) :
    ∃ ev ∈ tail, self.Sent m failed ev := by
  induction hs generalizing q with
  | nil =>
    cases hq with
    | cons hf _ =>
      rw [List.nil_append] at heq
      exact ⟨_, by rw [← heq]; exact List.mem_cons_self, hf⟩
  | cons _ _ ih =>
    cases hq with
    | cons _ hq => exact ih hq (List.cons.inj heq).2

theorem Handled.not_interrupts (h : self.Handled m tr) : ∀ ev ∈ tr, ¬ Interrupts ev := by
  obtain ⟨replies, st, sent, rfl, hall⟩ := h
  intro ev hev
  rcases List.mem_cons.mp hev with rfl | hev
  · rintro ⟨⟩
  · obtain ⟨reply, hs⟩ := sent_of_mem hall ev hev
    exact hs.not_interrupts

/-- An attempt that failed is interrupted by its last await exactly if it was cancelled. -/
theorem AttemptFailed.interrupts {e : Exc} (h : self.AttemptFailed m e s' tr)
    (hatt : ∀ ev ∈ tr, OfAttempt m ev.req) :
    (∀ ev ∈ tr, Interrupts ev → e = .cancelled ∧ ev.resumed = s') ∧
      (e = .cancelled → ∃ ev ∈ tr, Interrupts ev) := by
  rcases h with rfl | ⟨replies, st, done, failed, rest, sent, last, rfl, -, hall, hf⟩
  · constructor
    · intro ev hev hint
      rw [List.mem_singleton] at hev
      subst hev
      cases hint
      exact ⟨rfl, rfl⟩
    · rintro rfl
      exact ⟨_, List.mem_singleton_self _, .handler⟩
  constructor
  · intro ev hev hint
    rcases List.mem_cons.mp hev with rfl | hmem
    · cases hint
    rcases List.mem_append.mp hmem with hmem | hmem
    · obtain ⟨reply, hs⟩ := sent_of_mem hall ev hmem
      exact absurd hint hs.not_interrupts
    rcases hf with ⟨rfl, -⟩ | ⟨topic, payload, ht, rfl⟩
    · cases hmem
    · rw [List.mem_singleton] at hmem
      subst hmem
      cases hint with
      | reply => exact ⟨rfl, rfl⟩
      | dead_letter => exact absurd rfl (reply_topic_ne_dlq ht)
  · rintro rfl
    rcases hf with ⟨-, ⟨text, h⟩, -⟩ | ⟨topic, payload, ht, rfl⟩
    · cases h
    · exact ⟨_, List.mem_cons_of_mem _ (List.mem_append_right _ (List.mem_singleton_self _)), .reply⟩

/-- After a failed attempt, and awaits that raise, the replies were not all published. -/
theorem AttemptFailed.not_handledBefore {e : Exc} (h : self.AttemptFailed m e s' tr)
    {rest : List AgentEvent} (hrest : ∀ ev ∈ rest, ∃ e, ev.ans = .error e) :
    ¬ self.HandledBefore m (tr ++ rest) := by
  rintro ⟨_, x, heq, replies', st', sent', rfl, hall'⟩
  rcases h with rfl | ⟨replies, st, done, failed, later, sent, last, rfl, hr, hall, hf⟩
  · cases (List.cons.inj heq).1
  · obtain ⟨hev, htail⟩ := List.cons.inj heq
    cases hev
    rw [hr] at hall'
    have htail : sent' ++ x = sent ++ (last ++ rest) := by rw [← List.append_assoc]; exact htail.symm
    obtain ⟨ev, hmem, hs⟩ := sent_next hall hall' htail
    obtain ⟨e', he'⟩ : ∃ e, ev.ans = .error e := by
      rcases List.mem_append.mp hmem with hmem | hmem
      · rcases hf with ⟨rfl, -⟩ | ⟨topic, payload, -, rfl⟩
        · cases hmem
        · rw [List.mem_singleton] at hmem
          subst hmem
          exact ⟨e, rfl⟩
      · exact hrest ev hmem
    exact hs.not_failed e' he'

theorem not_deadLetteredBefore (hatt : ∀ ev ∈ tr, OfAttempt m ev.req) {rest : List AgentEvent}
    (hrest : ∀ ev ∈ rest, ∃ e, ev.ans = .error e) : ¬ DeadLetteredBefore m (tr ++ rest) := by
  rintro ⟨msg, n, st, hmem, -⟩
  rcases List.mem_append.mp hmem with hmem | hmem
  · exact hatt _ hmem rfl
  · obtain ⟨e, he⟩ := hrest _ hmem
    cases he

/-! ## The theorem -/

/-- Events that acknowledge nothing come before the first acknowledgement. -/
theorem noEarlyAck_append {t₁ t₂ : List AgentEvent} (h : ∀ ev ∈ t₁, ¬ Acks m ev) :
    self.NoEarlyAck m (t₁ ++ t₂) ↔ ∀ pre ev post, t₂ = pre ++ ev :: post → Acks m ev →
      self.HandledBefore m (t₁ ++ pre) ∨ DeadLetteredBefore m (t₁ ++ pre) := by
  constructor
  · rintro hno pre ev post rfl hack
    exact hno (t₁ ++ pre) ev post (List.append_assoc ..).symm hack
  · intro hno pre ev post heq hack
    rcases List.append_eq_append_iff.mp heq with ⟨as, rfl, h₂⟩ | ⟨bs, rfl, h₂⟩
    · exact hno as ev post h₂ hack
    · cases bs with
      | nil => exact by simpa using hno [] ev post (by simpa using h₂.symm) hack
      | cons b bs =>
        obtain ⟨rfl, -⟩ := List.cons.inj h₂
        exact absurd hack (h ev (List.mem_append_right _ List.mem_cons_self))

theorem not_acks_of_attempt (hatt : ∀ ev ∈ tr, OfAttempt m ev.req) : ∀ ev ∈ tr, ¬ Acks m ev := by
  rintro ev hev ⟨topic, tid, group, hreq, -⟩
  have := hatt ev hev
  rw [hreq] at this
  exact this

/-- What was done before the events of `t₂` was done before each of them. -/
theorem done_append {t₁ : List AgentEvent} (t₂ : List AgentEvent)
    (h : self.HandledBefore m t₁ ∨ DeadLetteredBefore m t₁) :
    self.HandledBefore m (t₁ ++ t₂) ∨ DeadLetteredBefore m (t₁ ++ t₂) := by
  rcases h with ⟨done, rest, rfl, h⟩ | ⟨msg, n, st, hmem, hc⟩
  · exact .inl ⟨done, rest ++ t₂, by rw [List.append_assoc], h⟩
  · exact .inr ⟨msg, n, st, List.mem_append_left _ hmem, hc⟩

/-- The acknowledgement of the `finally`, after events that acknowledge nothing: it comes too early
exactly if the agent holds the id and nothing was published for the message. -/
theorem noEarlyAck_ack_last {t₁ t₂ : List AgentEvent} {r : Except Exc Unit}
    (h₁ : ∀ ev ∈ t₁, ¬ Acks m ev) (h₂ : Co.Run R (ack_last topic) s t₂ s' r) :
    self.NoEarlyAck m (t₁ ++ t₂) ↔
      (Holds m s → self.HandledBefore m t₁ ∨ DeadLetteredBefore m t₁) := by
  rw [noEarlyAck_append h₁]
  rcases run_ack_last h₂ with ⟨id, hid, rfl, -⟩ | ⟨hid, rfl, -, -⟩
  · constructor
    · rintro h ⟨tid, htid, hm⟩
      rw [hid, Option.some.injEq] at htid
      subst htid
      have := h [] _ [] rfl ⟨topic, id, s.last_group, rfl, hm⟩
      rwa [List.append_nil] at this
    · intro h pre ev post heq hack
      cases pre with
      | nil =>
        obtain ⟨rfl, -⟩ := List.cons.inj heq
        obtain ⟨topic', tid, group, hreq, hm⟩ := hack
        cases hreq
        rw [List.append_nil]
        exact h ⟨id, hid, hm⟩
      | cons e pre => cases pre <;> cases (List.cons.inj heq).2
  · refine ⟨?_, fun _ pre ev post heq => ?_⟩
    · rintro - ⟨tid, htid, -⟩
      rw [hid] at htid
      cases htid
    · cases pre <;> cases heq

theorem not_interrupts_ack_last {r : Except Exc Unit} (h : Co.Run R (ack_last topic) s tr s' r) :
    ∀ ev ∈ tr, ¬ Interrupts ev := by
  intro ev hev
  rcases run_ack_last h with ⟨id, -, rfl, -⟩ | ⟨-, rfl, -, -⟩
  · rw [List.mem_singleton] at hev
    subst hev
    rintro ⟨⟩
  · cases hev

/-- A run that published what it had to before its first acknowledgement. -/
theorem noEarlyAck_iff_of_done {t₁ t₂ : List AgentEvent} (h₁ : ∀ ev ∈ t₁, ¬ Acks m ev)
    (hdone : self.HandledBefore m t₁ ∨ DeadLetteredBefore m t₁)
    (hint : ∀ ev ∈ t₁ ++ t₂, ¬ Interrupts ev) :
    self.NoEarlyAck m (t₁ ++ t₂) ↔ ∀ ev ∈ t₁ ++ t₂, Interrupts ev → ¬ Holds m ev.resumed := by
  refine ⟨fun _ ev hev h => absurd h (hint ev hev), fun _ => ?_⟩
  rw [noEarlyAck_append h₁]
  intro pre ev post _ _
  exact done_append pre hdone

/-- A run that was interrupted before it published anything for the message, in the state `s`. -/
theorem noEarlyAck_iff_of_interrupted {t₁ t₂ : List AgentEvent} {r : Except Exc Unit}
    (h₁ : ∀ ev ∈ t₁, ¬ Acks m ev) (hnot : ¬ (self.HandledBefore m t₁ ∨ DeadLetteredBefore m t₁))
    (honly : ∀ ev ∈ t₁, Interrupts ev → ev.resumed = s) (hsome : ∃ ev ∈ t₁, Interrupts ev)
    (h₂ : Co.Run R (ack_last topic) s t₂ s' r) :
    self.NoEarlyAck m (t₁ ++ t₂) ↔ ∀ ev ∈ t₁ ++ t₂, Interrupts ev → ¬ Holds m ev.resumed := by
  rw [noEarlyAck_ack_last h₁ h₂]
  constructor
  · intro hno ev hev hint hholds
    rcases List.mem_append.mp hev with hev | hev
    · rw [honly ev hev hint] at hholds
      exact hnot (hno hholds)
    · exact not_interrupts_ack_last h₂ ev hev hint
  · intro hall hholds
    obtain ⟨ev, hev, hint⟩ := hsome
    rw [← honly ev hev hint] at hholds
    exact absurd hholds (hall ev (List.mem_append_left _ hev) hint)

/-- **When a message is acknowledged too early.** In a run of `_process_one`, every acknowledgement
of the message comes after its replies or its dead letter were published if and only if no await
interrupted the run while the agent held the transport id of the message. -/
theorem noEarlyAck_iff {r : Except Exc Bool}
    (h : Co.Run R (self.process_one m topic) s tr s' r) :
    self.NoEarlyAck m tr ↔ ∀ ev ∈ tr, Interrupts ev → ¬ Holds m ev.resumed := by
  cases run_process_one h with
  | @handled t₁ t₂ s₁ _ r ha hf =>
    rcases run_attempt ha with ⟨-, hdone⟩ | ⟨e, ⟨⟩, -⟩
    refine noEarlyAck_iff_of_done (not_acks_of_attempt (ofAttempt_of_run ha))
      (.inl ⟨t₁, [], (List.append_nil _).symm, hdone⟩) fun ev hev => ?_
    rcases List.mem_append.mp hev with hev | hev
    · exact hdone.not_interrupts ev hev
    · exact not_interrupts_ack_last hf ev hev
  | @cancelled t₁ t₂ s₁ _ r ha hf =>
    have hatt := ofAttempt_of_run ha
    rcases run_attempt ha with ⟨⟨⟩, -⟩ | ⟨e, ⟨⟩, hfail⟩
    obtain ⟨honly, hlast⟩ := hfail.interrupts hatt
    refine noEarlyAck_iff_of_interrupted (not_acks_of_attempt hatt) ?_
      (fun ev hev hint => (honly ev hev hint).2) (hlast rfl) hf
    have hnil : ∀ ev ∈ ([] : List AgentEvent), ∃ e, ev.ans = .error e := fun _ h => nomatch h
    rintro (hb | hb)
    · exact hfail.not_handledBefore hnil (by rwa [List.append_nil])
    · exact not_deadLetteredBefore hatt hnil (by rwa [List.append_nil])
  | @retried t₁ s₁ text ha _ =>
    have hatt := ofAttempt_of_run ha
    rcases run_attempt ha with ⟨⟨⟩, -⟩ | ⟨e, ⟨⟩, hfail⟩
    obtain ⟨honly, -⟩ := hfail.interrupts hatt
    constructor
    · intro _ ev hev hint
      cases (honly ev hev hint).1
    · rintro - pre ev post rfl hacks
      exact absurd hacks (not_acks_of_attempt hatt ev (by simp))
  | @exhausted t₁ t₂ t₃ s₁ s₂ _ text r₂ r ha hle hd hf =>
    have hatt := ofAttempt_of_run ha
    rcases run_attempt ha with ⟨⟨⟩, -⟩ | ⟨e, ⟨⟩, hfail⟩
    have hint₁ : ∀ ev ∈ t₁, ¬ Interrupts ev := fun ev hev hint => by
      cases ((hfail.interrupts hatt).1 ev hev hint).1
    obtain ⟨msg, ans, st, rest, rfl, hcarries, -, hrest⟩ := run_dead_letter hd
    -- The publication of the dead letter, after an attempt that acknowledged nothing.
    have hacks₁ : ∀ ev ∈ t₁ ++ [(⟨.publish DLQ_TOPIC msg, ans, st⟩ : AgentEvent)], ¬ Acks m ev := by
      rintro ev hev hacks
      rcases List.mem_append.mp hev with hev | hev
      · exact not_acks_of_attempt hatt ev hev hacks
      · rw [List.mem_singleton] at hev
        subst hev
        obtain ⟨_, _, _, ⟨⟩, _⟩ := hacks
    rcases hrest with ⟨e, rfl, rfl, rfl, rfl⟩ | ⟨rfl, hl⟩
    · have hfailed : ∀ ev ∈ [(⟨.publish DLQ_TOPIC msg, .error e, s₂⟩ : AgentEvent)],
          ∃ e, ev.ans = .error e := by
        intro ev hev
        rw [List.mem_singleton] at hev
        subst hev
        exact ⟨e, rfl⟩
      rw [← List.append_assoc]
      refine noEarlyAck_iff_of_interrupted hacks₁ ?_ ?_
        ⟨_, List.mem_append_right _ (List.mem_singleton_self _), .dead_letter⟩ hf
      · rintro (hb | hb)
        · exact hfail.not_handledBefore hfailed hb
        · exact not_deadLetteredBefore hatt hfailed hb
      · intro ev hev hint
        rcases List.mem_append.mp hev with hev | hev
        · exact absurd hint (hint₁ ev hev)
        · rw [List.mem_singleton] at hev
          rw [hev]
    · have hdone : DeadLetteredBefore m (t₁ ++ [⟨.publish DLQ_TOPIC msg, .ok (), st⟩]) :=
        ⟨msg, _, st, List.mem_append_right _ (List.mem_singleton_self _), hcarries⟩
      have heq : t₁ ++ (⟨.publish DLQ_TOPIC msg, .ok (), st⟩ :: rest ++ t₃) =
          t₁ ++ [⟨.publish DLQ_TOPIC msg, .ok (), st⟩] ++ (rest ++ t₃) := by simp
      rw [heq]
      refine noEarlyAck_iff_of_done hacks₁ (.inr hdone) fun ev hev => ?_
      simp only [List.mem_append, List.mem_singleton] at hev
      rcases hev with (hev | rfl) | hev | hev
      · exact hint₁ ev hev
      · rintro ⟨⟩
      · exact not_interrupts_ack_last hl ev hev
      · exact not_interrupts_ack_last hf ev hev

/-- What a handler returns for the task. -/
def sample_result : Message := { sample_task with source := .str "probe-1", target := .str "client" }

/-- A run in which the reply of the handler is published, and then the message acknowledged. -/
theorem noEarlyAck_iff_sample :
    let tr := (((sample_agent 1).process_one sample_task "t").exec (sample_answer (.ok (some [sample_result])))
      sample_state).1
    tr.map Event.req = [.handle_message sample_task, .publish "aqap:inbox:client" sample_result,
        .ack "t" (.id "1-0") "aqap-default"] ∧
      ((sample_agent 1).NoEarlyAck sample_task tr ↔
        ∀ ev ∈ tr, Interrupts ev → ¬ Holds sample_task ev.resumed) :=
  ⟨rfl, noEarlyAck_iff (Co.run_exec (R := Eq) (fun _ => rfl) _ _ _)⟩

/-- The handler raises, and so does every publication. -/
def unreachable_answer : (q : Request) → Except Exc q.Answer
  | .publish _ _ => .error (.error "Connection lost")
  | .ack _ _ _ => .ok ()
  | .handle_message _ => .error (.error "boom")
  | .acquire => .ok ()

/-- The handler raises, and the dead letter cannot be published: the message is acknowledged, and it is
lost. -/
theorem acked_before_dead_letter :
    ¬ ∀ (R : AgentState → AgentState → Prop) (self : Agent) (m : Message) (topic : String)
      (s s' : AgentState) (tr : List AgentEvent) (r : Except Exc Bool),
      Co.Run R (self.process_one m topic) s tr s' r → self.NoEarlyAck m tr := by
  intro h
  have hrun := Co.run_exec (R := Eq) (fun _ => rfl) unreachable_answer
    ((sample_agent 1).process_one sample_task "t") sample_state
  rcases h _ _ _ _ _ _ _ _ hrun [_, _] _ [] rfl ⟨_, _, _, rfl, rfl⟩ with hb | hb
  · refine AttemptFailed.not_handledBefore (.inl rfl) ?_ hb
    intro ev hev
    rw [List.mem_singleton] at hev
    subst hev
    exact ⟨_, rfl⟩
  · have hnil : ∀ ev ∈ ([] : List AgentEvent), OfAttempt sample_task ev.req := fun _ h => nomatch h
    refine not_deadLetteredBefore hnil ?_ hb
    intro ev hev
    rcases List.mem_cons.mp hev with rfl | hev
    · exact ⟨_, rfl⟩
    · rw [List.mem_singleton] at hev
      subst hev
      exact ⟨_, rfl⟩

end Agent

end Aqap
