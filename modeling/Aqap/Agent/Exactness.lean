import Aqap.Agent.Conservation
import Mathlib.Data.List.Perm.Basic

/-!
# Replays that fail

A replay publishes one letter after another, and removes and counts all that it asked for at its end. A
letter that has no original message is skipped, but removed and counted. When a publication raises, the
letters that were published before stay in the index.

* `run_publish_originals_reached`: which letters the loop has published when it ends.
* `replay_exact_iff`: when exactly the published letters are removed and counted.
* `half_published`: the second of two letters cannot be published.
-/

namespace Aqap

open Py Aqap.Core Async

namespace DLQConsumerAgent

variable {agent : DLQConsumerAgent} {message_id trace_id : Option String} {s s' : DlqState}
  {tr : List (Event DlqState DlqPublish fun _ => Unit)} {letters : List DeadLetter}

/-- The publications that succeeded. -/
def succeeded (tr : List (Event DlqState DlqPublish fun _ => Unit)) :
    List (Event DlqState DlqPublish fun _ => Unit) :=
  tr.filter fun ev => ev.ans.toBool

/-- The types of the letters are known, and no publication raises. -/
def NothingFails (agent : DLQConsumerAgent) (letters : List DeadLetter)
    (tr : List (Event DlqState DlqPublish fun _ => Unit)) : Prop :=
  (∀ dl ∈ publishable letters, ∃ type, agent.original_type dl.original_message = .ok type) ∧
    ∀ ev ∈ tr, ev.ans = .ok ()

/-- The type of the first letter with an original message is not known, or its publication raises. -/
def FirstFails (agent : DLQConsumerAgent) (letters : List DeadLetter)
    (tr : List (Event DlqState DlqPublish fun _ => Unit)) : Prop :=
  (∃ dl rest text, publishable letters = dl :: rest ∧
      agent.original_type dl.original_message = .error text) ∨
    ∃ ev rest e, tr = ev :: rest ∧ ev.ans = .error e

/-! ## The loop -/

/-- How the loop over `letters` ends: with the letters `done` published, and nothing else done. -/
structure Reached (agent : DLQConsumerAgent) (letters done : List DeadLetter)
    (tr : List (Event DlqState DlqPublish fun _ => Unit)) (s s' : DlqState) (r : Except Exc Unit) :
    Prop where
  published : s'.ledger.published = s.ledger.published ++ done
  events : List.Forall₂ agent.Republished done (succeeded tr)
  dead_letters : s'.dead_letters = s.dead_letters
  replayed : s'.replayed = s.replayed
  returns : r = .ok () → done = publishable letters ∧ agent.NothingFails letters tr
  raises : ∀ e, r = .error e → ¬ agent.NothingFails letters tr ∧ (done = [] ↔ agent.FirstFails letters tr)

theorem reached_skip {dl : DeadLetter} {done : List DeadLetter} {r : Except Exc Unit}
    (hempty : dl.original_message.isEmpty = true) (h : agent.Reached letters done tr s s' r) :
    agent.Reached (dl :: letters) done tr s s' r := by
  have hsame := publishable_cons_of_empty letters hempty
  refine ⟨h.published, h.events, h.dead_letters, h.replayed, ?_, ?_⟩
  · unfold NothingFails
    rw [hsame]
    exact h.returns
  · unfold NothingFails FirstFails
    rw [hsame]
    exact h.raises

/-- The loop stops at a letter of an unknown type. -/
theorem reached_unknown {dl : DeadLetter} {text : String} {e : Exc}
    (hsome : dl.original_message.isEmpty = false)
    (htype : agent.original_type dl.original_message = .error text) :
    agent.Reached (dl :: letters) [] [] s s (.error e) := by
  refine ⟨(List.append_nil _).symm, .nil, rfl, rfl, ?_, ?_⟩
  · intro h
    cases h
  · intro e he
    have hfirst := publishable_cons letters hsome
    constructor
    · rintro ⟨hknown, -⟩
      obtain ⟨type, hok⟩ := hknown dl (by rw [hfirst]; exact List.mem_cons_self)
      cases htype.symm.trans hok
    · exact iff_of_true rfl (.inl ⟨dl, _, text, hfirst, htype⟩)

/-- The loop stops at a publication that raises. -/
theorem reached_raised {dl : DeadLetter} {q : DlqPublish} {st : DlqState} {e : Exc}
    (hledger : s'.ledger = s.ledger) (hletters : s'.dead_letters = s.dead_letters)
    (hreplayed : s'.replayed = s.replayed) :
    agent.Reached (dl :: letters) [] [⟨q, .error e, st⟩] s s' (.error e) := by
  refine ⟨by rw [hledger, List.append_nil], .nil, hletters, hreplayed, ?_, ?_⟩
  · intro h
    cases h
  · intro _ _
    constructor
    · rintro ⟨-, hall⟩
      cases hall _ List.mem_cons_self
    · exact iff_of_true rfl (.inr ⟨_, _, e, rfl, rfl⟩)

/-- A letter was published, and the loop goes on. -/
theorem reached_cons {dl : DeadLetter} {type : MessageType} {fresh : Fresh} {done : List DeadLetter}
    {st s₁ : DlqState} {r : Except Exc Unit} (hsome : dl.original_message.isEmpty = false)
    (htype : agent.original_type dl.original_message = .ok type)
    (h : agent.Reached letters done tr s₁ s' r)
    (hledger : s₁.ledger.published = s.ledger.published ++ [dl])
    (hletters : s₁.dead_letters = s.dead_letters) (hreplayed : s₁.replayed = s.replayed) :
    agent.Reached (dl :: letters) (dl :: done)
      (⟨⟨original_topic dl, replayed_message fresh type dl⟩, .ok (), st⟩ :: tr) s s' r := by
  have hfirst := publishable_cons letters hsome
  have hknown : ∀ {P : DeadLetter → Prop}, P dl →
      ((∀ d ∈ publishable (dl :: letters), P d) ↔ ∀ d ∈ publishable letters, P d) := by
    intro P hP
    rw [hfirst, List.forall_mem_cons]
    exact and_iff_right hP
  have hnothing : agent.NothingFails (dl :: letters)
      (⟨⟨original_topic dl, replayed_message fresh type dl⟩, .ok (), st⟩ :: tr) ↔
        agent.NothingFails letters tr := by
    unfold NothingFails
    rw [hknown ⟨type, htype⟩, List.forall_mem_cons]
    exact and_congr_right fun _ => and_iff_right rfl
  refine ⟨?_, ?_, h.dead_letters.trans hletters, h.replayed.trans hreplayed, ?_, ?_⟩
  · rw [h.published, hledger, List.append_assoc]
    rfl
  · exact .cons ⟨fresh, type, st, htype, rfl⟩ h.events
  · intro hr
    obtain ⟨rfl, hall⟩ := h.returns hr
    exact ⟨hfirst.symm, hnothing.mpr hall⟩
  · intro e he
    refine ⟨fun hall => (h.raises e he).1 (hnothing.mp hall),
      iff_of_false (List.cons_ne_nil _ _) ?_⟩
    rintro (⟨d, rest, text, hd, herror⟩ | ⟨ev, rest, e', hev, herror⟩)
    · rw [hfirst] at hd
      obtain ⟨rfl, -⟩ := List.cons.inj hd
      cases htype.symm.trans herror
    · obtain ⟨rfl, -⟩ := List.cons.inj hev
      cases herror

/-- **How far the loop gets.** -/
theorem run_publish_originals_reached {r : Except Exc Unit}
    (h : Co.Run Tick (agent.publish_originals letters) s tr s' r) :
    ∃ done, agent.Reached letters done tr s s' r := by
  induction letters generalizing s tr with
  | nil =>
    obtain ⟨rfl, rfl, rfl⟩ := h
    refine ⟨[], (List.append_nil _).symm, .nil, rfl, rfl, fun _ => ?_, fun e he => by cases he⟩
    exact ⟨rfl, List.forall_mem_nil _, List.forall_mem_nil _⟩
  | cons dl letters ih =>
    rw [publish_originals] at h
    split at h
    · rename_i hempty
      obtain ⟨done, hdone⟩ := ih h
      exact ⟨done, reached_skip hempty hdone⟩
    rename_i hsome
    have hsome : dl.original_message.isEmpty = false := by simpa using hsome
    -- The letter raises, or its publication is answered.
    rcases Co.run_bind.mp h with ⟨e, h₁, rfl⟩ | ⟨u, t₁, s₁, t₂, h₁, rfl, h₂⟩
    · rcases run_publish_original h₁ with
        ⟨text, htext, rfl, rfl, -⟩ | ⟨type, fresh, ans, st, -, rfl, ⟨now, made, rfl⟩, hrest⟩
      · exact ⟨[], reached_unknown hsome htext⟩
      rcases hrest with ⟨e', rfl, rfl, he⟩ | ⟨-, -, ⟨⟩⟩
      obtain rfl : e = e' := Except.error.inj he
      exact ⟨[], reached_raised rfl rfl rfl⟩
    · rcases run_publish_original h₁ with
        ⟨-, -, -, -, hne⟩ | ⟨type, fresh, ans, st, htype, rfl, ⟨now, made, rfl⟩, hrest⟩
      · exact absurd rfl hne
      rcases hrest with ⟨e, -, -, ⟨⟩⟩ | ⟨rfl, rfl, -⟩
      obtain ⟨done, hdone⟩ := ih h₂
      exact ⟨dl :: done, reached_cons hsome htype hdone rfl rfl rfl⟩

/-! ## The call -/

/-- The letters that the call published are those that are gone from the index, each once, and the
statistic and the returned count grow by their number. -/
def Exact (agent : DLQConsumerAgent) (tr : List (Event DlqState DlqPublish fun _ => Unit))
    (s s' : DlqState) (r : Except Exc Nat) : Prop :=
  ∃ published, s'.ledger.published = s.ledger.published ++ published ∧
    List.Forall₂ agent.Republished published (succeeded tr) ∧
    s.dead_letters.Perm (s'.dead_letters ++ published) ∧
    s'.replayed = s.replayed + published.length ∧ ∀ count, r = .ok count → count = published.length

/-- The index is what a replay asks for and the rest. -/
theorem perm_remaining (message_id trace_id : Option String) (letters : List DeadLetter) :
    letters.Perm (remaining message_id trace_id letters ++ to_replay message_id trace_id letters) := by
  unfold remaining to_replay
  refine (List.filter_append_perm (fun dl => !matched message_id trace_id dl) letters).symm.trans ?_
  simp

/-- **When a replay is exact**: every letter that it asks for has an original message of a known type and
every publication succeeds, or the first publication fails. -/
theorem replay_exact_iff {r : Except Exc Nat}
    (h : Co.Run Tick (agent.replay message_id trace_id) s tr s' r) :
    agent.Exact tr s s' r ↔
      (∀ dl ∈ to_replay message_id trace_id s.dead_letters, dl.original_message.isEmpty = false) ∧
          agent.NothingFails (to_replay message_id trace_id s.dead_letters) tr ∨
        agent.FirstFails (to_replay message_id trace_id s.dead_letters) tr := by
  unfold replay at h
  rw [Co.run_read_bind] at h
  rcases Co.run_bind.mp h with ⟨e, h₁, rfl⟩ | ⟨u, t₁, s₁, t₂, h₁, rfl, h₂⟩
  · -- The loop raised: nothing was removed or counted.
    obtain ⟨done, hdone⟩ := run_publish_originals_reached h₁
    obtain ⟨hfails, hfirst⟩ := hdone.raises e rfl
    rw [← hfirst]
    constructor
    · rintro ⟨published, hpublished, -, hperm, -⟩
      right
      obtain rfl : done = published := List.append_cancel_left (hdone.published.symm.trans hpublished)
      rw [hdone.dead_letters] at hperm
      have hlen := hperm.length_eq
      rw [List.length_append] at hlen
      exact List.eq_nil_of_length_eq_zero (by omega)
    · rintro (⟨-, hnothing⟩ | rfl)
      · exact absurd hnothing hfails
      · refine ⟨[], hdone.published, hdone.events, ?_, hdone.replayed, fun count hcount => by cases hcount⟩
        rw [hdone.dead_letters, List.append_nil]
  · -- The loop went through: all that was asked for is removed and counted.
    rw [Co.run_update_bind] at h₂
    obtain ⟨rfl, rfl, rfl⟩ := h₂
    rw [List.append_nil]
    obtain ⟨done, hdone⟩ := run_publish_originals_reached h₁
    obtain ⟨rfl, hnothing⟩ := hdone.returns rfl
    have hnot : ¬ agent.FirstFails (to_replay message_id trace_id s.dead_letters) t₁ := by
      rintro (⟨dl, rest, text, hdl, herror⟩ | ⟨ev, rest, e, rfl, herror⟩)
      · obtain ⟨type, hok⟩ := hnothing.1 dl (by rw [hdl]; exact List.mem_cons_self)
        cases herror.symm.trans hok
      · cases herror.symm.trans (hnothing.2 ev List.mem_cons_self)
    rw [or_iff_left hnot, and_iff_left hnothing]
    constructor
    · rintro ⟨published, hpublished, -, hperm, -⟩
      have hsame : published = publishable (to_replay message_id trace_id s.dead_letters) :=
        (List.append_cancel_left (hdone.published.symm.trans hpublished)).symm
      have hlen := (hperm.symm.trans (perm_remaining message_id trace_id s.dead_letters)).length_eq
      rw [List.length_append, List.length_append] at hlen
      have hall : (publishable (to_replay message_id trace_id s.dead_letters)).length =
          (to_replay message_id trace_id s.dead_letters).length := by
        rw [← hsame]
        exact Nat.add_left_cancel hlen
      intro dl hdl
      simpa using (List.length_filter_eq_length_iff.mp hall) dl hdl
    · intro hall
      have hsame : publishable (to_replay message_id trace_id s.dead_letters) =
          to_replay message_id trace_id s.dead_letters :=
        List.filter_eq_self.mpr fun dl hdl => by simp [hall dl hdl]
      refine ⟨_, hdone.published, hdone.events, ?_, ?_, fun count hcount => ?_⟩
      · rw [hsame]
        exact perm_remaining message_id trace_id s.dead_letters
      · rw [hsame]
        exact congrArg (· + _) hdone.replayed
      · rw [hsame]
        exact (Except.ok.inj hcount).symm

/-- A letter of the trace `t`. -/
def traced_letter (message_id type : String) : DeadLetter where
  message_id := .str message_id
  trace_id := .str "t"
  original_message := [("type", .str type)]
  error := .str "timeout"
  retry_count := .int 3
  failed_by := .str "probe-1"
  failed_at := .str "2026-01-01T00:00:00+00:00"
  received_at := 0

/-- A consumer with the letters in its index. -/
def holding (letters : List DeadLetter) : DlqState := { DlqState.started 0 with dead_letters := letters }

theorem tick_refl (s : DlqState) : Tick s s := ⟨s.clock, s.made, rfl⟩

/-- Two letters are published. -/
theorem replay_exact_iff_two :
    let letters := [traced_letter "1" "TASK_DISPATCH", traced_letter "2" "TASK_RESULT"]
    let e := (sample_consumer.replay none (some "t")).exec (fun _ => .ok ()) (holding letters)
    sample_consumer.Exact e.1 (holding letters) e.2.1 e.2.2 ↔
      (∀ dl ∈ to_replay none (some "t") letters, dl.original_message.isEmpty = false) ∧
          sample_consumer.NothingFails (to_replay none (some "t") letters) e.1 ∨
        sample_consumer.FirstFails (to_replay none (some "t") letters) e.1 :=
  replay_exact_iff (Co.run_exec tick_refl _ _ _)

/-- The second letter has a type that is not known: the first one is published and stays in the index. -/
theorem half_published :
    ¬ ∀ (agent : DLQConsumerAgent) (message_id trace_id : Option String) (s s' : DlqState)
      (tr : List (Event DlqState DlqPublish fun _ => Unit)) (r : Except Exc Nat),
      Co.Run Tick (agent.replay message_id trace_id) s tr s' r → agent.Exact tr s s' r := by
  intro h
  obtain ⟨published, hpublished, -, hperm, -⟩ := h sample_consumer none (some "t")
    (holding [traced_letter "1" "TASK_DISPATCH", traced_letter "2" "CUSTOM"]) _ _ _
    (Co.run_exec tick_refl (fun _ => .ok ()) _ _)
  have hone := congrArg List.length hpublished
  have htwo := hperm.length_eq
  rw [List.length_append] at hone htwo
  have hlengths : ∀ n : Nat, 1 = 0 + n → 2 = 2 + n → False := by omega
  exact hlengths _ hone htwo

end DLQConsumerAgent

end Aqap
