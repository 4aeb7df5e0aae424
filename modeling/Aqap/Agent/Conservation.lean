import Aqap.Agent.Replay
import Mathlib.Algebra.Order.Group.Multiset
import Mathlib.Data.Multiset.Filter
import Mathlib.Tactic.Abel

/-!
# Where the dead letters are

Every letter that the consumer received should be in its index, replayed, expired or evicted, and in
one of them only. `replay` breaks this when another task changes the index while it awaits, since it
assigns what it read before, and when it raises after it has published a letter.

* `Accounted`: each letter is in one place, no two calls replay a common letter, and what was published
  counts as replayed, unless the call that published it is still going on.
* `replay_step`: one step of a replay, for its three ends.
* `conserved_iff`: in a run, the letters are accounted for at every moment exactly if every step is
  `Orderly`.
* `letter_lost`: a letter that is received during a replay disappears.
-/

namespace Aqap

open Py Aqap.Core Async

/-- Each letter received is in exactly one place. -/
def Conserved (s : DlqState) : Prop :=
  (s.ledger.received : Multiset DeadLetter) =
    s.dead_letters + s.ledger.replayed + s.ledger.expired + s.ledger.evicted

open Classical in
/-- How often the letter occurs. -/
noncomputable def copies (dl : DeadLetter) (letters : List DeadLetter) : Nat := letters.count dl

namespace DLQConsumerAgent

variable {self : DLQConsumerAgent} {message_id trace_id : Option String} {s : DlqState}

/-- The letters that a task replays. -/
def replaying {α : Type} : Worker DlqCall DlqState DlqPublish (fun _ => Unit) α → List DeadLetter
  | .busy (.replay message_id trace_id) start _ => to_publish message_id trace_id start.dead_letters
  | _ => []

/-- No letter is replayed by two calls at once. -/
def Apart {ι : Type} (S : DlqTasks ι) : Prop :=
  ∀ i j, i ≠ j → (replaying (S.workers i)).Disjoint (replaying (S.workers j))

/-- A letter that was published counts as replayed, unless the call that replays it is still going
on. -/
def Counted {ι : Type} (S : DlqTasks ι) : Prop :=
  ∀ dl, (∀ i, dl ∉ replaying (S.workers i)) →
    copies dl S.shared.ledger.published = copies dl S.shared.ledger.replayed

/-- Every letter is in one place, and the calls that go on replay different letters. -/
structure Accounted {ι : Type} (S : DlqTasks ι) : Prop where
  conserved : Conserved S.shared
  apart : Apart S
  counted : Counted S

/-- The index holds what a replay that read `letters` leaves there and what it published. -/
def Unchanged (message_id trace_id : Option String) (letters dead_letters : List DeadLetter) : Prop :=
  (dead_letters : Multiset DeadLetter) =
    remaining message_id trace_id letters + to_publish message_id trace_id letters

/-- None of the letters that a replay publishes was published since it started. -/
def Unpublished (message_id trace_id : Option String) (start s : DlqState) : Prop :=
  ∀ dl ∈ to_publish message_id trace_id start.dead_letters,
    copies dl s.ledger.published = copies dl start.ledger.published

/-- The call waits in this step. -/
def Waits {α : Type} (c : DlqCo α) (s : DlqState) : Prop := ∃ q k, (c.settle s).2 = .await q k

/-- The call returns in this step. -/
def Returns {α : Type} (c : DlqCo α) (s : DlqState) : Prop := ∃ a, (c.settle s).2 = .ret a

/-- The call raises in this step. -/
def Raises {α : Type} (c : DlqCo α) (s : DlqState) : Prop := ∃ e, (c.settle s).2 = .raise e

/-- A replay that starts to wait has no letter in common with one in flight, a replay that returns
finds the index unchanged, and a replay that raises has published nothing. -/
def Orderly {ι : Type} (self : DLQConsumerAgent) (S : DlqTasks ι) : DlqLabel ι → Prop
  | .deliver _ (.replay message_id trace_id) =>
    let c := DlqCall.run self (.replay message_id trace_id)
    (Waits c S.shared → ∀ j, (to_publish message_id trace_id S.shared.dead_letters).Disjoint
        (replaying (S.workers j))) ∧
      (Returns c S.shared → Unchanged message_id trace_id S.shared.dead_letters S.shared.dead_letters)
  | .resume i answer => ∀ message_id trace_id start q k,
      S.workers i = .busy (.replay message_id trace_id) start (.await q k) →
      (Returns (k (answer q)) S.shared →
        Unchanged message_id trace_id start.dead_letters S.shared.dead_letters) ∧
      (Raises (k (answer q)) S.shared →
        (∃ e, answer q = .error e) ∧ Unpublished message_id trace_id start S.shared)
  | _ => True

/-! ## Counting letters -/

theorem copies_append (dl : DeadLetter) (l₁ l₂ : List DeadLetter) :
    copies dl (l₁ ++ l₂) = copies dl l₁ + copies dl l₂ := by
  classical exact List.count_append

theorem copies_eq_zero_iff {dl : DeadLetter} {letters : List DeadLetter} :
    copies dl letters = 0 ↔ dl ∉ letters := by
  classical exact List.count_eq_zero

@[simp] theorem copies_nil (dl : DeadLetter) : copies dl [] = 0 := by
  classical exact List.count_nil

/-! ## The updates of the index -/

theorem conserved_started (clock : Int) : Conserved (DlqState.started clock) := by
  simp [Conserved, DlqState.started]

theorem append_dead_letters (s : DlqState) (dl : DeadLetter) : (s.append dl).dead_letters =
    (s.dead_letters ++ [dl]).drop ((s.dead_letters ++ [dl]).length - MAX_DEAD_LETTERS) := by
  unfold DlqState.append
  lift_lets
  intro dead_letters excess
  show (if _ then _ else dead_letters) = dead_letters.drop excess
  split
  · rfl
  · have hzero : excess = 0 := by omega
    rw [hzero, List.drop_zero]

theorem conserved_append (h : Conserved s) (dl : DeadLetter) : Conserved (s.append dl) := by
  unfold Conserved at h ⊢
  rw [append_dead_letters]
  simp only [DlqState.append, ← Multiset.coe_add, h]
  generalize (s.dead_letters ++ [dl]).length - MAX_DEAD_LETTERS = excess
  have hsplit : (((s.dead_letters ++ [dl]).take excess : List DeadLetter) : Multiset DeadLetter) +
      ((s.dead_letters ++ [dl]).drop excess : List DeadLetter) =
        s.dead_letters + ([dl] : List DeadLetter) := by
    rw [Multiset.coe_add, List.take_append_drop, ← Multiset.coe_add]
  calc (s.dead_letters + s.ledger.replayed + s.ledger.expired + s.ledger.evicted +
        ([dl] : List DeadLetter) : Multiset DeadLetter)
      = s.dead_letters + ([dl] : List DeadLetter) +
          (s.ledger.replayed + s.ledger.expired + s.ledger.evicted) := by abel
    _ = ((s.dead_letters ++ [dl]).drop excess : List DeadLetter) + s.ledger.replayed +
          s.ledger.expired + (s.ledger.evicted +
            ((s.dead_letters ++ [dl]).take excess : List DeadLetter)) := by
        rw [← hsplit]
        abel

theorem conserved_cleanup (h : Conserved s) : Conserved (self.cleanup s) := by
  unfold cleanup
  lift_lets
  intro cutoff expired_count
  split
  · unfold Conserved at h ⊢
    have hsplit := Multiset.filter_add_not (fun dl : DeadLetter => cutoff ≤ dl.received_at)
      (s.dead_letters : Multiset DeadLetter)
    simp only [not_le, Multiset.filter_coe] at hsplit
    simp only [← Multiset.coe_add]
    rw [h, ← hsplit]
    abel
  · exact h

theorem conserved_replay_end (h : Conserved s) (letters : List DeadLetter) :
    Conserved (replay_end message_id trace_id letters s) ↔
      Unchanged message_id trace_id letters s.dead_letters := by
  unfold Conserved at h ⊢
  unfold Unchanged
  simp only [replay_end, ← Multiset.coe_add, h]
  generalize (remaining message_id trace_id letters : Multiset DeadLetter) = kept
  generalize (to_publish message_id trace_id letters : Multiset DeadLetter) = published
  generalize (s.dead_letters : Multiset DeadLetter) = index
  generalize (s.ledger.replayed : Multiset DeadLetter) = replayed
  have hbefore : ∀ expired evicted : Multiset DeadLetter,
      index + replayed + expired + evicted = index + (replayed + expired + evicted) := by
    intros
    abel
  have hafter : ∀ expired evicted : Multiset DeadLetter, kept + (replayed + published) + expired +
      evicted = kept + published + (replayed + expired + evicted) := by
    intros
    abel
  rw [hbefore, hafter, add_left_inj]

/-! ## The tasks that wait -/

variable {ι : Type} {S S' : DlqTasks ι} {i : ι}

/-- No other task replays the letter. -/
def Free (S : DlqTasks ι) (i : ι) (dl : DeadLetter) : Prop := ∀ j, j ≠ i → dl ∉ replaying (S.workers j)

/-- A replay, started in the state `start`, that awaits the publication of `dl`; it has published
`done`. -/
structure InReplay (agent : DLQConsumerAgent) (s : DlqState) (message_id trace_id : Option String)
    (start : DlqState) (c : DlqCo (Option Nat)) (q : DlqPublish) (dl : DeadLetter)
    (rest done : List DeadLetter) : Prop where
  waits : c = agent.waiting message_id trace_id start.dead_letters q dl rest
  split : to_publish message_id trace_id start.dead_letters = done ++ dl :: publishable rest
  published : ∀ x ∈ to_publish message_id trace_id start.dead_letters,
    copies x s.ledger.published = copies x start.ledger.published + copies x done
  replayed : ∀ x ∈ to_publish message_id trace_id start.dead_letters,
    copies x s.ledger.replayed = copies x start.ledger.published

/-- The tasks that wait are in a replay. -/
def Tracked (self : DLQConsumerAgent) (S : DlqTasks ι) : Prop :=
  ∀ i item start c, S.workers i = .busy item start c → ∃ message_id trace_id q dl rest done,
    item = .replay message_id trace_id ∧
      self.InReplay S.shared message_id trace_id start c q dl rest done

/-- Task `i` goes on with a replay, in the state `s`, when it has published `done` and has `pending`
still to publish. -/
structure Progress (S : DlqTasks ι) (i : ι) (message_id trace_id : Option String)
    (start s : DlqState) (done pending : List DeadLetter) : Prop where
  split : to_publish message_id trace_id start.dead_letters = done ++ pending
  index : s.dead_letters = S.shared.dead_letters
  conserved : Conserved s
  kept : s.ledger.replayed = S.shared.ledger.replayed
  elsewhere : ∀ x ∉ done, copies x s.ledger.published = copies x S.shared.ledger.published
  free : ∀ x ∈ done, Free S i x
  published : ∀ x ∈ to_publish message_id trace_id start.dead_letters, Free S i x →
    copies x s.ledger.published = copies x start.ledger.published + copies x done
  replayed : ∀ x ∈ to_publish message_id trace_id start.dead_letters, Free S i x →
    copies x s.ledger.replayed = copies x start.ledger.published
  others : ∀ x ∉ to_publish message_id trace_id start.dead_letters, Free S i x →
    copies x s.ledger.published = copies x s.ledger.replayed

theorem Apart.free {dl : DeadLetter} (h : Apart S) (hdl : dl ∈ replaying (S.workers i)) : Free S i dl :=
  fun j hj hmem => h i j (Ne.symm hj) hdl hmem

theorem Free.of_idle {dl : DeadLetter} (hidle : S.workers i = .idle) (h : Free S i dl) :
    ∀ j, dl ∉ replaying (S.workers j) := by
  intro j
  by_cases hj : j = i
  · rw [hj, hidle]
    exact List.not_mem_nil
  · exact h j hj

/-- A replay that starts. -/
theorem progress_deliver (h : Accounted S) (hidle : S.workers i = .idle) :
    Progress S i message_id trace_id S.shared S.shared []
      (to_publish message_id trace_id S.shared.dead_letters) where
  split := rfl
  index := rfl
  conserved := h.conserved
  kept := rfl
  elsewhere _ _ := rfl
  free x hx := absurd hx List.not_mem_nil
  published x _ _ := by rw [copies_nil, Nat.add_zero]
  replayed x _ hfree := (h.counted x (hfree.of_idle hidle)).symm
  others x _ hfree := h.counted x (hfree.of_idle hidle)

/-- A replay that waits. -/
theorem InReplay.progress {start : DlqState} {c : DlqCo (Option Nat)} {q : DlqPublish}
    {dl : DeadLetter} {rest done : List DeadLetter} (h : Accounted S)
    (hbusy : S.workers i = .busy (.replay message_id trace_id) start c)
    (hr : self.InReplay S.shared message_id trace_id start c q dl rest done) :
    Progress S i message_id trace_id start S.shared done (dl :: publishable rest) where
  split := hr.split
  index := rfl
  conserved := h.conserved
  kept := rfl
  elsewhere _ _ := rfl
  free x hx := by
    refine h.apart.free ?_
    rw [hbusy]
    show x ∈ to_publish message_id trace_id start.dead_letters
    rw [hr.split]
    exact List.mem_append_left _ hx
  published x hx _ := hr.published x hx
  replayed x hx _ := hr.replayed x hx
  others x hx hfree := by
    refine h.counted x fun j => ?_
    by_cases hj : j = i
    · rw [hj, hbusy]
      exact hx
    · exact hfree j hj

theorem Progress.mem_of_done {start : DlqState} {done pending : List DeadLetter} {x : DeadLetter}
    (h : Progress S i message_id trace_id start s done pending) (hx : x ∈ done) :
    x ∈ to_publish message_id trace_id start.dead_letters := by
  rw [h.split]
  exact List.mem_append_left _ hx

/-- The letter that a replay awaits was published. -/
theorem Progress.publish {start : DlqState} {dl : DeadLetter} {done pending : List DeadLetter}
    (h : Progress S i message_id trace_id start s done (dl :: pending)) (hfree : Free S i dl) :
    Progress S i message_id trace_id start (s.publish dl) (done ++ [dl]) pending where
  split := by rw [h.split, List.append_assoc, List.singleton_append]
  index := h.index
  conserved := h.conserved
  kept := h.kept
  elsewhere x hx := by
    rw [List.mem_append, not_or] at hx
    show copies x (s.ledger.published ++ [dl]) = _
    rw [copies_append, copies_eq_zero_iff.mpr hx.2, h.elsewhere x hx.1, Nat.add_zero]
  free x hx := by
    rcases List.mem_append.mp hx with hx | hx
    · exact h.free x hx
    · rw [List.mem_singleton.mp hx]
      exact hfree
  published x hx hf := by
    show copies x (s.ledger.published ++ [dl]) = _
    rw [copies_append, copies_append, h.published x hx hf, Nat.add_assoc]
  replayed := h.replayed
  others x hx hf := by
    have hdl : x ∉ [dl] := by
      rw [List.mem_singleton]
      rintro rfl
      refine hx ?_
      rw [h.split]
      exact List.mem_append_right _ List.mem_cons_self
    show copies x (s.ledger.published ++ [dl]) = _
    rw [copies_append, copies_eq_zero_iff.mpr hdl, Nat.add_zero]
    exact h.others x hx hf

/-- None of the letters of a replay was published since it started exactly if it has published none. -/
theorem Progress.unpublished_iff {start : DlqState} {done pending : List DeadLetter}
    (h : Progress S i message_id trace_id start S.shared done pending)
    (hfree : ∀ x ∈ to_publish message_id trace_id start.dead_letters, Free S i x) :
    Unpublished message_id trace_id start S.shared ↔ done = [] := by
  constructor
  · intro hun
    refine List.eq_nil_iff_forall_not_mem.mpr fun x hx => ?_
    have hmem := h.mem_of_done hx
    have heq := h.published x hmem (hfree x hmem)
    rw [hun x hmem] at heq
    exact copies_eq_zero_iff.mp (by omega) hx
  · rintro rfl x hx
    rw [h.published x hx (hfree x hx), copies_nil, Nat.add_zero]

/-- What the answer to a task that waits is followed by: the rest of its replay, or the exception. -/
theorem resumed_replay {start : DlqState} {q : DlqPublish} {k : Except Exc Unit → DlqCo (Option Nat)}
    (htracked : self.Tracked S) (hacc : Accounted S) {item : DlqCall}
    (hbusy : S.workers i = .busy item start (.await q k)) (ans : Except Exc Unit) :
    ∃ message_id trace_id s done pending, item = .replay message_id trace_id ∧
      self.Settled message_id trace_id start.dead_letters s pending ((k ans).settle S.shared).1
        ((k ans).settle S.shared).2 ∧
      Progress S i message_id trace_id start s done pending ∧
      (∀ x ∈ to_publish message_id trace_id start.dead_letters, Free S i x) ∧
      (done = [] ↔ (∃ e, ans = .error e) ∧ Unpublished message_id trace_id start S.shared) := by
  obtain ⟨message_id, trace_id, q', dl, rest, done, rfl, hr⟩ := htracked i _ _ _ hbusy
  have hfree : ∀ x ∈ to_publish message_id trace_id start.dead_letters, Free S i x := by
    intro x hx
    refine hacc.apart.free ?_
    rw [hbusy]
    exact hx
  have hprogress := hr.progress hacc hbusy
  have hdl : dl ∈ to_publish message_id trace_id start.dead_letters := by
    rw [hr.split]
    exact List.mem_append_right _ List.mem_cons_self
  cases ans with
  | ok u =>
    refine ⟨_, _, _, _, _, rfl, settle_published hr.waits, hprogress.publish (hfree dl hdl), hfree, ?_⟩
    constructor
    · intro hnil
      obtain ⟨-, ⟨⟩⟩ := List.append_eq_nil_iff.mp hnil
    · rintro ⟨⟨e, ⟨⟩⟩, -⟩
  | error e =>
    refine ⟨_, _, S.shared, _, _, rfl, ?_, hprogress, hfree, ?_⟩
    · rw [settle_failed hr.waits]
      exact .raises S.shared.made
    · rw [hprogress.unpublished_iff hfree]
      exact ⟨fun hnil => ⟨⟨e, rfl⟩, hnil⟩, fun h => h.2⟩

/-! ## One step -/

variable [DecidableEq ι]

/-- A task calls again after its call returned or raised. -/
def calls_again : Except Exc (Option Nat) → Bool := fun _ => true

/-- One task changes what it does. -/
theorem apart_update {w : Worker DlqCall DlqState DlqPublish (fun _ => Unit) (Option Nat)}
    (hw : S'.workers = Function.update S.workers i w) (h : Apart S) :
    Apart S' ↔ ∀ j, j ≠ i → (replaying w).Disjoint (replaying (S.workers j)) := by
  constructor
  · intro h' j hj
    have hij := h' i j (Ne.symm hj)
    rwa [hw, Function.update_self, Function.update_of_ne hj] at hij
  · intro hdisj a b hab
    rw [hw]
    by_cases ha : a = i
    · subst ha
      rw [Function.update_self, Function.update_of_ne (Ne.symm hab)]
      exact hdisj b (Ne.symm hab)
    by_cases hb : b = i
    · subst hb
      rw [Function.update_self, Function.update_of_ne ha]
      exact (hdisj a ha).symm
    · rw [Function.update_of_ne ha, Function.update_of_ne hb]
      exact h a b hab

/-- A task that does not wait in a replay shares no letter. -/
theorem apart_update_of_nil {w : Worker DlqCall DlqState DlqPublish (fun _ => Unit) (Option Nat)}
    (hw : S'.workers = Function.update S.workers i w) (hnil : replaying w = []) (h : Apart S) :
    Apart S' := by
  rw [apart_update hw h, hnil]
  exact fun _ _ => List.disjoint_nil_left _

/-- The letters that nobody replays after one task changed what it does. -/
theorem not_replaying_update {w : Worker DlqCall DlqState DlqPublish (fun _ => Unit) (Option Nat)}
    (hw : S'.workers = Function.update S.workers i w) {dl : DeadLetter} :
    (∀ j, dl ∉ replaying (S'.workers j)) ↔ dl ∉ replaying w ∧ Free S i dl := by
  rw [hw]
  constructor
  · intro h
    refine ⟨?_, fun j hj => ?_⟩
    · have hi := h i
      rwa [Function.update_self] at hi
    · have hj' := h j
      rwa [Function.update_of_ne hj] at hj'
  · rintro ⟨hself, hfree⟩ j
    by_cases hj : j = i
    · subst hj
      rwa [Function.update_self]
    · rw [Function.update_of_ne hj]
      exact hfree j hj

/-- **One step of a replay** that goes on in the state `s`. -/
theorem replay_step {start s' : DlqState} {c : DlqCo (Option Nat)} {done pending : List DeadLetter}
    (hc : self.Settled message_id trace_id start.dead_letters s pending s' c)
    (h : Progress S i message_id trace_id start s done pending) (hapart : Apart S)
    (hshared : S'.shared = s')
    (hworkers : S'.workers = Function.update S.workers i
      (Sys.after calls_again (.replay message_id trace_id) start c)) :
    Accounted S' ↔
      ((∃ q k, c = .await q k) → ∀ j, j ≠ i →
        (to_publish message_id trace_id start.dead_letters).Disjoint (replaying (S.workers j))) ∧
      ((∃ a, c = .ret a) →
        Unchanged message_id trace_id start.dead_letters S.shared.dead_letters) ∧
      ((∃ e, c = .raise e) → done = []) := by
  cases hc with
  | waits made =>
    have hcounted : Counted S' := by
      intro x hx
      obtain ⟨hself, hfree⟩ := (not_replaying_update hworkers).mp hx
      rw [hshared]
      exact h.others x hself hfree
    constructor
    · intro hacc
      refine ⟨fun _ => (apart_update hworkers hapart).mp hacc.apart, ?_, ?_⟩
      · rintro ⟨a, ⟨⟩⟩
      · rintro ⟨e, ⟨⟩⟩
    · rintro ⟨hdisj, -, -⟩
      refine ⟨?_, (apart_update hworkers hapart).mpr (hdisj ⟨_, _, rfl⟩), hcounted⟩
      rw [hshared]
      exact h.conserved
  | raises made =>
    have hconserved : Conserved S'.shared := by
      rw [hshared]
      exact h.conserved
    constructor
    · intro hacc
      refine ⟨?_, ?_, fun _ => List.eq_nil_iff_forall_not_mem.mpr fun x hx => ?_⟩
      · rintro ⟨q, k, ⟨⟩⟩
      · rintro ⟨a, ⟨⟩⟩
      -- A letter that was published is in the index still, and nobody replays it.
      have hmem := h.mem_of_done hx
      have heq := hacc.counted x ((not_replaying_update hworkers).mpr ⟨List.not_mem_nil, h.free x hx⟩)
      rw [hshared] at heq
      have hpub := h.published x hmem (h.free x hx)
      have hrep := h.replayed x hmem (h.free x hx)
      exact copies_eq_zero_iff.mp (by simp only at heq; omega) hx
    · rintro ⟨-, -, hnil⟩
      refine ⟨hconserved, apart_update_of_nil hworkers rfl hapart, fun x hx => ?_⟩
      obtain ⟨-, hfree⟩ := (not_replaying_update hworkers).mp hx
      rw [hshared]
      by_cases hmem : x ∈ to_publish message_id trace_id start.dead_letters
      · have hpub := h.published x hmem hfree
        have hrep := h.replayed x hmem hfree
        rw [hnil ⟨_, rfl⟩, copies_nil, Nat.add_zero] at hpub
        exact hpub.trans hrep.symm
      · exact h.others x hmem hfree
  | returns =>
    have hcounted : Counted S' := by
      intro x hx
      obtain ⟨-, hfree⟩ := (not_replaying_update hworkers).mp hx
      rw [hshared]
      show copies x s.ledger.published =
        copies x (s.ledger.replayed ++ to_publish message_id trace_id start.dead_letters)
      rw [copies_append]
      by_cases hmem : x ∈ to_publish message_id trace_id start.dead_letters
      · rw [h.published x hmem hfree, h.replayed x hmem hfree, h.split, List.append_nil]
      · rw [copies_eq_zero_iff.mpr hmem, Nat.add_zero]
        exact h.others x hmem hfree
    have hiff : Conserved S'.shared ↔
        Unchanged message_id trace_id start.dead_letters S.shared.dead_letters := by
      rw [hshared, conserved_replay_end h.conserved, h.index]
    constructor
    · intro hacc
      refine ⟨?_, fun _ => hiff.mp hacc.conserved, ?_⟩
      · rintro ⟨q, k, ⟨⟩⟩
      · rintro ⟨e, ⟨⟩⟩
    · rintro ⟨-, hunchanged, -⟩
      exact ⟨hiff.mpr (hunchanged ⟨_, rfl⟩), apart_update_of_nil hworkers rfl hapart, hcounted⟩

/-- The other tasks are still in their replays after a step that counts none of their letters. -/
theorem tracked_update {w : Worker DlqCall DlqState DlqPublish (fun _ => Unit) (Option Nat)}
    (hw : S'.workers = Function.update S.workers i w) (h : self.Tracked S)
    (hcopies : ∀ j, j ≠ i → ∀ x ∈ replaying (S.workers j),
      copies x S'.shared.ledger.published = copies x S.shared.ledger.published ∧
        copies x S'.shared.ledger.replayed = copies x S.shared.ledger.replayed)
    (hself : ∀ item start c, w = .busy item start c → ∃ message_id trace_id q dl rest done,
      item = .replay message_id trace_id ∧
        self.InReplay S'.shared message_id trace_id start c q dl rest done) : self.Tracked S' := by
  intro j item start c hj
  rw [hw] at hj
  by_cases hji : j = i
  · subst hji
    rw [Function.update_self] at hj
    exact hself item start c hj
  · rw [Function.update_of_ne hji] at hj
    obtain ⟨message_id, trace_id, q, dl, rest, done, rfl, hr⟩ := h j item start c hj
    refine ⟨_, _, q, dl, rest, done, rfl, hr.waits, hr.split, fun x hx => ?_, fun x hx => ?_⟩
    · have hx' : x ∈ replaying (S.workers j) := by rw [hj]; exact hx
      rw [(hcopies j hji x hx').1]
      exact hr.published x hx
    · have hx' : x ∈ replaying (S.workers j) := by rw [hj]; exact hx
      rw [(hcopies j hji x hx').2]
      exact hr.replayed x hx

/-- A step of a replay leaves the tasks in their replays. -/
theorem tracked_replay {start s' : DlqState} {c : DlqCo (Option Nat)} {done pending : List DeadLetter}
    (hc : self.Settled message_id trace_id start.dead_letters s pending s' c)
    (h : Progress S i message_id trace_id start s done pending) (htracked : self.Tracked S)
    (hacc : Accounted S') (hshared : S'.shared = s')
    (hworkers : S'.workers = Function.update S.workers i
      (Sys.after calls_again (.replay message_id trace_id) start c)) : self.Tracked S' := by
  have hledger : s'.ledger.published = s.ledger.published ∧
      ∀ x ∉ done, copies x s'.ledger.replayed = copies x s.ledger.replayed := by
    cases hc with
    | returns =>
      refine ⟨rfl, fun x hx => ?_⟩
      show copies x (s.ledger.replayed ++ to_publish message_id trace_id start.dead_letters) = _
      rw [copies_append, h.split, List.append_nil, copies_eq_zero_iff.mpr hx, Nat.add_zero]
    | _ => exact ⟨rfl, fun _ _ => rfl⟩
  refine tracked_update hworkers htracked (fun j hj x hx => ?_) fun item start' c' hbusy => ?_
  · have hdone : x ∉ done := fun hmem => h.free x hmem j hj hx
    rw [hshared, hledger.1, hledger.2 x hdone, h.elsewhere x hdone, h.kept]
    exact ⟨rfl, rfl⟩
  obtain ⟨rfl, rfl, rfl⟩ := Sys.after_busy hbusy
  cases hc with
  | @waits made q dl rest =>
    -- The task waits in `S'`, so no other task replays its letters.
    have hfree : ∀ x ∈ to_publish message_id trace_id start'.dead_letters, Free S i x := by
      intro x hx j hj hmem
      have hdisj := hacc.apart i j (Ne.symm hj)
      rw [hworkers, Function.update_self, Function.update_of_ne hj] at hdisj
      exact hdisj hx hmem
    refine ⟨_, _, q, dl, rest, done, rfl, rfl, h.split, fun x hx => ?_, fun x hx => ?_⟩
    · rw [hshared]
      exact h.published x hx (hfree x hx)
    · rw [hshared]
      exact h.replayed x hx (hfree x hx)
  | _ => cases hbusy

/-- The calls that do not await keep the letters, and their task is idle afterwards. -/
theorem settle_atomic (self : DLQConsumerAgent) (s : DlqState) {item : DlqCall}
    (h : ∀ message_id trace_id, item ≠ .replay message_id trace_id) :
    (Conserved s → Conserved ((item.run self).settle s).1) ∧
      ((item.run self).settle s).1.ledger.published = s.ledger.published ∧
      ((item.run self).settle s).1.ledger.replayed = s.ledger.replayed ∧
      ∀ start, Sys.after calls_again item start ((item.run self).settle s).2 = .idle := by
  cases item with
  | handle_message message =>
    have hsettle : ((DlqCall.run self (.handle_message message)).settle s) =
        match dead_letter message (self.rt.isoformat s.clock) s.clock with
        | .ok dl => (s.append dl, .ret none)
        | .error text => (s, .raise (.error text)) := by
      show ((Co.lift (dead_letter message _ _) >>= fun dl => Co.update (·.append dl)) >>= _).settle s = _
      cases dead_letter message (self.rt.isoformat s.clock) s.clock <;> rfl
    rw [hsettle]
    split
    · exact ⟨fun hcons => conserved_append hcons _, rfl, rfl, fun _ => rfl⟩
    · exact ⟨fun hcons => hcons, rfl, rfl, fun _ => rfl⟩
  | replay message_id trace_id => exact absurd rfl (h message_id trace_id)
  | cleanup =>
    have hledger : (self.cleanup s).ledger.published = s.ledger.published ∧
        (self.cleanup s).ledger.replayed = s.ledger.replayed := by
      unfold cleanup
      lift_lets
      intro cutoff expired_count
      split <;> exact ⟨rfl, rfl⟩
    exact ⟨conserved_cleanup, hledger.1, hledger.2, fun _ => rfl⟩

/-- **A step keeps the letters accounted for exactly if it is orderly.** -/
theorem accounted_step {l : DlqLabel ι} (htracked : self.Tracked S) (hacc : Accounted S)
    (hstep : Sys.Step calls_again (fun _ item => item.run self) Tick S l S') :
    Accounted S' ↔ self.Orderly S l := by
  cases hstep with
  | @deliver i item hidle =>
    by_cases hitem : ∀ message_id trace_id, item ≠ .replay message_id trace_id
    -- A receive or a cleanup ends without an await.
    · obtain ⟨hkeep, hpublished, hreplayed, hafter⟩ := settle_atomic self S.shared hitem
      have hworkers : (Sys.proceed calls_again S i item S.shared (item.run self)).workers =
          Function.update S.workers i .idle := by
        rw [← hafter S.shared]
        rfl
      refine iff_of_true ⟨hkeep hacc.conserved, apart_update_of_nil hworkers rfl hacc.apart, ?_⟩ ?_
      · intro x hx
        obtain ⟨-, hfree⟩ := (not_replaying_update hworkers).mp hx
        show copies x ((item.run self).settle S.shared).1.ledger.published =
          copies x ((item.run self).settle S.shared).1.ledger.replayed
        rw [hpublished, hreplayed]
        exact hacc.counted x (hfree.of_idle hidle)
      · cases item with
        | replay message_id trace_id => exact absurd rfl (hitem message_id trace_id)
        | _ => trivial
    · push Not at hitem
      obtain ⟨message_id, trace_id, rfl⟩ := hitem
      refine (replay_step (settle_deliver self message_id trace_id S.shared)
        (progress_deliver hacc hidle) hacc.apart rfl rfl).trans ?_
      constructor
      · rintro ⟨hdisj, hunchanged, -⟩
        refine ⟨fun hwaits j => ?_, hunchanged⟩
        by_cases hj : j = i
        · rw [hj, hidle]
          exact List.disjoint_nil_right _
        · exact hdisj hwaits j hj
      · rintro ⟨hdisj, hunchanged⟩
        exact ⟨fun hwaits j _ => hdisj hwaits j, hunchanged, fun _ => rfl⟩
  | @resume i item start q k answer hbusy =>
    obtain ⟨message_id, trace_id, s, done, pending, rfl, hc, hprogress, hfree, hdone⟩ :=
      resumed_replay htracked hacc hbusy (answer q)
    refine (replay_step hc hprogress hacc.apart rfl rfl).trans ?_
    constructor
    · rintro ⟨-, hreturns, hraises⟩ message_id' trace_id' start' q₁ k₁ hbusy'
      cases hbusy.symm.trans hbusy'
      exact ⟨hreturns, fun hraise => hdone.mp (hraises hraise)⟩
    -- The letters that this replay has are no other replay's.
    · intro horderly
      obtain ⟨hreturns, hraises⟩ := horderly _ _ _ _ _ hbusy
      exact ⟨fun _ j hj x hx hmem => hfree x hx j hj hmem, hreturns,
        fun hraise => hdone.mpr (hraises hraise)⟩
  | @close i hidle =>
    refine iff_of_true ⟨hacc.conserved, apart_update_of_nil rfl rfl hacc.apart, fun x hx => ?_⟩ trivial
    obtain ⟨-, hfree⟩ := (not_replaying_update rfl).mp hx
    exact hacc.counted x (hfree.of_idle hidle)
  | env htick =>
    obtain ⟨now, made, rfl⟩ := htick
    exact iff_of_true ⟨hacc.conserved, hacc.apart, hacc.counted⟩ trivial

theorem tracked_step {l : DlqLabel ι} (htracked : self.Tracked S) (hacc : Accounted S)
    (hacc' : Accounted S')
    (hstep : Sys.Step calls_again (fun _ item => item.run self) Tick S l S') : self.Tracked S' := by
  cases hstep with
  | @deliver i item hidle =>
    by_cases hitem : ∀ message_id trace_id, item ≠ .replay message_id trace_id
    · obtain ⟨-, hpublished, hreplayed, hafter⟩ := settle_atomic self S.shared hitem
      refine tracked_update rfl htracked (fun j hj x hx => ?_) fun item' start c hbusy => ?_
      · show copies x ((item.run self).settle S.shared).1.ledger.published = _ ∧
          copies x ((item.run self).settle S.shared).1.ledger.replayed = _
        rw [hpublished, hreplayed]
        exact ⟨rfl, rfl⟩
      · rw [hafter] at hbusy
        cases hbusy
    · push Not at hitem
      obtain ⟨message_id, trace_id, rfl⟩ := hitem
      exact tracked_replay (settle_deliver self message_id trace_id S.shared)
        (progress_deliver hacc hidle) htracked hacc' rfl rfl
  | @resume i item start q k answer hbusy =>
    obtain ⟨message_id, trace_id, s, done, pending, rfl, hc, hprogress, -, -⟩ :=
      resumed_replay htracked hacc hbusy (answer q)
    exact tracked_replay hc hprogress htracked hacc' rfl rfl
  | @close i hidle =>
    refine tracked_update rfl htracked (fun _ _ _ _ => ⟨rfl, rfl⟩) ?_
    rintro item start c ⟨⟩
  | env htick =>
    obtain ⟨now, made, rfl⟩ := htick
    intro j item start c hj
    obtain ⟨message_id, trace_id, q, dl, rest, done, rfl, hr⟩ := htracked j item start c hj
    exact ⟨_, _, q, dl, rest, done, rfl, hr.waits, hr.split, hr.published, hr.replayed⟩

/-- **When the dead letters are conserved.** In every run of the tasks, however they take turns at their
awaits, the letters are accounted for at every moment if and only if every step is orderly. -/
theorem conserved_iff {clock : Int} {steps : List (DlqTasks ι × DlqLabel ι)}
    (h : Sys.Path calls_again (fun _ item => item.run self) Tick (DlqTasks.started ι clock) steps S) :
    (Accounted S ∧ ∀ e ∈ steps, Accounted e.1) ↔ ∀ e ∈ steps, self.Orderly e.1 e.2 := by
  have htracked : self.Tracked (DlqTasks.started ι clock) := by
    rintro i item start c ⟨⟩
  have hacc : Accounted (DlqTasks.started ι clock) :=
    ⟨conserved_started clock, fun i j _ => List.disjoint_nil_left _, fun _ _ => rfl⟩
  exact Sys.Path.forall_iff (I := self.Tracked) (P := Accounted) htracked
    (fun _ _ _ => tracked_step) hacc (fun _ _ _ => accounted_step) h

/-! ## A letter that comes during a replay -/

/-- A consumer in whose runtime every identifier and time is the same. -/
def sample_consumer : DLQConsumerAgent where
  rt := {
    repr _ := "''"
    uuid4_hex _ := "00112233445566778899aabbccddeeff"
    isoformat _ := "2026-01-01T00:00:00+00:00" }

/-- A message with the given id that carries the dead letter of a task. -/
def sample_dead_letter (message_id : String) : Message :=
  { Message.new ⟨"", "8899aabbccddeeff", "2026-01-01T00:00:00+00:00"⟩ .ERROR (.str "probe-1")
      [("original_message", .obj [("type", .str "TASK_DISPATCH")])] with
    message_id := .str message_id }

/-- A letter is received and then replayed by another task, and the replay returns. -/
theorem conserved_iff_sample :
    let fire := Sys.fire calls_again (fun _ item => item.run sample_consumer)
    let S₀ := DlqTasks.started Bool 0
    let received := fire S₀ (.deliver false (.handle_message (sample_dead_letter "1")))
    let replaying := fire received (.deliver true (.replay (some "1") none))
    let replayed := fire replaying (.resume true fun _ => .ok ())
    let steps := [(S₀, .deliver false (.handle_message (sample_dead_letter "1"))),
      (received, .deliver true (.replay (some "1") none)), (replaying, .resume true fun _ => .ok ())]
    replayed.shared.replayed = 1 ∧ ((Accounted replayed ∧ ∀ e ∈ steps, Accounted e.1) ↔
      ∀ e ∈ steps, sample_consumer.Orderly e.1 e.2) :=
  ⟨rfl, conserved_iff (.step (.step (.step .start (.deliver rfl)) (.deliver rfl)) (Sys.step_resume _ rfl))⟩

/-- The letter 2 is received while the letter 1 is published again; the end of the replay removes both
from the index. -/
theorem letter_lost :
    ¬ ∀ (ι : Type) [DecidableEq ι] (self : DLQConsumerAgent) (clock : Int)
      (steps : List (DlqTasks ι × DlqLabel ι)) (S : DlqTasks ι),
      Sys.Path calls_again (fun _ item => item.run self) Tick (DlqTasks.started ι clock) steps S →
      Accounted S := by
  intro h
  have hstart : Sys.Path calls_again (fun _ item => item.run sample_consumer) Tick
      (DlqTasks.started Bool 0) [] (DlqTasks.started Bool 0) := .start
  obtain ⟨steps, hpath⟩ := Sys.exists_path_exec
    [.deliver false (.handle_message (sample_dead_letter "1")),
      .deliver false (.replay (some "1") none),
      .deliver true (.handle_message (sample_dead_letter "2")),
      .resume false fun _ => .ok ()]
    hstart
  have hcons := congrArg Multiset.card (h Bool sample_consumer 0 _ _ hpath).conserved
  simp only [Multiset.card_add, Multiset.coe_card] at hcons
  revert hcons
  decide +kernel

end DLQConsumerAgent

end Aqap
