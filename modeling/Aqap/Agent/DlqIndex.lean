import Aqap.Agent.Conservation
import Mathlib.Data.List.Sublists

/-!
# The index of the dead letters

The index is what `get_dead_letters` and `stats` show. A replay that ends assigns what it read at its start, so a state
of the index may come back; but it is always a part of what was received, in the same order.

* `step_cases`: what a step of the tasks does to the index.
* `index_ordered`: what the index and the newest letters are, at every moment.
* `balanced_iff`: when the statistics add up.
-/

namespace Aqap

open Py Aqap.Core Async

/-- As `Tick`, but the clock does not go back. -/
def TickForward (s s' : DlqState) : Prop := ∃ now made, s.clock ≤ now ∧ s' = { s with clock := now, made := made }

/-- `get_dead_letters(limit)`: `list(reversed(self._dead_letters[-limit:]))` -/
def get_dead_letters (s : DlqState) (limit : Int) : List DeadLetter :=
  (if 0 < limit then s.dead_letters.drop (s.dead_letters.length - limit.toNat)
    else s.dead_letters.drop (-limit).toNat).reverse

namespace DLQConsumerAgent

variable {self : DLQConsumerAgent} {ι : Type} {S S' : DlqTasks ι} {l : DlqLabel ι} {s s' : DlqState}

/-- The index, the statistics and the received letters are the same; and the clock does not go back, if that
is asked for. -/
structure SameIndex (forward : Prop) (s s' : DlqState) : Prop where
  dead_letters : s'.dead_letters = s.dead_letters
  total_dead_letters : s'.total_dead_letters = s.total_dead_letters
  replayed : s'.replayed = s.replayed
  expired : s'.expired = s.expired
  received : s'.ledger.received = s.ledger.received
  evicted : s'.ledger.evicted = s.ledger.evicted
  clock : forward → s.clock ≤ s'.clock

/-- The index is as it is, or as a replay read it that is going on. -/
def Read (S : DlqTasks ι) (letters : List DeadLetter) : Prop :=
  letters = S.shared.dead_letters ∨ ∃ i item start c, S.workers i = .busy item start c ∧ letters = start.dead_letters

/-- The tasks that wait are in a replay. -/
def Replaying (self : DLQConsumerAgent) (S : DlqTasks ι) : Prop :=
  ∀ i item start c, S.workers i = .busy item start c → ∃ message_id trace_id q dl rest,
    item = .replay message_id trace_id ∧ c = self.waiting message_id trace_id start.dead_letters q dl rest

/-- A replay that had read `letters` returns in this step. -/
def Ends (self : DLQConsumerAgent) (S : DlqTasks ι) (letters : List DeadLetter) : DlqLabel ι → Prop
  | .deliver _ (.replay message_id trace_id) =>
    Returns (DlqCall.run self (.replay message_id trace_id)) S.shared ∧ letters = S.shared.dead_letters
  | .resume i answer => ∃ message_id trace_id start q k,
      S.workers i = .busy (.replay message_id trace_id) start (.await q k) ∧ Returns (k (answer q)) S.shared ∧
        letters = start.dead_letters
  | _ => False

/-- What a step does to the index. -/
inductive Indexed (self : DLQConsumerAgent) (forward : Prop) (S : DlqTasks ι) (l : DlqLabel ι) : DlqState → Prop
  | append (dl : DeadLetter) : (∀ letters, ¬ self.Ends S letters l) → dl.received_at = S.shared.clock →
      Indexed self forward S l (S.shared.append dl)
  | cleanup : (∀ letters, ¬ self.Ends S letters l) → Indexed self forward S l (self.cleanup S.shared)
  /-- A replay has returned. -/
  | ended (message_id trace_id : Option String) (letters : List DeadLetter) (s : DlqState) :
      (∀ letters', self.Ends S letters' l ↔ letters' = letters) → Read S letters → SameIndex forward S.shared s →
      Indexed self forward S l (replay_end message_id trace_id letters s)
  | same (s : DlqState) : (∀ letters, ¬ self.Ends S letters l) → SameIndex forward S.shared s →
      Indexed self forward S l s

/-- A letter has the time at which it was received. -/
theorem received_at_dead_letter {message : Message} {now : String} {received_at : Int} {dl : DeadLetter}
    (h : dead_letter message now received_at = .ok dl) : dl.received_at = received_at := by
  unfold dead_letter at h
  split at h
  · split at h
    · cases h
      rfl
    · cases h
  · cases h
  · cases h

variable {forward : Prop} {env : DlqState → DlqState → Prop}

theorem sameIndex_refl (s : DlqState) : SameIndex forward s s :=
  ⟨rfl, rfl, rfl, rfl, rfl, rfl, fun _ => le_refl _⟩

/-- Nothing but the clock and the counter of the fresh ids changes by itself. -/
theorem sameIndex_of_tick (h : Tick s s') : SameIndex False s s' := by
  obtain ⟨now, made, rfl⟩ := h
  exact ⟨rfl, rfl, rfl, rfl, rfl, rfl, False.elim⟩

theorem sameIndex_of_tickForward (h : TickForward s s') : SameIndex True s s' := by
  obtain ⟨now, made, hnow, rfl⟩ := h
  exact ⟨rfl, rfl, rfl, rfl, rfl, rfl, fun _ => hnow⟩

variable [DecidableEq ι]

/-- A task goes on with a replay that read `letters`. -/
theorem proceed_replay {i : ι} {message_id trace_id : Option String} {start : DlqState} {c : DlqCo (Option Nat)}
    {letters pending : List DeadLetter} {s : DlqState} (hreplaying : self.Replaying S) (hread : Read S letters)
    (hstart : start.dead_letters = letters) (hsame : SameIndex forward S.shared s)
    (hsettled : self.Settled message_id trace_id letters s pending (c.settle S.shared).1 (c.settle S.shared).2)
    (hends : ∀ letters', self.Ends S letters' l ↔ Returns c S.shared ∧ letters' = letters) :
    self.Indexed forward S l (Sys.proceed calls_again S i (.replay message_id trace_id) start c).shared ∧
      self.Replaying (Sys.proceed calls_again S i (.replay message_id trace_id) start c) := by
  have hothers (hbusy : ∀ (item : DlqCall) (start' : DlqState) (c' : DlqCo (Option Nat)),
        Sys.after calls_again (DlqCall.replay message_id trace_id) start (c.settle S.shared).2 =
          .busy item start' c' → ∃ q dl rest, item = .replay message_id trace_id ∧
            c' = self.waiting message_id trace_id start'.dead_letters q dl rest) :
      self.Replaying (Sys.proceed calls_again S i (.replay message_id trace_id) start c) := by
    intro j item start' c' hj
    by_cases hij : j = i
    · rw [hij, Sys.proceed_self] at hj
      obtain ⟨q, dl, rest, hitem, hc⟩ := hbusy item start' c' hj
      exact ⟨message_id, trace_id, q, dl, rest, hitem, hc⟩
    · rw [Sys.proceed_other hij] at hj
      exact hreplaying j item start' c' hj
  have hreturns : Returns c S.shared ↔ ∃ a, (c.settle S.shared).2 = .ret a := Iff.rfl
  show self.Indexed forward S l (c.settle S.shared).1 ∧ _
  generalize (c.settle S.shared).1 = s₁ at hsettled
  generalize (c.settle S.shared).2 = c₁ at hsettled hothers hreturns
  cases hsettled with
  | @waits made q dl rest =>
    refine ⟨.same _ (fun letters' hletters => ?_) ⟨hsame.dead_letters, hsame.total_dead_letters, hsame.replayed,
      hsame.expired, hsame.received, hsame.evicted, hsame.clock⟩, hothers ?_⟩
    · obtain ⟨a, ⟨⟩⟩ := hreturns.mp ((hends letters').mp hletters).1
    · rintro item start' c' ⟨⟩
      exact ⟨q, dl, rest, rfl, by rw [hstart]⟩
  | raises made =>
    refine ⟨.same _ (fun letters' hletters => ?_) ⟨hsame.dead_letters, hsame.total_dead_letters, hsame.replayed,
      hsame.expired, hsame.received, hsame.evicted, hsame.clock⟩, hothers ?_⟩
    · obtain ⟨a, ⟨⟩⟩ := hreturns.mp ((hends letters').mp hletters).1
    · rintro item start' c' ⟨⟩
  | returns =>
    refine ⟨.ended message_id trace_id letters s (fun letters' => ?_) hread hsame, hothers ?_⟩
    · rw [hends, and_iff_right (hreturns.mpr ⟨_, rfl⟩)]
    · rintro item start' c' ⟨⟩

/-- After a step of a task, the replays that go on had read what could be read before it. -/
theorem read_proceed {i : ι} {item : DlqCall} {start : DlqState} {c : DlqCo (Option Nat)}
    (hstart : Read S start.dead_letters) {letters : List DeadLetter}
    (h : Read (Sys.proceed calls_again S i item start c) letters) :
    letters = (Sys.proceed calls_again S i item start c).shared.dead_letters ∨ Read S letters := by
  rcases h with hnow | ⟨j, item', start', c', hbusy, rfl⟩
  · exact .inl hnow
  · rcases Sys.busy_proceed hbusy with ⟨-, -, rfl, -⟩ | ⟨-, hold⟩
    · exact .inr hstart
    · exact .inr (.inr ⟨j, item', start', c', hold, rfl⟩)

/-- A call that does not wait leaves the replays as they are. -/
theorem replaying_atomic {i : ι} {item : DlqCall} {start : DlqState} {c : DlqCo (Option Nat)}
    (hreplaying : self.Replaying S) (h : Sys.after calls_again item start (c.settle S.shared).2 = .idle) :
    self.Replaying (Sys.proceed calls_again S i item start c) := by
  intro j item' start' c' hbusy
  by_cases hij : j = i
  · rw [hij, Sys.proceed_self, h] at hbusy
    cases hbusy
  · rw [Sys.proceed_other hij] at hbusy
    exact hreplaying j item' start' c' hbusy

/-- **What a step does to the index.** -/
theorem step_cases (henv : ∀ s s', env s s' → SameIndex forward s s') (hreplaying : self.Replaying S)
    (hstep : Sys.Step calls_again (fun _ item => item.run self) env S l S') :
    self.Indexed forward S l S'.shared ∧ self.Replaying S' ∧
      ∀ letters, Read S' letters → letters = S'.shared.dead_letters ∨ Read S letters := by
  cases hstep with
  | @deliver i item hidle =>
    have hread : ∀ letters, Read (Sys.proceed calls_again S i item S.shared (item.run self)) letters →
        letters = (Sys.proceed calls_again S i item S.shared (item.run self)).shared.dead_letters ∨
          Read S letters := fun letters => read_proceed (.inl rfl)
    cases item with
    | handle_message message =>
      have hsettle : (DlqCall.run self (.handle_message message)).settle S.shared =
          match dead_letter message (self.rt.isoformat S.shared.clock) S.shared.clock with
          | .ok dl => (S.shared.append dl, .ret none)
          | .error text => (S.shared, .raise (.error text)) := by
        show ((Co.lift (dead_letter message _ _) >>= fun dl => Co.update (·.append dl)) >>= _).settle S.shared = _
        cases dead_letter message (self.rt.isoformat S.shared.clock) S.shared.clock <;> rfl
      refine ⟨?_, replaying_atomic hreplaying ?_, hread⟩
      · show self.Indexed forward S _ ((DlqCall.run self (.handle_message message)).settle S.shared).1
        rw [hsettle]
        cases hletter : dead_letter message (self.rt.isoformat S.shared.clock) S.shared.clock with
        | error text => exact .same _ (fun _ h => h) (sameIndex_refl _)
        | ok dl => exact .append dl (fun _ h => h) (received_at_dead_letter hletter)
      · rw [hsettle]
        cases dead_letter message (self.rt.isoformat S.shared.clock) S.shared.clock <;> rfl
    | cleanup => exact ⟨.cleanup fun _ h => h, replaying_atomic hreplaying rfl, hread⟩
    | replay message_id trace_id =>
      obtain ⟨hindexed, hreplaying'⟩ := proceed_replay hreplaying (.inl rfl) rfl (sameIndex_refl S.shared)
        (settle_deliver self message_id trace_id S.shared) (i := i) (l := .deliver i (.replay message_id trace_id))
        fun letters' => Iff.rfl
      exact ⟨hindexed, hreplaying', hread⟩
  -- Only a replay waits: the index changes if it returns, to what is left of its list.
  | @resume i item start q k answer hbusy =>
    obtain ⟨message_id, trace_id, q', dl, rest, rfl, hc⟩ := hreplaying i _ _ _ hbusy
    have hread : Read S start.dead_letters := .inr ⟨i, _, start, _, hbusy, rfl⟩
    have hends (letters' : List DeadLetter) : self.Ends S letters' (.resume i answer) ↔
        Returns (k (answer q)) S.shared ∧ letters' = start.dead_letters := by
      constructor
      · rintro ⟨message_id', trace_id', start', q₁, k₁, hbusy', hreturns, heq⟩
        cases hbusy.symm.trans hbusy'
        exact ⟨hreturns, heq⟩
      · rintro ⟨hreturns, heq⟩
        exact ⟨message_id, trace_id, start, q, k, hbusy, hreturns, heq⟩
    have hproceed : self.Indexed forward S (.resume i answer)
          (Sys.proceed calls_again S i (.replay message_id trace_id) start (k (answer q))).shared ∧
        self.Replaying (Sys.proceed calls_again S i (.replay message_id trace_id) start (k (answer q))) := by
      cases hans : answer q with
      | ok u =>
        refine proceed_replay (s := S.shared.publish dl) hreplaying hread rfl
          ⟨rfl, rfl, rfl, rfl, rfl, rfl, fun _ => le_refl _⟩ (settle_published hc) ?_
        rw [← hans]
        exact hends
      | error e =>
        have hsettled : self.Settled message_id trace_id start.dead_letters S.shared []
            ((k (answer q)).settle S.shared).1 ((k (answer q)).settle S.shared).2 := by
          rw [hans, settle_failed hc]
          exact .raises S.shared.made
        rw [← hans]
        exact proceed_replay hreplaying hread rfl (sameIndex_refl S.shared) hsettled hends
    exact ⟨hproceed.1, hproceed.2, fun letters => read_proceed hread⟩
  | @close i hidle =>
    refine ⟨.same _ (fun _ h => h) (sameIndex_refl _), fun j item start c hbusy => ?_, ?_⟩
    · exact hreplaying j item start c (Sys.busy_of_ended hbusy)
    · rintro letters (hnow | ⟨j, item, start, c, hbusy, rfl⟩)
      · exact .inl hnow
      · exact .inr (.inr ⟨j, item, start, c, Sys.busy_of_ended hbusy, rfl⟩)
  | env htick =>
    refine ⟨.same _ (fun _ h => h) (henv _ _ htick), hreplaying, ?_⟩
    rintro letters (hnow | hbusy)
    · exact .inl hnow
    · exact .inr (.inr hbusy)

/-! ## What the index shows -/

/-- The letters were received one after another, and the index, now or in a replay, is a part of them. -/
structure Arrived (S : DlqTasks ι) : Prop where
  sorted : S.shared.ledger.received.Pairwise fun dl dl' => dl.received_at ≤ dl'.received_at
  past : ∀ dl ∈ S.shared.ledger.received, dl.received_at ≤ S.shared.clock
  read : ∀ letters, Read S letters →
    letters.Sublist S.shared.ledger.received ∧ letters.length ≤ MAX_DEAD_LETTERS

omit [DecidableEq ι] in
/-- The received letters stay, and the index is a part of them. -/
theorem Arrived.same (h : Arrived S) (hreceived : S'.shared.ledger.received = S.shared.ledger.received)
    (hclock : S.shared.clock ≤ S'.shared.clock)
    (hnow : S'.shared.dead_letters.Sublist S.shared.ledger.received ∧
      S'.shared.dead_letters.length ≤ MAX_DEAD_LETTERS)
    (hread : ∀ letters, Read S' letters → letters = S'.shared.dead_letters ∨ Read S letters) : Arrived S' where
  sorted := hreceived.symm ▸ h.sorted
  past dl hdl := (h.past dl (hreceived ▸ hdl)).trans hclock
  read letters hletters := by
    rw [hreceived]
    rcases hread letters hletters with rfl | hold
    · exact hnow
    · exact h.read letters hold

theorem cleanup_sublist (s : DlqState) : (self.cleanup s).dead_letters.Sublist s.dead_letters ∧
    (self.cleanup s).ledger.received = s.ledger.received ∧ (self.cleanup s).clock = s.clock := by
  unfold cleanup
  lift_lets
  intro cutoff expired_count
  split
  · exact ⟨List.filter_sublist, rfl, rfl⟩
  · exact ⟨List.Sublist.refl _, rfl, rfl⟩

theorem arrived_step (h : Arrived S) (hreplaying : self.Replaying S)
    (hstep : Sys.Step calls_again (fun _ item => item.run self) TickForward S l S') : Arrived S' := by
  obtain ⟨hindexed, -, hread⟩ := step_cases (fun _ _ => sameIndex_of_tickForward) hreplaying hstep
  obtain ⟨hsublist, hlength⟩ := h.read S.shared.dead_letters (.inl rfl)
  generalize hshared : S'.shared = s' at hindexed
  cases hindexed with
  | append dl hends hreceived_at =>
    have hreceived : S'.shared.ledger.received = S.shared.ledger.received ++ [dl] := by rw [hshared]; rfl
    have hclock : S'.shared.clock = S.shared.clock := by rw [hshared]; rfl
    have hindex : S'.shared.dead_letters = _ := (congrArg DlqState.dead_letters hshared).trans
      (append_dead_letters S.shared dl)
    refine ⟨?_, fun dl' hdl' => ?_, fun letters hletters => ?_⟩
    · rw [hreceived, List.pairwise_append]
      refine ⟨h.sorted, List.pairwise_singleton _ _, fun dl' hdl' dl'' hdl'' => ?_⟩
      rw [List.mem_singleton.mp hdl'', hreceived_at]
      exact h.past dl' hdl'
    · rw [hreceived] at hdl'
      rw [hclock]
      rcases List.mem_append.mp hdl' with hold | hnew
      · exact h.past dl' hold
      · rw [List.mem_singleton.mp hnew, hreceived_at]
    · rw [hreceived]
      rcases hread letters hletters with rfl | hold
      -- The letter is newer than all others; a full index loses its oldest ones.
      · rw [hindex]
        refine ⟨(List.drop_sublist _ _).trans (hsublist.append (List.Sublist.refl [dl])), ?_⟩
        rw [List.length_drop]
        omega
      · obtain ⟨hold_sublist, hold_length⟩ := h.read letters hold
        exact ⟨hold_sublist.trans (List.sublist_append_left _ _), hold_length⟩
  | cleanup hends =>
    obtain ⟨hcleaned, hreceived, hclock⟩ := self.cleanup_sublist S.shared
    refine h.same ?_ ?_ ?_ hread
    · rw [hshared, hreceived]
    · rw [hshared, hclock]
    · rw [hshared]
      exact ⟨hcleaned.trans hsublist, hcleaned.length_le.trans hlength⟩
  -- The list may be an old one, but it was an index itself.
  | ended message_id trace_id letters s hends hletters hsame =>
    obtain ⟨hold_sublist, hold_length⟩ := h.read letters hletters
    have hremaining : (remaining message_id trace_id letters).Sublist letters := List.filter_sublist
    refine h.same ?_ ?_ ?_ hread
    · rw [hshared]
      exact hsame.received
    · rw [hshared]
      exact hsame.clock trivial
    · rw [hshared]
      exact ⟨hremaining.trans hold_sublist, hremaining.length_le.trans hold_length⟩
  | same s hends hsame =>
    refine h.same ?_ ?_ ?_ hread
    · rw [hshared, hsame.received]
    · rw [hshared]
      exact hsame.clock trivial
    · rw [hshared, hsame.dead_letters]
      exact ⟨hsublist, hlength⟩

/-- The runs of the tasks from the start of a consumer, with a clock that does not go back. -/
abbrev DlqPath (ι : Type) [DecidableEq ι] (self : DLQConsumerAgent) (clock : Int)
    (steps : List (DlqTasks ι × DlqLabel ι)) (S : DlqTasks ι) : Prop :=
  Sys.Path calls_again (fun _ item => item.run self) TickForward (DlqTasks.started ι clock) steps S

omit [DecidableEq ι] in
theorem replaying_started (clock : Int) : self.Replaying (DlqTasks.started ι clock) := by
  rintro i item start c ⟨⟩

omit [DecidableEq ι] in
theorem arrived_started (clock : Int) : Arrived (DlqTasks.started ι clock) := by
  refine ⟨.nil, nofun, fun letters hletters => ?_⟩
  rcases hletters with rfl | ⟨i, item, start, c, ⟨⟩, -⟩
  exact ⟨.slnil, Nat.zero_le _⟩

/-- The newest letters are the last ones. -/
theorem newest_letters {limit : Int}
    (hsorted : s.dead_letters.Pairwise fun dl dl' => dl.received_at ≤ dl'.received_at) (hlimit : 0 < limit) :
    (get_dead_letters s limit).length = min limit.toNat s.dead_letters.length ∧
      (get_dead_letters s limit).Pairwise (fun dl dl' => dl'.received_at ≤ dl.received_at) ∧
      ∀ dl ∈ s.dead_letters, dl ∉ get_dead_letters s limit →
        ∀ dl' ∈ get_dead_letters s limit, dl.received_at ≤ dl'.received_at := by
  unfold get_dead_letters
  rw [if_pos hlimit]
  rw [← List.take_append_drop (s.dead_letters.length - limit.toNat) s.dead_letters, List.pairwise_append] at hsorted
  obtain ⟨-, hnewest, hbetween⟩ := hsorted
  refine ⟨?_, List.pairwise_reverse.mpr hnewest, fun dl hdl hhidden dl' hdl' => ?_⟩
  · rw [List.length_reverse, List.length_drop]
    omega
  · rw [List.mem_reverse] at hhidden hdl'
    rw [← List.take_append_drop (s.dead_letters.length - limit.toNat) s.dead_letters] at hdl
    exact hbetween dl ((List.mem_append.mp hdl).resolve_right hhidden) dl' hdl'

/-- **What the index shows.** At every moment of every run, however receiving, replaying and cleaning take turns at
their awaits and whichever publish raises, the index has at most 5000 letters, each of which was received, in the order
in which they came; and if the clock does not go back, the letters that are listed under a positive limit are the
newest of them, the last one first. -/
theorem index_ordered {clock : Int} {steps : List (DlqTasks ι × DlqLabel ι)} (h : DlqPath ι self clock steps S)
    {limit : Int} (hlimit : 0 < limit) :
    S.shared.dead_letters.length ≤ 5000 ∧ S.shared.dead_letters.Sublist S.shared.ledger.received ∧
      (get_dead_letters S.shared limit).length = min limit.toNat S.shared.dead_letters.length ∧
      (get_dead_letters S.shared limit).Pairwise (fun dl dl' => dl'.received_at ≤ dl.received_at) ∧
      ∀ dl ∈ S.shared.dead_letters, dl ∉ get_dead_letters S.shared limit →
        ∀ dl' ∈ get_dead_letters S.shared limit, dl.received_at ≤ dl'.received_at := by
  have harrived := (h.lts.throughout (I := fun S => Arrived S ∧ self.Replaying S)
    ⟨arrived_started clock, replaying_started clock⟩ fun S l S' hS hstep =>
      ⟨arrived_step hS.1 hS.2 hstep,
        (step_cases (fun _ _ => sameIndex_of_tickForward) hS.2 hstep).2.1⟩).1.1
  obtain ⟨hsublist, hlength⟩ := harrived.read S.shared.dead_letters (.inl rfl)
  exact ⟨hlength, hsublist, newest_letters (harrived.sorted.sublist hsublist) hlimit⟩

/-- Two letters, of which one is listed. -/
theorem index_ordered_sample : ∃ (steps : List (DlqTasks Bool × DlqLabel Bool)) (S : DlqTasks Bool),
    DlqPath Bool sample_consumer 0 steps S ∧ S.shared.dead_letters.length = 2 ∧
      (get_dead_letters S.shared 1).length = min 1 S.shared.dead_letters.length := by
  have hstart : DlqPath Bool sample_consumer 0 [] (DlqTasks.started Bool 0) := .start
  obtain ⟨steps, hpath⟩ := Sys.exists_path_exec
    [.deliver false (.handle_message (sample_dead_letter "1")),
      .deliver true (.handle_message (sample_dead_letter "2"))] hstart
  exact ⟨steps, _, hpath, rfl, (index_ordered hpath Int.one_pos).2.2.1⟩

/-! ## The statistics -/

/-- The statistics: every letter is pending, replayed, expired or evicted. -/
def Balanced (s : DlqState) : Prop :=
  s.total_dead_letters = s.dead_letters.length + s.replayed + s.expired + s.ledger.evicted.length

/-- A replay that returns in this step finds an index of the length that it had read. -/
def SameLength (self : DLQConsumerAgent) (S : DlqTasks ι) (l : DlqLabel ι) : Prop :=
  ∀ letters, self.Ends S letters l → letters.length = S.shared.dead_letters.length

theorem balanced_append (h : Balanced s) (dl : DeadLetter) : Balanced (s.append dl) := by
  unfold Balanced at h ⊢
  rw [append_dead_letters, List.length_drop]
  show s.total_dead_letters + 1 = _ + s.replayed + s.expired +
    (s.ledger.evicted ++ (s.dead_letters ++ [dl]).take ((s.dead_letters ++ [dl]).length - MAX_DEAD_LETTERS)).length
  rw [List.length_append, List.length_append, List.length_take, List.length_append, List.length_singleton]
  omega

theorem balanced_cleanup (h : Balanced s) : Balanced (self.cleanup s) := by
  unfold cleanup
  lift_lets
  intro cutoff expired_count
  split
  · have hsplit := List.length_eq_length_filter_add (fun dl : DeadLetter => decide (dl.received_at < cutoff))
      (l := s.dead_letters)
    have hkept : (s.dead_letters.filter fun dl => !decide (dl.received_at < cutoff)) =
        s.dead_letters.filter fun dl => decide (cutoff ≤ dl.received_at) := by
      refine List.filter_congr fun dl _ => ?_
      rw [← decide_not, decide_eq_decide]
      exact not_lt
    have hexpired : expired_count = (s.dead_letters.filter fun dl => decide (dl.received_at < cutoff)).length :=
      List.countP_eq_length_filter
    unfold Balanced at h ⊢
    dsimp only
    rw [hexpired]
    rw [hkept] at hsplit
    omega
  · exact h

theorem length_replay (message_id trace_id : Option String) (letters : List DeadLetter) :
    letters.length = (to_replay message_id trace_id letters).length +
      (remaining message_id trace_id letters).length := by
  exact List.length_eq_length_filter_add (matched message_id trace_id)

theorem balanced_step (h : Balanced S.shared) (hreplaying : self.Replaying S)
    (hstep : Sys.Step calls_again (fun _ item => item.run self) Tick S l S') :
    Balanced S'.shared ↔ self.SameLength S l := by
  obtain ⟨hindexed, -, -⟩ := step_cases (fun _ _ => sameIndex_of_tick) hreplaying hstep
  generalize S'.shared = s' at hindexed
  cases hindexed with
  | append dl hends _ =>
    exact iff_of_true (balanced_append h dl) fun letters hletters => absurd hletters (hends letters)
  | cleanup hends => exact iff_of_true (balanced_cleanup h) fun letters hletters => absurd hletters (hends letters)
  | ended message_id trace_id letters s hends hletters hsame =>
    have hlengths := length_replay message_id trace_id letters
    have hsame_length : self.SameLength S l ↔ letters.length = S.shared.dead_letters.length :=
      ⟨fun hall => hall letters ((hends letters).mpr rfl), fun heq letters' hends' =>
        (hends letters').mp hends' ▸ heq⟩
    have hbalanced : Balanced (replay_end message_id trace_id letters s) ↔ S.shared.total_dead_letters =
        (remaining message_id trace_id letters).length +
          (S.shared.replayed + (to_replay message_id trace_id letters).length) + S.shared.expired +
            S.shared.ledger.evicted.length := by
      rw [← hsame.total_dead_letters, ← hsame.replayed, ← hsame.expired, ← hsame.evicted]
      rfl
    unfold Balanced at h
    rw [hsame_length, hbalanced]
    omega
  | same s hends hsame =>
    refine iff_of_true ?_ fun letters hletters => absurd hletters (hends letters)
    unfold Balanced at h ⊢
    rw [hsame.total_dead_letters, hsame.dead_letters, hsame.replayed, hsame.expired, hsame.evicted]
    exact h

/-- **When the statistics add up.** In every run, the pending, the replayed, the expired and the evicted letters are as
many as were received at every moment, exactly if every replay that returns finds an index of the length that it had
read at its start. -/
theorem balanced_iff {clock : Int} {steps : List (DlqTasks ι × DlqLabel ι)}
    (h : Sys.Path calls_again (fun _ item => item.run self) Tick (DlqTasks.started ι clock) steps S) :
    (Balanced S.shared ∧ ∀ e ∈ steps, Balanced e.1.shared) ↔ ∀ e ∈ steps, self.SameLength e.1 e.2 :=
  Sys.Path.forall_iff (I := self.Replaying) (P := fun S => Balanced S.shared) (replaying_started clock)
    (fun _ _ _ hr _ _ hstep => (step_cases (fun _ _ => sameIndex_of_tick) hr hstep).2.1) rfl
    (fun _ _ _ hr hb hstep => balanced_step hb hr hstep) h

/-- A letter is received and then replayed, and the replay returns. -/
theorem balanced_sample :
    let fire := Sys.fire calls_again (fun _ item => item.run sample_consumer)
    let S₀ := DlqTasks.started Bool 0
    let received := fire S₀ (.deliver false (.handle_message (sample_dead_letter "1")))
    let replaying := fire received (.deliver true (.replay (some "1") none))
    let replayed := fire replaying (.resume true fun _ => .ok ())
    let steps := [(S₀, .deliver false (.handle_message (sample_dead_letter "1"))),
      (received, .deliver true (.replay (some "1") none)), (replaying, .resume true fun _ => .ok ())]
    replayed.shared.replayed = 1 ∧ ((Balanced replayed.shared ∧ ∀ e ∈ steps, Balanced e.1.shared) ↔
      ∀ e ∈ steps, sample_consumer.SameLength e.1 e.2) :=
  ⟨rfl, balanced_iff (.step (.step (.step .start (.deliver rfl)) (.deliver rfl)) (Sys.step_resume _ rfl))⟩

end DLQConsumerAgent

end Aqap
