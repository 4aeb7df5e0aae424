import Aqap.Sdk.Consumer
import Mathlib.Algebra.Order.BigOperators.Group.Finset
import Mathlib.Data.Fintype.Card

/-!
# How often an entry is handled

A consumer claims the entries that were delivered less than `max_retries` times when it looked; by then others may
have looked too. So each consumer but one may add a delivery.

* `bounded_step`: what the counts of a group keep.
* `delivered_at_most`: how often an entry is delivered, and its handler called.
-/

namespace Aqap.Sdk

open Py Aqap.Core Async

/-- What a consumer is about to claim. -/
def Consumer.Phase.claims : Consumer.Phase → List Nat
  | giving_up _ claims => claims
  | _ => []

namespace Group

variable {ι : Type} [Fintype ι]

/-- How many consumers are about to claim the entry. -/
def planned (s : Group ι) (i : Nat) : Nat := ∑ c, (s.phase c).claims.count i

/-- An entry is pending once, with its number of deliveries; and these, with the claims that are about to come, are
at most `n` and one for each other consumer. -/
structure Bounded (n : Nat) (s : Group ι) : Prop where
  nodup : (s.pending.map Pending.entry).Nodup
  below : ∀ p ∈ s.pending, p.entry < s.last
  counted : ∀ p ∈ s.pending, p.times_delivered = s.delivered p.entry
  undelivered : ∀ i, s.last ≤ i → s.delivered i = 0
  claims_nodup : ∀ c, (s.phase c).claims.Nodup
  claims_below : ∀ c, ∀ i ∈ (s.phase c).claims, i < s.last
  bound : ∀ i, s.delivered i + s.planned i ≤ n + (Fintype.card ι - 1)

variable {n : Nat} {s s₁ s' : Group ι} {i : Nat}

theorem bounded_init : Bounded n (init : Group ι) := by
  constructor <;> simp [init, planned, Consumer.Phase.claims]

/-- What is not part of the counts may change. -/
theorem Bounded.congr (h : Bounded n s) (hpending : s₁.pending = s.pending) (hlast : s₁.last = s.last)
    (hdelivered : s₁.delivered = s.delivered) (hphase : s₁.phase = s.phase) : Bounded n s₁ := by
  obtain ⟨stream, last, pending, phase, delivered, returned, failed, unhandled⟩ := s₁
  cases hpending
  cases hlast
  cases hdelivered
  cases hphase
  exact ⟨h.nodup, h.below, h.counted, h.undelivered, h.claims_nodup, h.claims_below, h.bound⟩

/-- Nothing that no consumer has looked at is about to be claimed. -/
theorem planned_eq_zero (h : ∀ c, i ∉ (s.phase c).claims) : s.planned i = 0 :=
  Finset.sum_eq_zero fun c _ => List.count_eq_zero.mpr (h c)

variable [DecidableEq ι] {loads : String → Option Json} {config : ι → Consumer} {c : ι}

theorem planned_goto (s : Group ι) (c : ι) (phase : Consumer.Phase) (i : Nat) :
    (s.goto c phase).planned i + (s.phase c).claims.count i = s.planned i + phase.claims.count i := by
  have hothers : ∑ d ∈ Finset.univ.erase c, ((s.goto c phase).phase d).claims.count i =
      ∑ d ∈ Finset.univ.erase c, (s.phase d).claims.count i := by
    refine Finset.sum_congr rfl fun d hd => ?_
    rw [phase_goto, if_neg (Finset.ne_of_mem_erase hd)]
  unfold planned
  rw [← Finset.add_sum_erase _ _ (Finset.mem_univ c),
    ← Finset.add_sum_erase _ (fun d => (s.phase d).claims.count i) (Finset.mem_univ c), hothers,
    phase_goto, if_pos rfl]
  omega

/-- The others are about to claim an entry once each. -/
theorem planned_le (h : Bounded n s) (hc : i ∉ (s.phase c).claims) : s.planned i ≤ Fintype.card ι - 1 := by
  have hone (d : ι) : (s.phase d).claims.count i ≤ 1 := List.nodup_iff_count_le_one.mp (h.claims_nodup d) i
  unfold planned
  rw [← Finset.add_sum_erase _ _ (Finset.mem_univ c), List.count_eq_zero.mpr hc, Nat.zero_add]
  calc ∑ d ∈ Finset.univ.erase c, (s.phase d).claims.count i
      ≤ (Finset.univ.erase c).card • 1 := Finset.sum_le_card_nsmul _ _ _ fun d _ => hone d
    _ = Fintype.card ι - 1 := by
      rw [Finset.card_erase_of_mem (Finset.mem_univ c), Finset.card_univ]
      exact Nat.mul_one _

/-- A consumer goes on with the claims that it has, or fewer. -/
theorem bounded_goto {phase : Consumer.Phase} (h : Bounded n s)
    (hclaims : phase.claims.Sublist (s.phase c).claims) : Bounded n (s.goto c phase) where
  nodup := h.nodup
  below := h.below
  counted := h.counted
  undelivered := h.undelivered
  claims_nodup d := by
    rw [phase_goto]
    split
    · exact (h.claims_nodup c).sublist hclaims
    · exact h.claims_nodup d
  claims_below d i hi := by
    rw [phase_goto] at hi
    split at hi
    · exact h.claims_below c i (hclaims.mem hi)
    · exact h.claims_below d i hi
  bound i := by
    have hplanned := planned_goto s c phase i
    have hcount := hclaims.count_le i
    have hbound := h.bound i
    show s.delivered i + _ ≤ _
    omega

omit [DecidableEq ι] in
theorem bounded_xack (h : Bounded n s) (i : Nat) : Bounded n (s.xack i) where
  nodup := h.nodup.sublist (List.filter_sublist.map _)
  below p hp := h.below p (List.mem_of_mem_filter hp)
  counted p hp := h.counted p (List.mem_of_mem_filter hp)
  undelivered := h.undelivered
  claims_nodup := h.claims_nodup
  claims_below := h.claims_below
  bound := h.bound

omit [Fintype ι] [DecidableEq ι] in
/-- What was read is below the next entry, and nothing before it is read again. -/
theorem last_xreadgroup {entries : List Nat} (hund : s.Undelivered entries) :
    s.last ≤ (s.xreadgroup entries).last ∧ ∀ i ∈ entries, i < (s.xreadgroup entries).last := by
  obtain ⟨hsorted, hentries⟩ := hund
  obtain rfl | hne := eq_or_ne entries []
  · exact ⟨Nat.le_refl _, fun _ h => absurd h List.not_mem_nil⟩
  · have hlast : (s.xreadgroup entries).last = entries.getLast hne + 1 := by
      show (entries.getLast?.map (· + 1)).getD s.last = _
      rw [List.getLast?_eq_some_getLast hne]
      rfl
    rw [hlast]
    refine ⟨Nat.le_succ_of_le (hentries _ (List.getLast_mem hne)).1, fun i hi => ?_⟩
    exact Nat.lt_succ_of_le ((hsorted.imp Nat.le_of_lt).rel_getLast hi)

omit [DecidableEq ι] in
/-- New entries are delivered once, and nobody claims them yet. -/
theorem bounded_xreadgroup {entries : List Nat} (hn : 1 ≤ n) (h : Bounded n s) (hund : s.Undelivered entries) :
    Bounded n (s.xreadgroup entries) := by
  obtain ⟨hlast, hread⟩ := last_xreadgroup hund
  obtain ⟨hsorted, hentries⟩ := hund
  have hnodup : entries.Nodup := hsorted.imp Nat.ne_of_lt
  have hdelivered (i : Nat) : (s.xreadgroup entries).delivered i = s.delivered i + entries.count i := rfl
  have hold {i : Nat} (hi : i < s.last) : entries.count i = 0 :=
    List.count_eq_zero.mpr fun hmem => absurd hi (Nat.not_lt_of_le (hentries i hmem).1)
  have hnew {i : Nat} (hmem : i ∈ entries) : s.delivered i + entries.count i = 1 := by
    rw [h.undelivered i (hentries i hmem).1, List.count_eq_one_of_mem hnodup hmem]
  refine ⟨?_, ?_, ?_, fun i hi => ?_, h.claims_nodup, fun c i hi => ?_, fun i => ?_⟩
  · show ((s.pending ++ entries.map fun i => (⟨i, 1⟩ : Pending)).map Pending.entry).Nodup
    have hentry : (entries.map fun i => (⟨i, 1⟩ : Pending)).map Pending.entry = entries := by
      rw [List.map_map]
      exact List.map_id _
    rw [List.map_append, hentry]
    refine List.nodup_append.mpr ⟨h.nodup, hnodup, ?_⟩
    rintro i hi j hj rfl
    obtain ⟨p, hp, rfl⟩ := List.mem_map.mp hi
    exact absurd (h.below p hp) (Nat.not_lt_of_le (hentries _ hj).1)
  · refine List.forall_mem_append.mpr ⟨fun p hp => Nat.lt_of_lt_of_le (h.below p hp) hlast, ?_⟩
    exact List.forall_mem_map.mpr hread
  · refine List.forall_mem_append.mpr ⟨fun p hp => ?_, List.forall_mem_map.mpr fun i hi => ?_⟩
    · rw [hdelivered, hold (h.below p hp), h.counted p hp, Nat.add_zero]
    · exact (hnew hi).symm
  · have hnot : i ∉ entries := fun hmem => absurd (hread i hmem) (Nat.not_lt_of_le hi)
    rw [hdelivered, h.undelivered i (Nat.le_trans hlast hi), List.count_eq_zero.mpr hnot]
  · exact Nat.lt_of_lt_of_le (h.claims_below c i hi) hlast
  · show s.delivered i + entries.count i + s.planned i ≤ _
    by_cases hmem : i ∈ entries
    · have hnone : s.planned i = 0 := planned_eq_zero fun c hc =>
        absurd (h.claims_below c i hc) (Nat.not_lt_of_le (hentries i hmem).1)
      rw [hnew hmem, hnone]
      omega
    · rw [List.count_eq_zero.mpr hmem]
      exact h.bound i

theorem mem_claim_ids {self : Consumer} {elapsed : Nat → Bool} {pending : List Pending}
    (h : i ∈ claim_ids self elapsed pending) :
    ∃ p ∈ pending, p.entry = i ∧ (p.times_delivered : Int) < self.max_retries := by
  obtain ⟨p, hp, rfl⟩ := List.mem_map.mp h
  obtain ⟨hpending, hclaim⟩ := List.mem_filter.mp hp
  exact ⟨p, hpending, rfl, (of_decide_eq_true hclaim).2⟩

/-- A consumer that looks adds itself to the others that are about to claim. -/
theorem bounded_pending (h : Bounded n s) (hretries : (config c).max_retries ≤ n) (elapsed : Nat → Bool)
    (hnone : (s.phase c).claims = []) : Bounded n (s.goto c (.giving_up
      (stale_ids (config c) s.xpending_range) (claim_ids (config c) elapsed s.xpending_range))) := by
  have hmem {i : Nat} (hi : i ∈ claim_ids (config c) elapsed s.xpending_range) :
      i < s.last ∧ s.delivered i < n := by
    obtain ⟨p, hp, rfl, hlt⟩ := mem_claim_ids hi
    have hpending : p ∈ s.pending := List.mem_of_mem_take hp
    rw [h.counted p hpending] at hlt
    exact ⟨h.below p hpending, by omega⟩
  have hnodup : (claim_ids (config c) elapsed s.xpending_range).Nodup :=
    h.nodup.sublist ((List.filter_sublist.trans (List.take_sublist _ _)).map _)
  refine ⟨h.nodup, h.below, h.counted, h.undelivered, fun d => ?_, fun d i hi => ?_, fun i => ?_⟩
  · rw [phase_goto]
    split
    · exact hnodup
    · exact h.claims_nodup d
  · rw [phase_goto] at hi
    split at hi
    · exact (hmem hi).1
    · exact h.claims_below d i hi
  · have hplanned := planned_goto s c (.giving_up (stale_ids (config c) s.xpending_range)
      (claim_ids (config c) elapsed s.xpending_range)) i
    rw [hnone, List.count_nil, Nat.add_zero] at hplanned
    show s.delivered i + _ ≤ _
    rw [hplanned]
    show s.delivered i + (s.planned i + (claim_ids (config c) elapsed s.xpending_range).count i) ≤ _
    by_cases hi : i ∈ claim_ids (config c) elapsed s.xpending_range
    · have hothers := planned_le (c := c) (i := i) h (by rw [hnone]; exact List.not_mem_nil)
      have hdelivered := (hmem hi).2
      rw [List.count_eq_one_of_mem hnodup hi]
      omega
    · rw [List.count_eq_zero.mpr hi]
      exact h.bound i

/-- A claim makes a delivery of what was about to be claimed. -/
theorem bounded_claim {entries : List Nat} {phase : Consumer.Phase} (h : Bounded n s)
    (hclaimed : s.Claimed (s.phase c).claims entries) (hphase : phase.claims = []) :
    Bounded n ((s.xclaim entries).goto c phase) := by
  obtain ⟨hsub, hpending⟩ := hclaimed
  have hnodup : entries.Nodup := (h.claims_nodup c).sublist hsub
  have hdelivered (i : Nat) : (s.xclaim entries).delivered i = s.delivered i + entries.count i := rfl
  have hentry : (s.xclaim entries).pending.map Pending.entry = s.pending.map Pending.entry := by
    show (s.pending.map _).map _ = _
    rw [List.map_map]
    refine List.map_congr_left fun p _ => ?_
    show (if p.entry ∈ entries then _ else p).entry = p.entry
    split <;> rfl
  have hlast : (s.xclaim entries).last = s.last := rfl
  refine ⟨?_, fun p hp => ?_, ?_, fun i hi => ?_, fun d => ?_, fun d i hi => ?_, fun i => ?_⟩
  · exact hentry.symm ▸ h.nodup
  · have hmem : p.entry ∈ s.pending.map Pending.entry := hentry ▸ List.mem_map_of_mem hp
    obtain ⟨q, hq, heq⟩ := List.mem_map.mp hmem
    rw [← heq]
    exact h.below q hq
  · refine List.forall_mem_map.mpr fun p hp => ?_
    show (if p.entry ∈ entries then _ else p).times_delivered = s.delivered _ + entries.count _
    split
    · rename_i hmem
      show p.times_delivered + 1 = s.delivered p.entry + entries.count p.entry
      rw [h.counted p hp, List.count_eq_one_of_mem hnodup hmem]
    · rename_i hmem
      rw [h.counted p hp, List.count_eq_zero.mpr hmem, Nat.add_zero]
  -- What was not delivered is not pending.
  · have hnot : i ∉ entries := by
      intro hmem
      obtain ⟨p, hp, rfl⟩ := hpending i hmem
      exact absurd (h.below p hp) (Nat.not_lt_of_le hi)
    show s.delivered i + entries.count i = 0
    rw [h.undelivered i hi, List.count_eq_zero.mpr hnot]
  · rw [phase_goto]
    split
    · rw [hphase]
      exact List.nodup_nil
    · exact h.claims_nodup d
  · rw [phase_goto] at hi
    split at hi
    · rw [hphase] at hi
      cases hi
    · exact h.claims_below d i hi
  -- A delivery that was planned has taken place.
  · have hplanned := planned_goto (s.xclaim entries) c phase i
    have hcount := hsub.count_le i
    have hbound := h.bound i
    have hsame : (s.xclaim entries).planned i = s.planned i := rfl
    have hclaims : ((s.xclaim entries).phase c).claims = (s.phase c).claims := rfl
    rw [hphase, List.count_nil, Nat.add_zero, hsame, hclaims] at hplanned
    show s.delivered i + entries.count i + _ ≤ _
    omega

theorem bounded_step {l : Label ι} (hn : 1 ≤ n) (hretries : ∀ c, (config c).max_retries ≤ n) (h : Bounded n s)
    (hstep : Step loads config s l s') : Bounded n s' := by
  have hdrop (entries : List Nat) : Bounded n (s.drop entries) := h.congr rfl rfl rfl rfl
  cases hstep with
  | xadd entry => exact h.congr rfl rfl rfl rfl
  | consume _ hund _ _ => exact bounded_goto (bounded_xreadgroup hn h hund) (List.nil_sublist _)
  | consume_lost _ hund => exact (bounded_xreadgroup hn h hund).congr rfl rfl rfl rfl
  | raised _ _ _ _ => exact bounded_goto (hdrop _) (List.nil_sublist _)
  | invalid _ _ _ _ => exact bounded_goto (hdrop _) (List.nil_sublist _)
  | handle _ _ _ _ => exact bounded_goto h (List.nil_sublist _)
  | @handled c claiming i todo ok _ =>
    have hhandled : Bounded n (s.handled i ok) := by
      cases ok <;> exact h.congr rfl rfl rfl rfl
    refine bounded_goto hhandled ?_
    cases ok <;> exact List.nil_sublist _
  | pending elapsed hc => exact bounded_pending h (hretries _) elapsed (by rw [hc]; rfl)
  | claim hc _ hclaimed => exact bounded_claim h (by rwa [hc]) rfl
  | @claim_lost c claims entries hc _ hclaimed =>
    have hclaim : Bounded n ((s.xclaim entries).goto c .idle) := bounded_claim h (by rwa [hc]) rfl
    exact hclaim.congr rfl rfl rfl rfl
  | next _ => exact bounded_goto h (List.nil_sublist _)
  | xack _ _ => exact bounded_goto (bounded_xack h _) (List.nil_sublist _)
  | xack_raised _ => exact bounded_goto h (List.nil_sublist _)
  | @give_up c i stale claims ok hc =>
    refine bounded_goto (bounded_xack h i) ?_
    show List.Sublist _ (s.phase c).claims
    rw [hc]
    cases ok
    · exact List.nil_sublist _
    · exact .refl _
  | stop => exact bounded_goto (hdrop _) (List.nil_sublist _)

/-- **How often an entry is handled.** If no consumer tries an entry more than `n` times, then in every run, however
the consumers interleave, fail and lose replies, an entry is delivered at most `n` times and once more for each
consumer but one; and its handlers have ended at most as often. -/
theorem delivered_at_most (hn : 1 ≤ n) (hretries : ∀ c, (config c).max_retries ≤ n)
    {steps : List (Group ι × Label ι)} (h : Lts.Path (Step loads config) init steps s) (i : Nat) :
    s.returned i + s.failed i ≤ s.delivered i ∧ s.delivered i ≤ n + (Fintype.card ι - 1) := by
  have hinv : Inv loads config s := (h.throughout inv_init fun _ _ _ => inv_step).1
  have hbounded : Bounded n s :=
    (h.throughout bounded_init fun _ _ _ hs hstep => bounded_step hn hretries hs hstep).1
  have haccount := hinv.account i
  have hbound := hbounded.bound i
  omega

/-- Two consumers that try an entry twice. -/
def twice (_ : Bool) : Consumer := ⟨1, 2⟩

/-- The handler of the first consumer has failed. -/
def failed_once : Group Bool := (running.handled 0 false).goto true (.processing false [])

/-- Then both have looked, and both are about to claim the entry. -/
def looked : Group Bool :=
  (((failed_once.xreadgroup []).goto false (.processing false [])).goto true (.giving_up [] [0])).goto false
    (.giving_up [] [0])

def claimed : Group Bool :=
  (((looked.xclaim [0]).goto true (.processing true [0])).xclaim [0]).goto false (.processing true [0])

theorem claimed_path : ∃ steps, Lts.Path (Step loads_heartbeat twice) init steps claimed := by
  obtain ⟨message, hmessage⟩ := receive_heartbeat ⟨"m", "c", "now"⟩
  have hrunning : Lts.Path (Step loads_heartbeat twice) init (runningSteps message) running :=
    .step (.step (.step .start (.xadd heartbeat))
      (.consume rfl ⟨by decide, by simp [init]⟩ (by decide) (by decide)))
      (.handle ⟨"m", "c", "now"⟩ rfl rfl hmessage)
  have hfailed : Step loads_heartbeat twice running (.handled true false) failed_once := .handled false rfl
  have hread : Step loads_heartbeat twice failed_once (.consume false [])
      ((failed_once.xreadgroup []).goto false (.processing false [])) :=
    .consume rfl ⟨by decide, fun _ h => absurd h List.not_mem_nil⟩ (by decide) (by decide)
  have hfirst : Step loads_heartbeat twice ((failed_once.xreadgroup []).goto false (.processing false []))
      (.pending true fun _ => true) (((failed_once.xreadgroup []).goto false (.processing false [])).goto true
        (.giving_up [] [0])) := .pending (fun _ => true) rfl
  have hsecond : Step loads_heartbeat twice (((failed_once.xreadgroup []).goto false
      (.processing false [])).goto true (.giving_up [] [0])) (.pending false fun _ => true) looked :=
    .pending (fun _ => true) rfl
  have hclaim : Step loads_heartbeat twice looked (.claim true [0])
      ((looked.xclaim [0]).goto true (.processing true [0])) :=
    .claim rfl (List.cons_ne_nil _ _) ⟨.refl _, by decide⟩
  have hagain : Step loads_heartbeat twice ((looked.xclaim [0]).goto true (.processing true [0]))
      (.claim false [0]) claimed := .claim rfl (List.cons_ne_nil _ _) ⟨.refl _, by decide⟩
  exact ⟨_, .step (.step (.step (.step (.step (.step hrunning hfailed) hread) hfirst) hsecond) hclaim) hagain⟩

/-- The entry is delivered a third time. -/
theorem delivered_at_most_sample : claimed.delivered 0 = 3 ∧
    claimed.returned 0 + claimed.failed 0 ≤ claimed.delivered 0 ∧
      claimed.delivered 0 ≤ 2 + (Fintype.card Bool - 1) :=
  claimed_path.elim fun _ h => ⟨rfl, delivered_at_most (by decide) (fun _ => Int.le_refl 2) h 0⟩

end Group

end Aqap.Sdk
