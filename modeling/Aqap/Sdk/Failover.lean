import Aqap.Py.Dict
import Aqap.Sdk.Consumer
import Mathlib.Algebra.Order.Field.Rat
import Mathlib.Tactic.Linarith
import Mathlib.Tactic.NormNum
import Mathlib.Tactic.Positivity

/-!
# Failover between consumers

One call of `_claim_pending` on the pending entries of the group. redis-py reports how long an entry has been
idle under `time_since_delivered`, in milliseconds; the consumer looks for `elapsed_time`, and takes 0 where
there is none.

* `claimed_iff`, `left_iff`: what a call claims, and what it leaves with its consumer.
* `failover_iff`: for which pending entries it claims those that are idle and not given up.
* `idle_unclaimed`: an entry that has been idle for a minute.
-/

namespace Aqap.Sdk

open Py Aqap.Core Transport

/-- An entry that is pending, as the server has it; the time is in milliseconds. -/
structure Delivery where
  consumer : String
  time_since_delivered : Nat
  times_delivered : Nat

/-- A dictionary of `xpending_range`, with its numbers under their keys. -/
structure PendingEntry where
  message_id : String
  consumer : String
  numbers : List (String × Int)

def Delivery.report (id : String) (d : Delivery) : PendingEntry where
  message_id := id
  consumer := d.consumer
  numbers := [("time_since_delivered", d.time_since_delivered), ("times_delivered", d.times_delivered)]

/-- `p.get(key, 0)` -/
def PendingEntry.get (p : PendingEntry) (key : String) : Int := (p.numbers.lookup key).getD 0

/-- The settings of a consumer that claims; the interval is in seconds. -/
structure Claimant where
  consumer_id : String
  claim_interval : ℚ
  max_retries : Int

/-- The pending entries of the group, with the entries that the call claimed and those that it processed. -/
structure Failover where
  pel : Dict String Delivery
  claimed : List String
  processed : List String

/-- `int(q)` -/
def trunc (q : ℚ) : Int := q.num.tdiv q.den

namespace Failover

def start (pel : Dict String Delivery) : Failover := ⟨pel, [], []⟩

variable (self : Failover)

def xack (id : String) : Failover := { self with pel := self.pel.pop id }

/-- `xpending_range(min="-", max="+", count=10)` -/
def xpending_range : List PendingEntry := (self.pel.items.take 10).map fun e => e.2.report e.1

/-- The entries that are pending and idle go to the consumer, and are returned. -/
def xclaim (consumer_id : String) (min_idle_time : Int) (message_ids : List String) :
    Except String (Failover × List String) :=
  if min_idle_time < 0 then .error "XCLAIM min_idle_time must be a non negative integer"
  else
    let claimed := message_ids.filter fun id =>
      (self.pel.get? id).any fun d => min_idle_time ≤ d.time_since_delivered
    .ok ({ self with
      pel := self.pel.filterMap fun id d =>
        some (if id ∈ claimed then ⟨consumer_id, 0, d.times_delivered + 1⟩ else d)
      claimed := self.claimed ++ claimed }, claimed)

end Failover

namespace Claimant

variable (consumer : Claimant)

/-- The entries that were delivered too often. -/
def stale_ids (pending : List PendingEntry) : List String :=
  (pending.filter fun p => consumer.max_retries ≤ p.get "times_delivered").map PendingEntry.message_id

/-- The entries that are claimed, by their `elapsed_time`: the key is missing, so it counts as 0. -/
def claim_ids (pending : List PendingEntry) : List String :=
  (pending.filter fun p => consumer.claim_interval ≤ p.get "elapsed_time" ∧
    p.get "times_delivered" < consumer.max_retries).map PendingEntry.message_id

-- `json.loads`, the defaults of a message, the fields of the entries and the handler.
variable (loads : String → Option Json) (fresh : String → Fresh) (stream : String → List (Text × Text))
  (handler : AQAPMessage → Except String Unit)

/-- Whatever is raised is counted only. -/
def _process_message (s : Failover) (msg_id : String) : Failover :=
  match receive loads (fresh msg_id) ⟨msg_id, stream msg_id⟩ with
  | .raised => { s with processed := s.processed ++ [msg_id] }
  | .invalid => { s with processed := s.processed ++ [msg_id] }.xack msg_id
  | .valid message =>
    match handler message with
    | .error _ => { s with processed := s.processed ++ [msg_id] }
    | .ok () => { s with processed := s.processed ++ [msg_id] }.xack msg_id

/-- The commands are executed, up to those that the client refuses. -/
def _claim_pending (s : Failover) : Failover × Except String Unit :=
  let pending := s.xpending_range
  if pending.isEmpty then (s, .ok ())
  else
    let s := (consumer.stale_ids pending).foldl Failover.xack s
    if (consumer.claim_ids pending).isEmpty then (s, .ok ())
    else
      match s.xclaim consumer.consumer_id (trunc (consumer.claim_interval * 1000)) (consumer.claim_ids pending) with
      | .error e => (s, .error e)
      | .ok (s, claimed) => (claimed.foldl (_process_message loads fresh stream handler) s, .ok ())

/-! ## What failover is -/

/-- The entry has been idle for the interval. -/
def Idle (d : Delivery) : Prop := consumer.claim_interval ≤ d.time_since_delivered / 1000

def Eligible (d : Delivery) : Prop := consumer.Idle d ∧ d.times_delivered < consumer.max_retries

/-- The entries that are idle and not given up are claimed and processed, each of them once; the entries that
are not idle stay with their consumers. -/
structure FailsOver (before : Dict String Delivery) (after : Failover) : Prop where
  claimed : ∀ id, id ∈ after.claimed ↔ ∃ d, before.get? id = some d ∧ consumer.Eligible d
  once : after.claimed.Nodup
  processed : after.processed = after.claimed
  left : ∀ id d, before.get? id = some d → ¬ consumer.Idle d →
    ∃ d', after.pel.get? id = some d' ∧ d'.consumer = d.consumer

/-- Every entry to be claimed is one of the first ten, and the interval is 0 if there is one; none of the first
ten has reached `max_retries` before it was idle. -/
def Scanned (pel : Dict String Delivery) : Prop :=
  (∀ id d, pel.get? id = some d → consumer.Eligible d →
    consumer.claim_interval ≤ 0 ∧ 0 ≤ trunc (consumer.claim_interval * 1000) ∧ (id, d) ∈ pel.items.take 10) ∧
  ∀ e ∈ pel.items.take 10, consumer.max_retries ≤ e.2.times_delivered → consumer.Idle e.2

/-! ## The commands -/

theorem get?_foldl_xack (s : Failover) (ids : List String) (id : String) :
    (ids.foldl Failover.xack s).pel.get? id = if id ∈ ids then none else s.pel.get? id := by
  induction ids generalizing s with
  | nil => simp
  | cons i ids ih =>
    rw [List.foldl_cons, ih]
    unfold Failover.xack
    rw [Dict.get?_pop]
    by_cases hi : id = i <;> simp [hi]

theorem claimed_foldl_xack (s : Failover) (ids : List String) :
    (ids.foldl Failover.xack s).claimed = s.claimed ∧ (ids.foldl Failover.xack s).processed = s.processed := by
  induction ids generalizing s with
  | nil => exact ⟨rfl, rfl⟩
  | cons i ids ih => exact ih _

theorem claimed_process (s : Failover) (msg_id : String) :
    (_process_message loads fresh stream handler s msg_id).claimed = s.claimed ∧
      (_process_message loads fresh stream handler s msg_id).processed = s.processed ++ [msg_id] := by
  unfold _process_message
  split
  · exact ⟨rfl, rfl⟩
  · exact ⟨rfl, rfl⟩
  · split
    · exact ⟨rfl, rfl⟩
    · exact ⟨rfl, rfl⟩

/-- Every entry that was claimed is processed. -/
theorem claimed_foldl_process (s : Failover) (ids : List String) :
    (ids.foldl (_process_message loads fresh stream handler) s).claimed = s.claimed ∧
      (ids.foldl (_process_message loads fresh stream handler) s).processed = s.processed ++ ids := by
  induction ids generalizing s with
  | nil => exact ⟨rfl, (List.append_nil _).symm⟩
  | cons i ids ih =>
    obtain ⟨hclaimed, hprocessed⟩ := claimed_process loads fresh stream handler s i
    obtain ⟨hclaimed', hprocessed'⟩ := ih (_process_message loads fresh stream handler s i)
    rw [List.foldl_cons, hclaimed', hprocessed', hclaimed, hprocessed]
    exact ⟨rfl, List.append_assoc ..⟩

theorem mem_stale_ids {pel : Dict String Delivery} {id : String} :
    id ∈ consumer.stale_ids (Failover.start pel).xpending_range ↔
      ∃ d, (id, d) ∈ pel.items.take 10 ∧ consumer.max_retries ≤ d.times_delivered := by
  unfold stale_ids Failover.xpending_range Failover.start
  rw [List.mem_map]
  constructor
  · rintro ⟨p, hp, rfl⟩
    obtain ⟨hmem, hstale⟩ := List.mem_filter.mp hp
    obtain ⟨e, he, rfl⟩ := List.mem_map.mp hmem
    exact ⟨e.2, he, of_decide_eq_true hstale⟩
  · rintro ⟨d, hd, hstale⟩
    refine ⟨d.report id, List.mem_filter.mpr ⟨List.mem_map_of_mem hd, ?_⟩, rfl⟩
    exact decide_eq_true hstale

/-- No entry has an `elapsed_time`: the interval is compared with 0. -/
theorem mem_claim_ids {pel : Dict String Delivery} {id : String} :
    id ∈ consumer.claim_ids (Failover.start pel).xpending_range ↔
      ∃ d, (id, d) ∈ pel.items.take 10 ∧ consumer.claim_interval ≤ 0 ∧ d.times_delivered < consumer.max_retries := by
  unfold claim_ids Failover.xpending_range Failover.start
  rw [List.mem_map]
  constructor
  · rintro ⟨p, hp, rfl⟩
    obtain ⟨hmem, hclaim⟩ := List.mem_filter.mp hp
    obtain ⟨e, he, rfl⟩ := List.mem_map.mp hmem
    exact ⟨e.2, he, of_decide_eq_true hclaim⟩
  · rintro ⟨d, hd, hclaim⟩
    refine ⟨d.report id, List.mem_filter.mpr ⟨List.mem_map_of_mem hd, ?_⟩, rfl⟩
    exact decide_eq_true hclaim

theorem nodup_claim_ids (pel : Dict String Delivery) :
    (consumer.claim_ids (Failover.start pel).xpending_range).Nodup := by
  have hreported : ((Failover.start pel).xpending_range.map PendingEntry.message_id).Nodup := by
    unfold Failover.xpending_range
    rw [List.map_map]
    exact pel.nodup.sublist ((List.take_sublist 10 pel.items).map Prod.fst)
  exact hreported.sublist (List.filter_sublist.map _)

theorem trunc_nonpos {q : ℚ} (h : q ≤ 0) : trunc q ≤ 0 := by
  unfold trunc
  have hnum : q.num ≤ 0 := Rat.num_nonpos.mpr h
  obtain ⟨n, hn⟩ := Int.eq_ofNat_of_zero_le (Int.neg_nonneg.mpr hnum)
  have heq : q.num = -(n : Int) := by omega
  rw [heq, Int.neg_tdiv]
  have := Int.tdiv_nonneg (Int.natCast_nonneg n) (Int.natCast_nonneg q.den)
  omega

/-- The state after the stale entries were given up. -/
def given_up (pel : Dict String Delivery) : Failover :=
  (consumer.stale_ids (Failover.start pel).xpending_range).foldl Failover.xack (.start pel)

/-- What a call does after it gave up the stale entries. -/
theorem claim_pending_cases (pel : Dict String Delivery) :
    ((consumer._claim_pending loads fresh stream handler (.start pel)).1 = consumer.given_up pel ∧
      (consumer.claim_ids (Failover.start pel).xpending_range = [] ∨ trunc (consumer.claim_interval * 1000) < 0)) ∨
    consumer.claim_ids (Failover.start pel).xpending_range ≠ [] ∧
      0 ≤ trunc (consumer.claim_interval * 1000) ∧ ∃ s claimed,
      (consumer.given_up pel).xclaim consumer.consumer_id (trunc (consumer.claim_interval * 1000))
        (consumer.claim_ids (Failover.start pel).xpending_range) = .ok (s, claimed) ∧
      (consumer._claim_pending loads fresh stream handler (.start pel)).1 =
        claimed.foldl (_process_message loads fresh stream handler) s := by
  unfold _claim_pending given_up
  by_cases hpending : (Failover.start pel).xpending_range = []
  · left
    rw [hpending]
    exact ⟨rfl, .inl rfl⟩
  · rw [if_neg (by simpa using hpending)]
    by_cases hids : consumer.claim_ids (Failover.start pel).xpending_range = []
    · left
      rw [if_pos (by simpa using hids)]
      exact ⟨rfl, .inl hids⟩
    · rw [if_neg (by simpa using hids)]
      unfold Failover.xclaim
      by_cases htime : trunc (consumer.claim_interval * 1000) < 0
      · left
        rw [if_pos htime]
        exact ⟨rfl, .inr htime⟩
      · right
        rw [if_neg htime]
        exact ⟨hids, Int.not_lt.mp htime, _, _, rfl, rfl⟩

/-- Giving up leaves the other entries as they are. -/
theorem get?_given_up (pel : Dict String Delivery) (id : String) :
    (consumer.given_up pel).pel.get? id =
      if id ∈ consumer.stale_ids (Failover.start pel).xpending_range then none else pel.get? id :=
  get?_foldl_xack ..

/-- An entry of the first ten that is not given up is claimed, if the interval is 0. -/
theorem claimed_iff (pel : Dict String Delivery) (id : String) :
    id ∈ (consumer._claim_pending loads fresh stream handler (.start pel)).1.claimed ↔
      0 ≤ trunc (consumer.claim_interval * 1000) ∧
        id ∈ consumer.claim_ids (Failover.start pel).xpending_range := by
  have hclaimed : (consumer.given_up pel).claimed = [] := (claimed_foldl_xack ..).1
  obtain ⟨hafter, hnone⟩ | ⟨-, htime, s, claimed, hxclaim, hafter⟩ :=
    consumer.claim_pending_cases loads fresh stream handler pel
  · rw [hafter, hclaimed]
    refine iff_of_false List.not_mem_nil ?_
    rintro ⟨htime, hmem⟩
    obtain hnil | hneg := hnone
    · rw [hnil] at hmem
      cases hmem
    · exact absurd htime (Int.not_le.mpr hneg)
  · rw [hafter, (claimed_foldl_process ..).1]
    unfold Failover.xclaim at hxclaim
    rw [if_neg (Int.not_lt.mpr htime), Except.ok.injEq, Prod.mk.injEq] at hxclaim
    obtain ⟨rfl, -⟩ := hxclaim
    rw [hclaimed, List.nil_append, List.mem_filter, get?_given_up]
    constructor
    · exact fun h => ⟨htime, h.1⟩
    · rintro ⟨-, hmem⟩
      refine ⟨hmem, ?_⟩
      obtain ⟨d, hd, hinterval, htimes⟩ := consumer.mem_claim_ids.mp hmem
      have hfresh : id ∉ consumer.stale_ids (Failover.start pel).xpending_range := by
        intro hstale
        obtain ⟨d', hd', htimes'⟩ := consumer.mem_stale_ids.mp hstale
        have hsame : some d = some d' := by
          rw [← Dict.mem_items_iff.mp (List.mem_of_mem_take hd),
            ← Dict.mem_items_iff.mp (List.mem_of_mem_take hd')]
        rw [Option.some.inj hsame] at htimes
        exact absurd htimes' (Int.not_le.mpr htimes)
      rw [if_neg hfresh, Dict.mem_items_iff.mp (List.mem_of_mem_take hd)]
      have hzero : trunc (consumer.claim_interval * 1000) ≤ 0 := trunc_nonpos (by linarith)
      simp only [Option.any_some, decide_eq_true_eq]
      omega

theorem nodup_claimed (pel : Dict String Delivery) :
    (consumer._claim_pending loads fresh stream handler (.start pel)).1.claimed.Nodup ∧
      (consumer._claim_pending loads fresh stream handler (.start pel)).1.processed =
        (consumer._claim_pending loads fresh stream handler (.start pel)).1.claimed := by
  have hclaimed : (consumer.given_up pel).claimed = [] ∧ (consumer.given_up pel).processed = [] :=
    claimed_foldl_xack ..
  obtain ⟨hafter, -⟩ | ⟨-, htime, s, claimed, hxclaim, hafter⟩ :=
    consumer.claim_pending_cases loads fresh stream handler pel
  · rw [hafter, hclaimed.1, hclaimed.2]
    exact ⟨List.nodup_nil, rfl⟩
  · rw [hafter, (claimed_foldl_process ..).1, (claimed_foldl_process ..).2]
    unfold Failover.xclaim at hxclaim
    rw [if_neg (Int.not_lt.mpr htime), Except.ok.injEq, Prod.mk.injEq] at hxclaim
    obtain ⟨rfl, rfl⟩ := hxclaim
    rw [hclaimed.1, hclaimed.2]
    exact ⟨(consumer.nodup_claim_ids pel).filter _, rfl⟩

/-- An entry that is not idle is left, unless it is given up. -/
theorem left_iff {pel : Dict String Delivery} {id : String} {d : Delivery} (hd : pel.get? id = some d)
    (hidle : ¬ consumer.Idle d) :
    (∃ d', (consumer._claim_pending loads fresh stream handler (.start pel)).1.pel.get? id = some d' ∧
      d'.consumer = d.consumer) ↔ id ∉ consumer.stale_ids (Failover.start pel).xpending_range := by
  have hpositive : ¬ consumer.claim_interval ≤ 0 := by
    intro hle
    apply hidle
    unfold Idle
    exact le_trans hle (by positivity)
  have hnil : consumer.claim_ids (Failover.start pel).xpending_range = [] := by
    apply List.eq_nil_iff_forall_not_mem.mpr
    intro id hmem
    obtain ⟨_, _, hle, _⟩ := consumer.mem_claim_ids.mp hmem
    exact hpositive hle
  have hafter :
      (consumer._claim_pending loads fresh stream handler (.start pel)).1.pel = (consumer.given_up pel).pel := by
    obtain ⟨hafter, -⟩ | ⟨hids, -⟩ := consumer.claim_pending_cases loads fresh stream handler pel
    · rw [hafter]
    · exact absurd hnil hids
  rw [hafter, get?_given_up]
  by_cases hstale : id ∈ consumer.stale_ids (Failover.start pel).xpending_range
  · simp [hstale]
  · simp [hstale, hd]

/-- **When failover works.** A call claims and processes exactly the entries that are idle and not given up, and
leaves the others that are not idle, exactly if every entry to be claimed is one of the first ten and the
interval is 0 where there is one, and none of the first ten reached `max_retries` before it was idle. -/
theorem failover_iff (pel : Dict String Delivery) :
    consumer.FailsOver pel (consumer._claim_pending loads fresh stream handler (.start pel)).1 ↔
      consumer.Scanned pel := by
  constructor
  · intro h
    refine ⟨fun id d hd heligible => ?_, fun e he hstale => ?_⟩
    · obtain ⟨htime, hmem⟩ := (consumer.claimed_iff loads fresh stream handler pel id).mp
        ((h.claimed id).mpr ⟨d, hd, heligible⟩)
      obtain ⟨d', hd', hinterval, -⟩ := consumer.mem_claim_ids.mp hmem
      have hsame : some d' = some d := by
        rw [← hd, Dict.mem_items_iff.mp (List.mem_of_mem_take hd')]
      rw [← Option.some.inj hsame]
      exact ⟨hinterval, htime, hd'⟩
    · by_contra hidle
      have hget := Dict.mem_items_iff.mp (List.mem_of_mem_take he)
      apply (consumer.left_iff loads fresh stream handler hget hidle).mp (h.left e.1 e.2 hget hidle)
      exact consumer.mem_stale_ids.mpr ⟨e.2, he, hstale⟩
  · rintro ⟨heligible, hstale⟩
    obtain ⟨honce, hprocessed⟩ := consumer.nodup_claimed loads fresh stream handler pel
    refine ⟨fun id => ?_, honce, hprocessed, fun id d hd hidle => ?_⟩
    · rw [claimed_iff, mem_claim_ids]
      constructor
      · rintro ⟨-, d, hd, hinterval, htimes⟩
        refine ⟨d, Dict.mem_items_iff.mp (List.mem_of_mem_take hd), ?_, htimes⟩
        unfold Idle
        exact le_trans hinterval (by positivity)
      · rintro ⟨d, hd, hmeets⟩
        obtain ⟨hinterval, htime, hmem⟩ := heligible id d hd hmeets
        exact ⟨htime, d, hmem, hinterval, hmeets.2⟩
    · apply (consumer.left_iff loads fresh stream handler hd hidle).mpr
      intro hmem
      obtain ⟨d', hd', htimes⟩ := consumer.mem_stale_ids.mp hmem
      have hsame : some d' = some d := by
        rw [← hd, Dict.mem_items_iff.mp (List.mem_of_mem_take hd')]
      rw [Option.some.inj hsame] at hd' htimes
      exact hidle (hstale (id, d) hd' htimes)

/-- An entry of a consumer that stopped a minute ago. -/
def abandoned : Dict String Delivery := .set .empty "1-0" ⟨"worker-1", 60000, 1⟩

/-- Another consumer with the settings of the default does not claim it. -/
theorem idle_unclaimed :
    ¬ ∀ (consumer : Claimant) (loads : String → Option Json) (fresh : String → Fresh)
      (stream : String → List (Text × Text)) (handler : AQAPMessage → Except String Unit)
      (pel : Dict String Delivery),
      consumer.FailsOver pel (consumer._claim_pending loads fresh stream handler (.start pel)).1 := by
  intro h
  have hscanned := (failover_iff ⟨"worker-2", 30, 3⟩ (fun _ => none) (fun _ => ⟨"", "", ""⟩) (fun _ => [])
    (fun _ => .ok ()) abandoned).mp (h _ _ _ _ _ _)
  have heligible : Eligible ⟨"worker-2", 30, 3⟩ ⟨"worker-1", 60000, 1⟩ := by
    unfold Eligible Idle
    norm_num
  obtain ⟨hinterval, -⟩ := hscanned.1 "1-0" _ rfl heligible
  norm_num at hinterval

end Claimant

end Aqap.Sdk
