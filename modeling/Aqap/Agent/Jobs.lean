import Aqap.Agent.Schedule
import Aqap.Async.Co
import Aqap.Async.Dealing
import Aqap.Core.Message
import Aqap.Py.Dict
import Mathlib.Algebra.Order.Floor.Ring
import Mathlib.Data.Rat.Floor

/-!
# The jobs of the scheduler

`_schedule_loop` publishes a TASK_DISPATCH for each entry that is due. Its trace id is made of the index of the entry
and the second in which it is due. A publish that raises ends the loop.

* `fired_until`: the loop publishes what `schedule_loop` says, up to the first publish that raises.
* `jobs_distinct`: no two jobs have the same trace id.
-/

namespace Aqap

open Py Aqap.Core Async

/-- An entry of the schedule. -/
structure ScheduleEntry where
  cron : CronSchedule
  topic : String
  payload : List (String × Json)

/-- One turn of the loop: its time, and what the runtime and the transport answer for the `i`-th entry. -/
structure LoopTurn where
  now : Rat
  fresh : Nat → Fresh
  isoformat : Nat → String
  published : Nat → Except Exc Unit

/-- What was handed to `publish`, for the `i`-th entry. -/
structure Sent where
  i : Nat
  now : Rat
  topic : String
  message : Message

/-- `int(now)` -/
def int_of_time (now : Rat) : Int := if 0 ≤ now then ⌊now⌋ else ⌈now⌉

namespace ScheduleEntry

/-- The payload of a job: that of the entry, with the time and the number. -/
def payload_at (self : ScheduleEntry) (i : Nat) (now : Rat) (scheduled_at : String) : List (String × Json) :=
  let payload :=
    if (self.payload.lookup "task_id").isSome then self.payload
    else Dict.setItem "task_id" (.str ("sched-" ++ toString i ++ "-" ++ toString (int_of_time now))) self.payload
  Dict.setItem "scheduled_at" (.str scheduled_at) payload

/-- The trace id of a job, of the second in which it is sent. -/
def trace_id (agent_id : String) (i : Nat) (now : Rat) : String :=
  "sched-" ++ agent_id ++ "-" ++ toString i ++ "-" ++ toString (int_of_time now)

/-- The task of the `i`-th entry in a turn. -/
def message (self : ScheduleEntry) (agent_id : String) (turn : LoopTurn) (i : Nat) : Message :=
  { task_dispatch (turn.fresh i) agent_id (self.payload_at i turn.now (turn.isoformat i)) with
    trace_id := .str (trace_id agent_id i turn.now) }

end ScheduleEntry

/-- What ends the loop: a cron string that is no number, or a publish that raises. -/
inductive LoopError where
  | int (e : IntError)
  | publish (e : Exc)

/-- A turn: when the entries ran last, what was handed to `publish`, and whether anything raised. -/
structure JobPass where
  last_runs : List Rat
  sent : List Sent
  result : Except LoopError Unit

variable (agent_id : String)

/-- The `for` of `_schedule_loop`, from the `i`-th entry on. -/
def job_pass (turn : LoopTurn) (i : Nat) : List ScheduleEntry → List Rat → JobPass
  | job :: jobs, last :: last_runs =>
    match job.cron.next_seconds with
    | .error e => ⟨last :: last_runs, [], .error (.int e)⟩
    | .ok interval =>
      if interval ≤ turn.now - last then
        let sent := Sent.mk i turn.now job.topic (job.message agent_id turn i)
        match turn.published i with
        | .error e => ⟨last :: last_runs, [sent], .error (.publish e)⟩
        | .ok () =>
          let rest := job_pass turn (i + 1) jobs last_runs
          ⟨turn.now :: rest.last_runs, sent :: rest.sent, rest.result⟩
      else
        let rest := job_pass turn (i + 1) jobs last_runs
        ⟨last :: rest.last_runs, rest.sent, rest.result⟩
  | _, last_runs => ⟨last_runs, [], .ok ()⟩

/-- `_schedule_loop`, in as many turns as it is running. -/
def job_loop (jobs : List ScheduleEntry) (last_runs : List Rat) : List LoopTurn → List Sent × Except LoopError Unit
  | [] => ([], .ok ())
  | turn :: turns =>
    let pass := job_pass agent_id turn 0 jobs last_runs
    match pass.result with
    | .error e => (pass.sent, .error e)
    | .ok () =>
      let rest := job_loop jobs pass.last_runs turns
      (pass.sent ++ rest.1, rest.2)

/-- The loop after `on_start`. -/
def jobs_run (jobs : List ScheduleEntry) (turns : List LoopTurn) : List Sent × Except LoopError Unit :=
  job_loop agent_id jobs (List.replicate jobs.length 0) turns

/-! ## What is sent -/

variable {agent_id} {turn : LoopTurn} {jobs : List ScheduleEntry} {last_runs : List Rat} {i : Nat}

/-- When and for which entry a message was sent. -/
def Sent.slot (sent : Sent) : Nat × Rat := (sent.i, sent.now)

/-- A turn sends what is due, up to a publish that raises. -/
theorem job_pass_until : (job_pass agent_id turn i jobs last_runs).sent.map Sent.slot <+:
      (one_pass turn.now i (jobs.map ScheduleEntry.cron) last_runs).fired ∧
    ((job_pass agent_id turn i jobs last_runs).result = .ok () →
      (job_pass agent_id turn i jobs last_runs).sent.map Sent.slot =
          (one_pass turn.now i (jobs.map ScheduleEntry.cron) last_runs).fired ∧
        (job_pass agent_id turn i jobs last_runs).last_runs =
          (one_pass turn.now i (jobs.map ScheduleEntry.cron) last_runs).last_runs ∧
        (one_pass turn.now i (jobs.map ScheduleEntry.cron) last_runs).result = .ok ()) := by
  induction jobs generalizing i last_runs with
  | nil => exact ⟨List.prefix_refl _, fun _ => ⟨rfl, rfl, rfl⟩⟩
  | cons job jobs ih =>
    cases last_runs with
    | nil => exact ⟨List.prefix_refl _, fun _ => ⟨rfl, rfl, rfl⟩⟩
    | cons last last_runs =>
      obtain ⟨huntil, hok⟩ := @ih last_runs (i + 1)
      rw [List.map_cons, job_pass, one_pass]
      cases job.cron.next_seconds with
      | error e => exact ⟨List.prefix_refl _, fun h => by cases h⟩
      | ok interval =>
        dsimp only
        by_cases hdue : interval ≤ turn.now - last
        · rw [if_pos hdue, if_pos hdue]
          cases turn.published i with
          | error e => exact ⟨(List.prefix_cons_inj _).mpr (List.nil_prefix), fun h => by cases h⟩
          | ok u =>
            refine ⟨(List.prefix_cons_inj _).mpr huntil, fun h => ?_⟩
            obtain ⟨hsent, hlast, hresult⟩ := hok h
            exact ⟨congrArg (_ :: ·) hsent, congrArg (_ :: ·) hlast, hresult⟩
        · rw [if_neg hdue, if_neg hdue]
          refine ⟨huntil, fun h => ?_⟩
          obtain ⟨hsent, hlast, hresult⟩ := hok h
          exact ⟨hsent, congrArg (_ :: ·) hlast, hresult⟩

/-- **The loop publishes what is due**, up to a publish that raises. -/
theorem fired_until (turns : List LoopTurn) : (job_loop agent_id jobs last_runs turns).1.map Sent.slot <+:
    (schedule_loop (jobs.map ScheduleEntry.cron) last_runs (turns.map LoopTurn.now)).1 := by
  induction turns generalizing last_runs with
  | nil => exact List.prefix_refl _
  | cons turn turns ih =>
    obtain ⟨huntil, hok⟩ := @job_pass_until agent_id turn jobs last_runs 0
    rw [List.map_cons, job_loop, schedule_loop]
    cases hresult : (job_pass agent_id turn 0 jobs last_runs).result with
    | error e =>
      dsimp only
      refine huntil.trans ?_
      cases (one_pass turn.now 0 (jobs.map ScheduleEntry.cron) last_runs).result with
      | error e => exact List.prefix_refl _
      | ok u => exact List.prefix_append _ _
    | ok u =>
      obtain ⟨hsent, hlast, hpassed⟩ := hok hresult
      rw [hpassed]
      dsimp only
      rw [List.map_append, hsent, hlast]
      exact (List.prefix_append_right_inj _).mpr ih

/-! ## Texts of numbers -/

theorem repr_inj {m n : Nat} (h : (toString m).toList = (toString n).toList) : m = n := by
  rw [Nat.toString_eq_repr, Nat.toString_eq_repr, Nat.toList_repr, Nat.toList_repr] at h
  rw [← Nat.ofDigitChars_ten_toDigits (n := m), h, Nat.ofDigitChars_ten_toDigits]

/-- What stands before the first `-` of an id is a number. -/
theorem split_at_dash {m n : Nat} {rest rest' : List Char}
    (h : (toString m).toList ++ '-' :: rest = (toString n).toList ++ '-' :: rest') : m = n ∧ rest = rest' := by
  have hdigits (n : Nat) (rest : List Char) :
      ((toString n).toList ++ '-' :: rest).takeWhile Char.isDigit = (toString n).toList := by
    rw [List.takeWhile_append_of_pos, List.takeWhile_cons_of_neg (by decide), List.append_nil]
    intro c hc
    rw [Nat.toString_eq_repr, Nat.toList_repr] at hc
    exact Nat.isDigit_of_mem_toDigits (by decide) (by decide) hc
  have hsame := congrArg (List.takeWhile Char.isDigit) h
  rw [hdigits, hdigits] at hsame
  rw [hsame] at h
  exact ⟨repr_inj hsame, (List.cons.inj (List.append_cancel_left h)).2⟩

theorem int_of_time_nonneg {now : Rat} (h : 0 ≤ now) : ∃ n : Nat, int_of_time now = n ∧ ⌊now⌋ = n := by
  obtain ⟨n, hn⟩ := Int.eq_ofNat_of_zero_le (Int.floor_nonneg.mpr h)
  exact ⟨n, by rw [int_of_time, if_pos h, hn], hn⟩

/-- A trace id tells the entry and the second. -/
theorem trace_id_inj {i j : Nat} {now now' : Rat} (hnow : 0 ≤ now) (hnow' : 0 ≤ now')
    (h : ScheduleEntry.trace_id agent_id i now = ScheduleEntry.trace_id agent_id j now') :
    i = j ∧ ⌊now⌋ = ⌊now'⌋ := by
  obtain ⟨m, hm, hfloor⟩ := int_of_time_nonneg hnow
  obtain ⟨n, hn, hfloor'⟩ := int_of_time_nonneg hnow'
  have hchars := congrArg String.toList h
  unfold ScheduleEntry.trace_id at hchars
  rw [hm, hn] at hchars
  simp only [String.toList_append, List.append_assoc] at hchars
  have htail := List.append_cancel_left (List.append_cancel_left (List.append_cancel_left hchars))
  obtain ⟨hindex, htext⟩ := split_at_dash htail
  exact ⟨hindex, by rw [hfloor, hfloor', repr_inj htext]⟩

/-! ## Distinct jobs -/

theorem lt_of_mem_one_pass {now : Rat} {all : List CronSchedule} :
    ∀ e ∈ (one_pass now i all last_runs).fired, e.1 < i + all.length := by
  induction all generalizing i last_runs with
  | nil => exact fun _ h => absurd h List.not_mem_nil
  | cons schedule all ih =>
    cases last_runs with
    | nil => exact fun _ h => absurd h List.not_mem_nil
    | cons last last_runs =>
      have hrest : ∀ e ∈ (one_pass now (i + 1) all last_runs).fired, e.1 < i + (all.length + 1) := by
        intro e he
        have hlt := ih e he
        omega
      rw [one_pass]
      cases schedule.next_seconds with
      | error e => exact fun _ h => absurd h List.not_mem_nil
      | ok n =>
        dsimp only
        split
        · intro e he
          obtain rfl | he := List.mem_cons.mp he
          · rw [List.length_cons]
            omega
          · exact hrest e he
        · exact hrest

theorem lt_of_mem_schedule_loop {all : List CronSchedule} (nows : List Rat) :
    ∀ e ∈ (schedule_loop all last_runs nows).1, e.1 < all.length := by
  induction nows generalizing last_runs with
  | nil => exact fun _ h => absurd h List.not_mem_nil
  | cons now nows ih =>
    have hpass : ∀ e ∈ (one_pass now 0 all last_runs).fired, e.1 < all.length := fun e he =>
      (Nat.zero_add all.length) ▸ lt_of_mem_one_pass e he
    rw [schedule_loop]
    cases (one_pass now 0 all last_runs).result with
    | error e => exact hpass
    | ok u => exact List.forall_mem_append.mpr ⟨hpass, ih⟩

/-- The times of an entry are a second apart, at least. -/
theorem fired_apart {all : List CronSchedule} (hsound : ∀ schedule ∈ all, schedule.Sound) (nows : List Rat) :
    ∀ i, (fired_by i (schedule_loop all (List.replicate all.length 0) nows).1).Pairwise fun t t' => 1 ≤ t' - t := by
  intro i
  have hpos : ∀ schedule ∈ all, ∃ n, schedule.next_seconds = .ok n ∧ 0 < n := fun schedule hmem =>
    CronSchedule.next_seconds_pos_iff.mpr (hsound schedule hmem)
  have hreadable : Readable all := fun schedule hmem => (hpos schedule hmem).imp fun _ hn => hn.1
  cases hschedule : all[i]? with
  | none =>
    have hnone : fired_by i (schedule_loop all (List.replicate all.length 0) nows).1 = [] := by
      rw [fired_by, List.map_eq_nil_iff, List.filter_eq_nil_iff]
      intro e he
      have hlt := lt_of_mem_schedule_loop nows e he
      have hle := List.getElem?_eq_none_iff.mp hschedule
      rw [decide_eq_true_eq]
      omega
    rw [hnone]
    exact .nil
  | some schedule =>
    obtain ⟨n, hn, hnpos⟩ := hpos schedule (List.mem_of_getElem? hschedule)
    have hlast : (List.replicate all.length (0 : Rat))[i]? = some 0 := by
      obtain ⟨hi, -⟩ := List.getElem?_eq_some_iff.mp hschedule
      rw [List.getElem?_replicate, if_pos hi]
    rw [fired_by_loop hreadable hschedule hlast hn]
    have hone : (1 : Rat) ≤ n := by exact_mod_cast hnpos
    exact (fires_spaced hnpos 0 nows).2.imp fun h => hone.trans h

/-- Everything that is sent carries its own trace id. -/
def Sent.Traced (agent_id : String) (sent : Sent) : Prop :=
  sent.message.trace_id = .str (ScheduleEntry.trace_id agent_id sent.i sent.now)

theorem traced_job_pass : ∀ sent ∈ (job_pass agent_id turn i jobs last_runs).sent,
    sent.Traced agent_id ∧ sent.now = turn.now := by
  induction jobs generalizing i last_runs with
  | nil => exact fun _ h => absurd h List.not_mem_nil
  | cons job jobs ih =>
    cases last_runs with
    | nil => exact fun _ h => absurd h List.not_mem_nil
    | cons last last_runs =>
      rw [job_pass]
      cases job.cron.next_seconds with
      | error e => exact fun _ h => absurd h List.not_mem_nil
      | ok interval =>
        dsimp only
        split
        · cases turn.published i with
          | error e => exact List.forall_mem_singleton.mpr ⟨rfl, rfl⟩
          | ok u => exact List.forall_mem_cons.mpr ⟨⟨rfl, rfl⟩, ih⟩
        · exact ih

theorem traced_job_loop (turns : List LoopTurn) : ∀ sent ∈ (job_loop agent_id jobs last_runs turns).1,
    sent.Traced agent_id ∧ ∃ turn ∈ turns, sent.now = turn.now := by
  induction turns generalizing last_runs with
  | nil => exact fun _ h => absurd h List.not_mem_nil
  | cons turn turns ih =>
    have hpass : ∀ sent ∈ (job_pass agent_id turn 0 jobs last_runs).sent,
        sent.Traced agent_id ∧ ∃ turn' ∈ turn :: turns, sent.now = turn'.now := fun sent hsent =>
      (traced_job_pass sent hsent).imp_right fun h => ⟨turn, List.mem_cons_self, h⟩
    rw [job_loop]
    cases (job_pass agent_id turn 0 jobs last_runs).result with
    | error e => exact hpass
    | ok u =>
      refine List.forall_mem_append.mpr ⟨hpass, fun sent hsent => ?_⟩
      obtain ⟨htraced, turn', hturn', hnow⟩ := ih sent hsent
      exact ⟨htraced, turn', List.mem_cons_of_mem _ hturn', hnow⟩

/-- **Every job has a trace of its own.** If the intervals are positive and the clock is not before the epoch, no two
messages that a scheduler hands to `publish` have the same trace id, in any number of turns, however the clock is
set in between and whichever publish raises. -/
theorem jobs_distinct (agent_id : String) {jobs : List ScheduleEntry} (hsound : ∀ job ∈ jobs, job.cron.Sound)
    {turns : List LoopTurn} (hnow : ∀ turn ∈ turns, 0 ≤ turn.now) :
    ((jobs_run agent_id jobs turns).1.map fun sent => sent.message.trace_id).Pairwise (· ≠ ·) := by
  have hsound' : ∀ schedule ∈ jobs.map ScheduleEntry.cron, schedule.Sound := List.forall_mem_map.mpr hsound
  have hapart := pairwise_of_usedBy (fired_apart hsound' (turns.map LoopTurn.now))
  rw [List.length_map] at hapart
  have hslots : ((jobs_run agent_id jobs turns).1.map Sent.slot).Pairwise fun e e' => e.1 = e'.1 → 1 ≤ e'.2 - e.2 :=
    hapart.sublist (fired_until turns).sublist
  refine List.pairwise_map.mpr ((List.pairwise_map.mp hslots).imp_of_mem ?_)
  intro sent sent' hsent hsent' hspaced heq
  obtain ⟨htraced, turn, hturn, hturn_now⟩ := traced_job_loop turns sent hsent
  obtain ⟨htraced', turn', hturn', hturn_now'⟩ := traced_job_loop turns sent' hsent'
  rw [htraced, htraced', Json.str.injEq] at heq
  obtain ⟨hindex, hfloor⟩ := trace_id_inj (hturn_now ▸ hnow turn hturn) (hturn_now' ▸ hnow turn' hturn') heq
  have hlater : sent.now + 1 ≤ sent'.now := by
    have hgap : 1 ≤ sent'.now - sent.now := hspaced hindex
    linarith
  have hfloor_lt := Int.floor_mono hlater
  rw [Int.floor_add_one, hfloor] at hfloor_lt
  omega

/-- Two entries in three turns; the last publish raises. -/
theorem jobs_distinct_sample :
    let job (cron : String) : ScheduleEntry := ⟨.new cron, Topic.AGENT_PROBE, []⟩
    let turn (now : Rat) (published : Nat → Except Exc Unit) : LoopTurn :=
      ⟨now, fun _ => ⟨"", "", ""⟩, fun _ => "", published⟩
    let answers := fun i => if i = 1 then .error (.error "closed") else .ok ()
    let turns := [turn 100 fun _ => .ok (), turn (201 / 2) fun _ => .ok (), turn 110 answers]
    let sent := (jobs_run "scheduler-1" [job "*/10s", job "*/5s"] turns).1
    sent.map Sent.slot = [(0, 100), (1, 100), (0, 110), (1, 110)] ∧
      (sent.map fun sent => sent.message.trace_id).Pairwise (· ≠ ·) := by
  intro job turn answers turns sent
  have hpositive : ∀ cron ∈ ["*/10s", "*/5s"], (job cron).cron.Sound := by
    intro cron hcron
    refine CronSchedule.next_seconds_pos_iff.mp ?_
    rcases List.mem_cons.mp hcron with rfl | hcron
    · exact ⟨10, by decide +kernel, by decide⟩
    · obtain rfl := List.mem_singleton.mp hcron
      exact ⟨5, by decide +kernel, by decide⟩
  refine ⟨by decide +kernel, jobs_distinct "scheduler-1" ?_ ?_⟩
  · exact List.forall_mem_cons.mpr
      ⟨hpositive _ (by decide), List.forall_mem_singleton.mpr (hpositive _ (by decide))⟩
  · simp [turns, turn]
    norm_num

end Aqap
