import Aqap.Async.Lts
import Aqap.Sdk.Message
import Aqap.Transport.RedisStreams
import Mathlib.Algebra.BigOperators.Group.Finset.Basic

/-!
# Consumers of the SDK

The consumers of a group read new entries (`_consume_once`) and look at what is pending
(`_claim_pending`): an entry whose delivery counter has reached `max_retries` is given up with an `XACK`,
one that has been idle is claimed. The counter counts deliveries, also those that have not ended.

* `Inv.account`: every delivery of an entry is in progress, or has ended in one of three ways.
* `acked_iff`: in a run, an entry is acknowledged only if its handler returned, its envelope is invalid or
  its handler has failed `max_retries` times, exactly if no consumer gives an entry up while the deliveries
  that have not ended in a failure leave less than `max_retries` (`CountedOut`).
* `in_progress_dropped`: an entry that is given up while its handler runs.
-/

namespace Aqap.Sdk

open Py Aqap.Core Async Transport

/-- What `_process_message` makes of an entry before it calls the handler. -/
inductive Receipt where
  /-- An exception is raised. -/
  | raised
  /-- `validate_message` finds errors. -/
  | invalid
  | valid (message : AQAPMessage)

/-- `raw`: the field `json`, or the first value if it is missing or empty; `none` is a failed
decoding. -/
def raw (data : List (Text × Text)) : Option String :=
  (((data.lookup (.str "json")).getD (.str "")).decode).bind fun raw =>
    if raw ≠ "" then some raw
    else
      match data with
      | (_, v) :: _ => v.decode
      | [] => some ""

/-- `_process_message`, up to the call of the handler; `loads` is `json.loads`. An envelope that is no
object raises in `validate_message`. -/
def receive (loads : String → Option Json) (fresh : Fresh) (entry : Entry) : Receipt :=
  match (raw entry.data).bind loads with
  | some (.obj data) =>
    match validate_message data with
    | .error _ => .raised
    | .ok [] =>
      match AQAPMessage.from_dict fresh data with
      | .error _ => .raised
      | .ok message => .valid message
    | .ok _ => .invalid
  | _ => .raised

/-- Where a consumer is. `claiming` tells the loop over claimed entries from the one over new ones. -/
inductive Consumer.Phase where
  | idle
  /-- In front of the next entry of a loop. -/
  | processing (claiming : Bool) (todo : List Nat)
  /-- The handler of an entry runs. -/
  | handling (claiming : Bool) (entry : Nat) (todo : List Nat)
  /-- At the `XACK` of an entry. -/
  | acking (claiming : Bool) (entry : Nat) (todo : List Nat)
  /-- `_claim_pending` has the entries to give up, and those to claim. -/
  | giving_up (stale claims : List Nat)

/-- The entries whose deliveries a consumer has not finished. -/
def Consumer.Phase.entries : Consumer.Phase → List Nat
  | processing _ todo => todo
  | handling _ entry todo => entry :: todo
  | acking _ _ todo => todo
  | _ => []

/-- The settings of a consumer. -/
structure Consumer where
  batch_size : Int
  max_retries : Int

/-- An entry that is pending. -/
structure Pending where
  entry : Nat
  times_delivered : Nat

/-- A group with its consumers and its stream. An entry is known by its place in the stream. -/
structure Group (ι : Type) where
  stream : List Entry
  /-- The place after the last entry that was delivered. -/
  last : Nat
  pending : List Pending
  phase : ι → Consumer.Phase
  /-- How often an entry was delivered. -/
  delivered : Nat → Nat
  /-- How many calls of the handler of an entry have returned. -/
  returned : Nat → Nat
  /-- How many have raised. -/
  failed : Nat → Nat
  /-- How many deliveries were lost, or ended before the handler did. -/
  unhandled : Nat → Nat

namespace Group

variable {ι : Type}

def init : Group ι where
  stream := []
  last := 0
  pending := []
  phase _ := .idle
  delivered _ := 0
  returned _ := 0
  failed _ := 0
  unhandled _ := 0

/-! ## The commands -/

section

variable (self : Group ι)

/-- `XREADGROUP` with the id `>` -/
def xreadgroup (entries : List Nat) : Group ι :=
  { self with
    last := (entries.getLast?.map (· + 1)).getD self.last
    pending := self.pending ++ entries.map fun i => ⟨i, 1⟩
    delivered := fun i => self.delivered i + entries.count i }

/-- `XACK`: the entry is not pending any more. -/
def xack (i : Nat) : Group ι :=
  { self with pending := self.pending.filter fun p => p.entry ≠ i }

/-- `XCLAIM`, of entries that are pending. -/
def xclaim (entries : List Nat) : Group ι :=
  { self with
    pending := self.pending.map fun p =>
      if p.entry ∈ entries then { p with times_delivered := p.times_delivered + 1 } else p
    delivered := fun i => self.delivered i + entries.count i }

/-- `xpending_range(count=10)` -/
def xpending_range : List Pending := self.pending.take 10

/-- A consumer goes on to the next place in its code. -/
def goto [DecidableEq ι] (c : ι) (phase : Consumer.Phase) : Group ι :=
  { self with phase := Function.update self.phase c phase }

/-- Deliveries of the entries end without their handlers. -/
def drop (entries : List Nat) : Group ι :=
  { self with unhandled := fun i => self.unhandled i + entries.count i }

/-- The handler of the entry has returned, or raised. -/
def handled (i : Nat) (ok : Bool) : Group ι :=
  if ok then { self with returned := Function.update self.returned i (self.returned i + 1) }
  else { self with failed := Function.update self.failed i (self.failed i + 1) }

end

/-- `stale_ids` -/
def stale_ids (self : Consumer) (pending : List Pending) : List Nat :=
  (pending.filter fun p => self.max_retries ≤ p.times_delivered).map Pending.entry

/-- `claim_ids`; `elapsed` tells which of them have been idle for `claim_interval`. -/
def claim_ids (self : Consumer) (elapsed : Nat → Bool) (pending : List Pending) : List Nat :=
  (pending.filter fun p => elapsed p.entry ∧ p.times_delivered < self.max_retries).map Pending.entry

/-- What may happen. -/
inductive Label (ι : Type) where
  | xadd (entry : Entry)
  | consume (c : ι) (entries : List Nat)
  | consume_lost (c : ι) (entries : List Nat)
  | raised (c : ι)
  | invalid (c : ι)
  | handle (c : ι) (message : AQAPMessage)
  | handled (c : ι) (ok : Bool)
  | pending (c : ι) (elapsed : Nat → Bool)
  | claim (c : ι) (entries : List Nat)
  | claim_lost (c : ι) (entries : List Nat)
  | next (c : ι)
  | xack (c : ι) (entry : Nat) (ok : Bool)
  | xack_raised (c : ι)
  | stop (c : ι)

/-- What `XREADGROUP` returns: some of the entries that were never delivered, in their order. -/
def Undelivered (s : Group ι) (entries : List Nat) : Prop :=
  entries.Pairwise (· < ·) ∧ ∀ i ∈ entries, s.last ≤ i ∧ i < s.stream.length

/-- What `XCLAIM` returns: those of the entries that are still pending and idle. -/
def Claimed (s : Group ι) (claims entries : List Nat) : Prop :=
  entries.Sublist claims ∧ ∀ i ∈ entries, ∃ p ∈ s.pending, p.entry = i

/-- A command of a consumer, as the server carries it out. -/
inductive Step [DecidableEq ι] (loads : String → Option Json) (config : ι → Consumer) :
    Group ι → Label ι → Group ι → Prop
  | xadd {s : Group ι} (entry : Entry) :
      Step loads config s (.xadd entry) { s with stream := s.stream ++ [entry] }
  | consume {s : Group ι} {c : ι} {entries : List Nat} : s.phase c = .idle → s.Undelivered entries →
      1 ≤ (config c).batch_size → entries.length ≤ (config c).batch_size →
      Step loads config s (.consume c entries) ((s.xreadgroup entries).goto c (.processing false entries))
  /-- The reply of `XREADGROUP` does not arrive. -/
  | consume_lost {s : Group ι} {c : ι} {entries : List Nat} : s.phase c = .idle → s.Undelivered entries →
      Step loads config s (.consume_lost c entries) ((s.xreadgroup entries).drop entries)
  | raised {s : Group ι} {c : ι} {claiming : Bool} {i : Nat} {todo : List Nat} {entry : Entry}
      (fresh : Fresh) : s.phase c = .processing claiming (i :: todo) → s.stream[i]? = some entry →
      receive loads fresh entry = .raised →
      Step loads config s (.raised c) ((s.drop [i]).goto c (.processing claiming todo))
  | invalid {s : Group ι} {c : ι} {claiming : Bool} {i : Nat} {todo : List Nat} {entry : Entry}
      (fresh : Fresh) : s.phase c = .processing claiming (i :: todo) → s.stream[i]? = some entry →
      receive loads fresh entry = .invalid →
      Step loads config s (.invalid c) ((s.drop [i]).goto c (.acking claiming i todo))
  | handle {s : Group ι} {c : ι} {claiming : Bool} {i : Nat} {todo : List Nat} {entry : Entry}
      {message : AQAPMessage} (fresh : Fresh) : s.phase c = .processing claiming (i :: todo) →
      s.stream[i]? = some entry → receive loads fresh entry = .valid message →
      Step loads config s (.handle c message) (s.goto c (.handling claiming i todo))
  /-- The handler returns or raises. -/
  | handled {s : Group ι} {c : ι} {claiming : Bool} {i : Nat} {todo : List Nat} (ok : Bool) :
      s.phase c = .handling claiming i todo →
      Step loads config s (.handled c ok) ((s.handled i ok).goto c
        (if ok then .acking claiming i todo else .processing claiming todo))
  /-- `XPENDING` -/
  | pending {s : Group ι} {c : ι} (elapsed : Nat → Bool) : s.phase c = .processing false [] →
      Step loads config s (.pending c elapsed) (s.goto c (.giving_up
        (stale_ids (config c) s.xpending_range) (claim_ids (config c) elapsed s.xpending_range)))
  | claim {s : Group ι} {c : ι} {claims entries : List Nat} : s.phase c = .giving_up [] claims →
      claims ≠ [] → s.Claimed claims entries →
      Step loads config s (.claim c entries) ((s.xclaim entries).goto c (.processing true entries))
  /-- The reply of `XCLAIM` does not arrive. -/
  | claim_lost {s : Group ι} {c : ι} {claims entries : List Nat} : s.phase c = .giving_up [] claims →
      claims ≠ [] → s.Claimed claims entries →
      Step loads config s (.claim_lost c entries) (((s.xclaim entries).drop entries).goto c .idle)
  /-- The next turn of the loop of `start`. -/
  | next {s : Group ι} {c : ι} :
      s.phase c = .giving_up [] [] ∨ s.phase c = .processing true [] →
      Step loads config s (.next c) (s.goto c .idle)
  /-- The `XACK` of an entry that was processed; the command may also raise after it was executed. -/
  | xack {s : Group ι} {c : ι} {claiming : Bool} {i : Nat} {todo : List Nat} (ok : Bool) :
      s.phase c = .acking claiming i todo →
      Step loads config s (.xack c i ok) ((s.xack i).goto c (.processing claiming todo))
  /-- The command raises and was not executed: the entry counts as failed, and the loop goes on. -/
  | xack_raised {s : Group ι} {c : ι} {claiming : Bool} {i : Nat} {todo : List Nat} :
      s.phase c = .acking claiming i todo →
      Step loads config s (.xack_raised c) (s.goto c (.processing claiming todo))
  /-- The `XACK` of an entry that is given up. -/
  | give_up {s : Group ι} {c : ι} {i : Nat} {stale claims : List Nat} (ok : Bool) :
      s.phase c = .giving_up (i :: stale) claims →
      Step loads config s (.xack c i ok) ((s.xack i).goto c
        (if ok then .giving_up stale claims else .idle))
  /-- The consumer is cancelled or dies, or another command raises that was not executed. -/
  | stop {s : Group ι} {c : ι} :
      Step loads config s (.stop c) ((s.drop (s.phase c).entries).goto c .idle)

/-! ## When entries may be acknowledged -/

variable [Fintype ι]

/-- How many deliveries of the entry a consumer has not finished. -/
def in_progress (s : Group ι) (i : Nat) : Nat := ∑ c, (s.phase c).entries.count i

/-- `validate_message` finds errors in the envelope. -/
def Invalid (loads : String → Option Json) (s : Group ι) (i : Nat) : Prop :=
  ∃ entry fresh, s.stream[i]? = some entry ∧ receive loads fresh entry = .invalid

/-- An entry is acknowledged when its handler has returned, its envelope is invalid, or its handler has
failed `max_retries` times. -/
def Justified (loads : String → Option Json) (config : ι → Consumer) (s : Group ι) : Label ι → Prop
  | .xack c i _ => 0 < s.returned i ∨ s.Invalid loads i ∨ (config c).max_retries ≤ s.failed i
  | _ => True

/-- When an entry is given up, its deliveries that are in progress, or were lost or ended without the
handler, leave `max_retries` of them, unless it was handled or is invalid. -/
def CountedOut (loads : String → Option Json) (config : ι → Consumer) (s : Group ι) : Label ι → Prop
  | .xack c i _ => ∀ stale claims, s.phase c = .giving_up (i :: stale) claims →
      0 < s.returned i ∨ s.Invalid loads i ∨
        (config c).max_retries + s.in_progress i + s.unhandled i ≤ s.delivered i
  | _ => True

/-- What holds in all runs. -/
structure Inv (loads : String → Option Json) (config : ι → Consumer) (s : Group ι) : Prop where
  /-- A delivery is in progress, or has ended in one of three ways. -/
  account : ∀ i, s.delivered i = s.returned i + s.failed i + s.unhandled i + s.in_progress i
  counter : ∀ p ∈ s.pending, p.times_delivered ≤ s.delivered p.entry
  acking : ∀ c claiming i todo, s.phase c = .acking claiming i todo →
    0 < s.returned i ∨ s.Invalid loads i
  stale : ∀ c stale claims, s.phase c = .giving_up stale claims → ∀ i ∈ stale,
    (config c).max_retries ≤ s.delivered i

variable [DecidableEq ι] {loads : String → Option Json} {config : ι → Consumer} {s s' : Group ι} {c : ι}
  {i : Nat}

omit [Fintype ι] in
theorem phase_goto (s : Group ι) (c d : ι) (phase : Consumer.Phase) :
    (s.goto c phase).phase d = if d = c then phase else s.phase d :=
  Function.update_apply ..

/-- How the count changes when a consumer goes on. -/
theorem in_progress_goto (s : Group ι) (c : ι) (phase : Consumer.Phase) (i : Nat) :
    (s.goto c phase).in_progress i + (s.phase c).entries.count i =
      s.in_progress i + phase.entries.count i := by
  have hothers : ∑ d ∈ Finset.univ.erase c, ((s.goto c phase).phase d).entries.count i =
      ∑ d ∈ Finset.univ.erase c, (s.phase d).entries.count i := by
    refine Finset.sum_congr rfl fun d hd => ?_
    rw [phase_goto, if_neg (Finset.ne_of_mem_erase hd)]
  unfold in_progress
  rw [← Finset.add_sum_erase _ _ (Finset.mem_univ c),
    ← Finset.add_sum_erase _ (fun d => (s.phase d).entries.count i) (Finset.mem_univ c), hothers,
    phase_goto, if_pos rfl]
  omega

/-- What a command or a handler changes besides the phase of its consumer. -/
structure Extends (s s₁ : Group ι) : Prop where
  phase : s₁.phase = s.phase
  stream : s₁.stream = s.stream
  delivered : ∀ i, s.delivered i ≤ s₁.delivered i
  returned : ∀ i, s.returned i ≤ s₁.returned i
  counter : (∀ p ∈ s.pending, p.times_delivered ≤ s.delivered p.entry) →
    ∀ p ∈ s₁.pending, p.times_delivered ≤ s₁.delivered p.entry

omit [Fintype ι] [DecidableEq ι] in
theorem Extends.refl (s : Group ι) : Extends s s :=
  ⟨rfl, rfl, fun _ => Nat.le_refl _, fun _ => Nat.le_refl _, id⟩

omit [Fintype ι] [DecidableEq ι] in
theorem extends_xreadgroup (entries : List Nat) : Extends s (s.xreadgroup entries) := by
  refine ⟨rfl, rfl, fun i => Nat.le_add_right _ _, fun _ => Nat.le_refl _, fun h p hp => ?_⟩
  show p.times_delivered ≤ s.delivered p.entry + entries.count p.entry
  rcases List.mem_append.mp hp with hold | hnew
  · exact Nat.le_add_right_of_le (h p hold)
  · obtain ⟨i, hi, rfl⟩ := List.mem_map.mp hnew
    have hcount : 0 < entries.count i := List.count_pos_iff.mpr hi
    show 1 ≤ s.delivered i + entries.count i
    omega

omit [Fintype ι] [DecidableEq ι] in
theorem extends_xack (i : Nat) : Extends s (s.xack i) :=
  ⟨rfl, rfl, fun _ => Nat.le_refl _, fun _ => Nat.le_refl _,
    fun h p hp => h p (List.mem_filter.mp hp).1⟩

omit [Fintype ι] [DecidableEq ι] in
theorem extends_xclaim (entries : List Nat) : Extends s (s.xclaim entries) := by
  refine ⟨rfl, rfl, fun i => Nat.le_add_right _ _, fun _ => Nat.le_refl _, fun h p hp => ?_⟩
  obtain ⟨q, hq, rfl⟩ := List.mem_map.mp hp
  show (if q.entry ∈ entries then _ else q).times_delivered ≤ s.delivered _ + entries.count _
  have hold := h q hq
  split
  · rename_i hclaimed
    have hcount : 0 < entries.count q.entry := List.count_pos_iff.mpr hclaimed
    show q.times_delivered + 1 ≤ s.delivered q.entry + entries.count q.entry
    omega
  · exact Nat.le_add_right_of_le hold

omit [Fintype ι] [DecidableEq ι] in
theorem Extends.drop {s₁ : Group ι} (h : Extends s s₁) (entries : List Nat) :
    Extends s (s₁.drop entries) :=
  ⟨h.phase, h.stream, h.delivered, h.returned, h.counter⟩

omit [Fintype ι] [DecidableEq ι] in
theorem extends_handled (i : Nat) (ok : Bool) : Extends s (s.handled i ok) := by
  cases ok with
  | false => exact ⟨rfl, rfl, fun _ => Nat.le_refl _, fun _ => Nat.le_refl _, id⟩
  | true =>
    refine ⟨rfl, rfl, fun _ => Nat.le_refl _, fun j => ?_, id⟩
    show s.returned j ≤ Function.update s.returned i (s.returned i + 1) j
    rw [Function.update_apply]
    split
    · rename_i hj
      rw [hj]
      exact Nat.le_succ _
    · exact Nat.le_refl _

omit [Fintype ι] [DecidableEq ι] in
theorem Extends.invalid {s₁ : Group ι} (h : Extends s s₁) (hi : s.Invalid loads i) :
    s₁.Invalid loads i := by
  obtain ⟨entry, fresh, hentry, hreceive⟩ := hi
  exact ⟨entry, fresh, by rw [h.stream]; exact hentry, hreceive⟩

/-- A consumer goes on: the deliveries that it has finished are counted. -/
theorem inv_goto {s₁ : Group ι} {phase : Consumer.Phase} (hinv : Inv loads config s) (h : Extends s s₁)
    (haccount : ∀ i, s₁.delivered i + s.returned i + s.failed i + s.unhandled i +
        (s.phase c).entries.count i =
      s.delivered i + s₁.returned i + s₁.failed i + s₁.unhandled i + phase.entries.count i)
    (hacking : ∀ claiming i todo, phase = .acking claiming i todo →
      0 < s₁.returned i ∨ s₁.Invalid loads i)
    (hstale : ∀ stale claims, phase = .giving_up stale claims → ∀ i ∈ stale,
      (config c).max_retries ≤ s₁.delivered i) : Inv loads config (s₁.goto c phase) where
  account i := by
    have hbefore := hinv.account i
    have hstep := haccount i
    have hprogress := in_progress_goto s₁ c phase i
    have hsame : s₁.in_progress i = s.in_progress i := by
      unfold in_progress
      rw [h.phase]
    rw [hsame, h.phase] at hprogress
    show s₁.delivered i = s₁.returned i + s₁.failed i + s₁.unhandled i + _
    omega
  counter := h.counter hinv.counter
  acking d claiming i todo hd := by
    rw [phase_goto] at hd
    split at hd
    · exact hacking claiming i todo hd
    · rw [h.phase] at hd
      exact (hinv.acking d claiming i todo hd).imp (fun hr => Nat.lt_of_lt_of_le hr (h.returned i))
        h.invalid
  stale d stale claims hd i hi := by
    rw [phase_goto] at hd
    split at hd
    · rename_i hdc
      rw [hdc]
      exact hstale stale claims hd i hi
    · rw [h.phase] at hd
      exact Int.le_trans (hinv.stale d stale claims hd i hi) (Int.ofNat_le.mpr (h.delivered i))

omit [DecidableEq ι] in
theorem inv_init : Inv loads config (init : Group ι) := by
  constructor <;> simp [init, in_progress, Consumer.Phase.entries]

omit [DecidableEq ι] in
/-- What is lost in a reply is counted as a delivery that has ended. -/
theorem inv_consume_lost {entries : List Nat} (hinv : Inv loads config s) :
    Inv loads config ((s.xreadgroup entries).drop entries) where
  account i := by
    have hbefore := hinv.account i
    show s.delivered i + entries.count i =
      s.returned i + s.failed i + (s.unhandled i + entries.count i) + s.in_progress i
    omega
  counter := ((extends_xreadgroup entries).drop entries).counter hinv.counter
  acking c claiming i todo hc := (hinv.acking c claiming i todo hc).imp id fun h => h
  stale c stale claims hc i hi := Int.le_trans (hinv.stale c stale claims hc i hi)
    (Int.ofNat_le.mpr ((extends_xreadgroup entries).delivered i))

theorem inv_step {l : Label ι} (hinv : Inv loads config s) (hstep : Step loads config s l s') :
    Inv loads config s' := by
  cases hstep with
  | xadd entry =>
    refine ⟨hinv.account, hinv.counter, fun c claiming i todo hc => ?_, hinv.stale⟩
    refine (hinv.acking c claiming i todo hc).imp id ?_
    rintro ⟨e, fresh, he, hreceive⟩
    exact ⟨e, fresh, by
      rw [List.getElem?_append_left (List.getElem?_eq_some_iff.mp he).1]
      exact he, hreceive⟩
  | @consume c entries hc _ _ _ =>
    refine inv_goto hinv (extends_xreadgroup entries) (fun i => ?_) (fun _ _ _ h => nomatch h)
      fun _ _ h => nomatch h
    simp only [hc, xreadgroup, Consumer.Phase.entries, List.count_nil]
    omega
  -- The entries are pending, and no consumer has them.
  | consume_lost _ _ => exact inv_consume_lost hinv
  | @raised c claiming i todo entry fresh hc _ _ =>
    refine inv_goto hinv ((Extends.refl s).drop [i]) (fun j => ?_) (fun _ _ _ h => nomatch h)
      fun _ _ h => nomatch h
    simp only [hc, drop, Consumer.Phase.entries, List.count_cons, List.count_nil]
    omega
  | @invalid c claiming i todo entry fresh hc he hreceive =>
    refine inv_goto hinv ((Extends.refl s).drop [i]) (fun j => ?_) (fun _ _ _ h => ?_)
      fun _ _ h => nomatch h
    · simp only [hc, drop, Consumer.Phase.entries, List.count_cons, List.count_nil]
      omega
    · cases h
      exact .inr ⟨entry, fresh, he, hreceive⟩
  | @handle c claiming i todo entry message fresh hc _ _ =>
    refine inv_goto hinv (Extends.refl s) (fun j => ?_) (fun _ _ _ h => nomatch h) fun _ _ h => nomatch h
    simp only [hc, Consumer.Phase.entries]
  -- Only this step counts a failure or a return of the handler.
  | @handled c claiming i todo ok hc =>
    refine inv_goto hinv (extends_handled i ok) (fun j => ?_) (fun _ j _ h => ?_) fun _ _ h => ?_
    · cases ok with
      | false =>
        simp only [hc, handled, Consumer.Phase.entries, List.count_cons, Function.update_apply,
          beq_iff_eq, Bool.false_eq_true, if_false]
        grind
      | true =>
        simp only [hc, handled, Consumer.Phase.entries, List.count_cons, Function.update_apply,
          beq_iff_eq, if_true]
        grind
    · cases ok with
      | false => cases h
      | true =>
        cases h
        left
        show 0 < Function.update s.returned i (s.returned i + 1) i
        rw [Function.update_self]
        exact Nat.succ_pos _
    · cases ok <;> cases h
  -- What is given up are entries whose counter has reached the limit.
  | @pending c elapsed hc =>
    refine inv_goto hinv (Extends.refl s) (fun j => ?_) (fun _ _ _ h => nomatch h) fun _ _ h i hi => ?_
    · simp only [hc, Consumer.Phase.entries]
    · cases h
      obtain ⟨p, hp, rfl⟩ := List.mem_map.mp hi
      obtain ⟨hpending, hstale⟩ := List.mem_filter.mp hp
      exact Int.le_trans (of_decide_eq_true hstale)
        (Int.ofNat_le.mpr (hinv.counter p (List.mem_of_mem_take hpending)))
  | @claim c claims entries hc _ _ =>
    refine inv_goto hinv (extends_xclaim entries) (fun i => ?_) (fun _ _ _ h => nomatch h)
      fun _ _ h => nomatch h
    simp only [hc, xclaim, Consumer.Phase.entries, List.count_nil]
    omega
  | @claim_lost c claims entries hc _ _ =>
    refine inv_goto hinv ((extends_xclaim entries).drop entries) (fun i => ?_) (fun _ _ _ h => nomatch h)
      fun _ _ h => nomatch h
    simp only [hc, xclaim, drop, Consumer.Phase.entries, List.count_nil]
    omega
  | @next c hc =>
    refine inv_goto hinv (Extends.refl s) (fun i => ?_) (fun _ _ _ h => nomatch h) fun _ _ h => nomatch h
    rcases hc with hc | hc <;> simp only [hc, Consumer.Phase.entries]
  | @xack c claiming i todo ok hc =>
    refine inv_goto hinv (extends_xack i) (fun j => ?_) (fun _ _ _ h => nomatch h) fun _ _ h => nomatch h
    simp only [hc, xack, Consumer.Phase.entries]
  | @xack_raised c claiming i todo hc =>
    refine inv_goto hinv (Extends.refl s) (fun j => ?_) (fun _ _ _ h => nomatch h) fun _ _ h => nomatch h
    simp only [hc, Consumer.Phase.entries]
  | @give_up c i stale claims ok hc =>
    refine inv_goto hinv (extends_xack i) (fun j => ?_) (fun _ _ _ h => ?_) fun _ _ h j hj => ?_
    · cases ok <;> simp [hc, xack, Consumer.Phase.entries]
    · cases ok <;> cases h
    · cases ok with
      | false => cases h
      | true =>
        cases h
        exact hinv.stale c _ _ hc j (List.mem_cons_of_mem _ hj)
  | @stop c =>
    refine inv_goto hinv ((Extends.refl s).drop _) (fun i => ?_) (fun _ _ _ h => nomatch h)
      fun _ _ h => nomatch h
    simp only [drop, Consumer.Phase.entries, List.count_nil]
    omega

/-- When an entry is given up, what has not ended in a failure decides. -/
theorem justified_iff {l : Label ι} (hinv : Inv loads config s) (hstep : Step loads config s l s') :
    Justified loads config s l ↔ CountedOut loads config s l := by
  cases hstep with
  | @xack c claiming i todo ok hc =>
    have hjustified := hinv.acking c claiming i todo hc
    refine iff_of_true (hjustified.imp id .inl) fun _ _ hstale => ?_
    exact hjustified.imp id .inl
  | @give_up c i stale claims ok hc =>
    have haccount := hinv.account i
    have hcount : ∀ hzero : s.returned i = 0, (config c).max_retries ≤ s.failed i ↔
        (config c).max_retries + s.in_progress i + s.unhandled i ≤ s.delivered i := by
      intro hzero
      omega
    constructor
    · intro h _ _ _
      rcases Nat.eq_zero_or_pos (s.returned i) with hzero | hpos
      · exact h.imp id (Or.imp id (hcount hzero).mp)
      · exact .inl hpos
    · intro h
      rcases Nat.eq_zero_or_pos (s.returned i) with hzero | hpos
      · exact (h stale claims hc).imp id (Or.imp id (hcount hzero).mpr)
      · exact .inl hpos
  | _ => exact Iff.rfl

/-- **When messages in progress are not dropped.** In every run, an entry is acknowledged only when its
handler has returned, its envelope is invalid or its handler has failed `max_retries` times, if and only if
whenever an entry is given up that was not handled and is valid, its deliveries that have not ended in a
failure of the handler leave `max_retries`. -/
theorem acked_iff {steps : List (Group ι × Label ι)}
    (h : Lts.Path (Step loads config) init steps s) :
    Lts.AllMeet (Justified loads config) steps ↔ Lts.AllMeet (CountedOut loads config) steps :=
  h.allMeet_iff inv_init (fun _ _ _ => inv_step) fun _ _ _ => justified_iff

/-- An entry whose deliveries have all ended in their handlers may be given up. -/
theorem counted_out_of_idle {steps : List (Group ι × Label ι)} {ok : Bool}
    (h : Lts.Path (Step loads config) init steps s) (hidle : s.in_progress i = 0)
    (hhandled : s.unhandled i = 0) : CountedOut loads config s (.xack c i ok) := by
  intro stale claims hc
  have hinv : Inv loads config s := (h.throughout inv_init fun _ _ _ => inv_step).1
  have hstale := hinv.stale c _ _ hc i List.mem_cons_self
  exact .inr (.inr (by rw [hidle, hhandled]; simpa using hstale))

/-- A heartbeat as JSON. -/
def heartbeat_text : String :=
  "\x7b\"type\": \"HEARTBEAT\", \"source\": \"a\", \"payload\": \x7b\x7d, \"version\": \"1.0\"\x7d"

/-- `json.loads` on the text. -/
def loads_heartbeat (raw : String) : Option Json :=
  if raw = heartbeat_text then
    some (.obj [("type", .str "HEARTBEAT"), ("source", .str "a"), ("payload", .obj []),
      ("version", .str "1.0")])
  else none

def heartbeat : Entry := ⟨"1-0", [(.str "json", .str heartbeat_text)]⟩

/-- Two consumers that give an entry up after its first delivery. -/
def once (_ : Bool) : Consumer := ⟨1, 1⟩

theorem receive_heartbeat (fresh : Fresh) :
    ∃ message, receive loads_heartbeat fresh heartbeat = .valid message :=
  ⟨_, rfl⟩

/-- The first consumer has read the entry, and its handler runs. -/
def running : Group Bool :=
  ((xreadgroup { init with stream := [heartbeat] } [0]).goto true (.processing false [0])).goto true
    (.handling false 0 [])

def runningSteps (message : AQAPMessage) : List (Group Bool × Label Bool) :=
  [(init, .xadd heartbeat), ({ init with stream := [heartbeat] }, .consume true [0]),
    ((xreadgroup { init with stream := [heartbeat] } [0]).goto true (.processing false [0]),
      .handle true message)]

theorem running_path : ∃ message,
    Lts.Path (Step loads_heartbeat once) init (runningSteps message) running := by
  obtain ⟨message, hmessage⟩ := receive_heartbeat ⟨"m", "c", "now"⟩
  exact ⟨message, .step (.step (.step .start (.xadd heartbeat))
    (.consume rfl ⟨by decide, by simp [init]⟩ (by decide) (by decide)))
    (.handle ⟨"m", "c", "now"⟩ rfl rfl hmessage)⟩

/-- The handler returns, and the entry is acknowledged. -/
theorem handled_acked : ∃ message,
    let s := (running.handled 0 true).goto true (.acking false 0 [])
    Lts.AllMeet (Justified loads_heartbeat once)
      (runningSteps message ++ [(running, .handled true true)] ++ [(s, .xack true 0 true)]) := by
  obtain ⟨message, hpath⟩ := running_path
  refine ⟨message, (acked_iff (.step (.step hpath (.handled true rfl)) (.xack true rfl))).mpr ?_⟩
  simp only [runningSteps, Lts.AllMeet, List.forall_mem_append, List.forall_mem_cons]
  refine ⟨⟨⟨trivial, trivial, trivial, List.forall_mem_nil _⟩, trivial, List.forall_mem_nil _⟩, ?_,
    List.forall_mem_nil _⟩
  intro stale claims hc
  cases hc

/-- While the handler of the first consumer runs, the second one gives the entry up: no call of the handler
has ended. -/
theorem in_progress_dropped : ∃ steps, ∃ s : Group Bool,
    Lts.Path (Step loads_heartbeat once) init steps s ∧
      ¬ Lts.AllMeet (Justified loads_heartbeat once) steps := by
  obtain ⟨message, hpath⟩ := running_path
  have hidle : Lts.Path (Step loads_heartbeat once) init _
      ((running.xreadgroup []).goto false (.processing false [])) :=
    .step hpath (.consume rfl ⟨by decide, fun _ h => nomatch h⟩ (by decide) (by decide))
  have hstale : Lts.Path (Step loads_heartbeat once) init _
      (((running.xreadgroup []).goto false (.processing false [])).goto false (.giving_up [0] [])) :=
    .step hidle (.pending (fun _ => false) rfl)
  refine ⟨_, _, .step hstale (.give_up (c := false) true rfl), fun h => ?_⟩
  rcases h _ (List.mem_append_right _ (List.mem_singleton.mpr rfl)) with hreturned | hinvalid | hfailed
  · exact absurd hreturned (by decide)
  · obtain ⟨entry, fresh, hentry, hreceive⟩ := hinvalid
    cases hentry
    obtain ⟨m, hm⟩ := receive_heartbeat fresh
    cases hm.symm.trans hreceive
  · exact absurd hfailed (by decide)

end Group

end Aqap.Sdk
