import Aqap.Async.Lts
import Aqap.Py.Dict
import Aqap.Py.Sorted
import Mathlib.Data.Nat.Cast.Order.Ring

/-!
# The trace collector

`execute` appends a record to the events of its trace. If the index has more than `max_traces` traces then, a
quarter of them is deleted, rounded down: the first ones in the order of the ids, not the oldest ones.

* `add_event_eq`, `limit_index_eq`: what a call does to the index.
* `step_iff`: when the index stays within its limits and has the record that was just made.
* `traces_kept_iff`: the same for every sequence of calls.
* `two_traces`: an index of at most one trace that has two.
-/

namespace Aqap

open Py Async

/-! ## The plugin -/

structure TraceRecord where
  trace_id : Json
  type : Json
  source : Json
  elapsed_ms : Json
  timestamp : String

/-- What goes wrong when the buffer is written to a file. -/
inductive ExportError where
  | os_error (e : String)
  | other (e : String)

/-- What a call gets from the runtime. -/
structure Moment where
  /-- `round((time.time() - start) * 1000, 2)` -/
  elapsed_ms : Json → Except String Json
  isoformat : String
  /-- What `sorted` raises, with the types of the first keys that it cannot compare. -/
  type_error : String
  written : Except ExportError Unit

/-- The settings are values of the configuration. -/
structure TraceCollector where
  report_interval : Json
  buffer : List TraceRecord
  trace_index : Dict Key (List TraceRecord)
  max_events_per_trace : Json
  max_traces : Json
  export_dir : Json
  export_enabled : Bool

namespace TraceCollector

def setting (config : List (String × Json)) (key : String) (default : Json) : Json :=
  (config.lookup key).getD default

def initialized (config : List (String × Json)) : TraceCollector where
  report_interval := setting config "report_interval" (.int 60)
  buffer := []
  trace_index := .empty
  max_events_per_trace := setting config "max_events_per_trace" (.int 1000)
  max_traces := setting config "max_traces" (.int 10000)
  export_dir := setting config "export_dir" (.str "")
  export_enabled := (setting config "export_enabled" (.bool false)).truthy

/-- How a length compares with a setting, under the operator `op`. -/
def compare_length (op : String) (n : Nat) (v : Json) : Except String Ordering :=
  match v.key with
  | .ok (.num q) => .ok (cmp (n : ℚ) q)
  | .ok (.inf neg) => .ok (if neg then .gt else .lt)
  | _ => .error ("'" ++ op ++ "' not supported between instances of 'int' and '" ++ v.type_name ++ "'")

/-- The record of a call, if the context has a start time. -/
def make_record (context : List (String × Json)) (now : Moment) : Except String (Option TraceRecord) :=
  let context_start := (context.lookup "_aqap_start_time").getD .null
  if !context_start.truthy then .ok none
  else (now.elapsed_ms context_start).map fun elapsed_ms => some {
    trace_id := (context.lookup "_aqap_trace_id").getD (.str "unknown")
    type := (context.lookup "_aqap_message_type").getD (.str "unknown")
    source := (context.lookup "_aqap_source").getD (.str "unknown")
    elapsed_ms
    timestamp := now.isoformat }

variable (self : TraceCollector)

/-- `self._trace_index.get(k, [])` -/
def events (k : Key) : List TraceRecord := (self.trace_index.get? k).getD []

/-- `if k not in self._trace_index: self._trace_index[k] = []` -/
def opened (k : Key) : Dict Key (List TraceRecord) :=
  if k ∈ self.trace_index.keys then self.trace_index else self.trace_index.set k []

/-- The record goes to the events of its trace, unless these are full. -/
def add_event (k : Key) (record : TraceRecord) : TraceCollector × Except String Unit :=
  match compare_length "<" (self.events k).length self.max_events_per_trace with
  | .error e => ({ self with trace_index := self.opened k }, .error e)
  | .ok order =>
    ({ self with
      trace_index :=
        if order = .lt then (self.opened k).set k (self.events k ++ [record]) else self.opened k }, .ok ())

/-- A full index loses the first quarter of its sorted keys. -/
def limit_index (now : Moment) : TraceCollector × Except String Unit :=
  match compare_length ">" self.trace_index.size self.max_traces with
  | .error e => (self, .error e)
  | .ok order =>
    if order = .gt then
      match sorted self.trace_index.keys with
      | none => (self, .error now.type_error)
      | some keys =>
        ({ self with trace_index := self.trace_index.pop_all (keys.take (keys.length / 4)) }, .ok ())
    else (self, .ok ())

/-- The record is put under its trace id, and the index is limited. -/
def index_record (record : TraceRecord) (now : Moment) : TraceCollector × Except String Unit :=
  match record.trace_id.key with
  | .error e => (self, .error e)
  | .ok k =>
    match self.add_event k record with
    | (self, .error e) => (self, .error e)
    | (self, .ok ()) => self.limit_index now

/-- `trace_id[:12] if len(trace_id) >= 12 else trace_id`, for the log; a list or a dictionary was no key. -/
def shown : Json → Except String String
  | .str s => .ok (String.ofList (s.toList.take 12))
  | v => .error ("object of type '" ++ v.type_name ++ "' has no len()")

/-- An `OSError` is logged only. -/
def _export_to_file (now : Moment) : Except String Unit :=
  if !self.export_dir.truthy then .ok ()
  else match now.written with
    | .error (.other e) => .error e
    | _ => .ok ()

/-- `_flush`: the buffer is kept if the export raises. -/
def _flush (now : Moment) : TraceCollector × Except String Unit :=
  if self.buffer.isEmpty then (self, .ok ())
  else
    let exported :=
      if self.export_enabled && self.export_dir.truthy then self._export_to_file now else .ok ()
    match exported with
    | .error e => (self, .error e)
    | .ok () => ({ self with buffer := [] }, .ok ())

/-- What follows the indexing: the log, and the flush of a buffer that is long enough. -/
def report (record : TraceRecord) (now : Moment) : TraceCollector × Except String Unit :=
  match shown record.trace_id with
  | .error e => (self, .error e)
  | .ok _ =>
    match compare_length ">=" self.buffer.length self.report_interval with
    | .error e => (self, .error e)
    | .ok order => if order = .lt then (self, .ok ()) else self._flush now

/-- `self._buffer.append(record)` -/
def buffered (record : TraceRecord) : TraceCollector := { self with buffer := self.buffer ++ [record] }

/-- What `execute` does with the record in its buffer. -/
def collect (record : TraceRecord) (now : Moment) : TraceCollector × Except String (List (String × Json)) :=
  match self.index_record record now with
  | (self, .error e) => (self, .error e)
  | (self, .ok ()) =>
    match self.report record now with
    | (self, .error e) => (self, .error e)
    | (self, .ok ()) => (self, .ok [("traced", .bool true), ("elapsed_ms", record.elapsed_ms)])

/-- `execute`; the collector is the one that is left, also by an exception. -/
def execute (context : List (String × Json)) (now : Moment) :
    TraceCollector × Except String (List (String × Json)) :=
  match make_record context now with
  | .error e => (self, .error e)
  | .ok none => (self, .ok [])
  | .ok (some record) => (self.buffered record).collect record now

/-- A list or a dictionary is no key. -/
def query_trace (trace_id : Json) : Except String (List TraceRecord) := trace_id.key.map self.events

/-! ## What the index is to be -/

structure Call where
  context : List (String × Json)
  now : Moment

/-- The record that the call makes. -/
def Call.record (call : Call) : Option TraceRecord := (make_record call.context call.now).toOption.join

def after (call : Call) : TraceCollector := (self.execute call.context call.now).1

/-- The index has at most `max_traces` traces with at most `max_events` events each. -/
structure Bounded (max_traces max_events : Nat) (s : TraceCollector) : Prop where
  traces : s.trace_index.size ≤ max_traces
  events : ∀ k events, s.trace_index.get? k = some events → events.length ≤ max_events

/-- The trace has the record that the call makes behind the events before it, unless it was full. -/
def Fresh (max_events : Nat) (self : TraceCollector) (call : Call) : Prop :=
  ∀ record ∈ call.record, ∃ events, self.query_trace record.trace_id = .ok events ∧
    (max_events ≤ events.length ∨
      (self.after call).query_trace record.trace_id = .ok (events ++ [record]))

/-- The index has the id or room for it, or else the traces that are deleted for it come before it. -/
def Room (max_traces : Nat) (k : Key) : Prop :=
  k ∈ self.trace_index.keys ∨ self.trace_index.size < max_traces ∨
    (3 ≤ max_traces ∧ (k :: self.trace_index.keys).Pairwise (Key.comparable · ·) ∧
      (max_traces + 1) / 4 ≤ self.trace_index.keys.countP (· < k))

instance (max_traces : Nat) (k : Key) : Decidable (self.Room max_traces k) :=
  inferInstanceAs (Decidable (_ ∨ _ ∨ _ ∧ _ ∧ _))

/-- The id of the record that the call makes can be hashed, and there is room for it. -/
def Kept (max_traces : Nat) (self : TraceCollector) (call : Call) : Prop :=
  ∀ record ∈ call.record, ∃ k ∈ record.trace_id.key.toOption, self.Room max_traces k

instance (max_traces : Nat) (call : Call) : Decidable (Kept max_traces self call) :=
  inferInstanceAs (Decidable (∀ record ∈ call.record, ∃ k ∈ record.trace_id.key.toOption, _))

/-! ## The steps of a call -/

section

variable {self : TraceCollector} {record : TraceRecord} {now : Moment} {max_traces max_events : Nat} {k : Key}

theorem compare_length_nat (op : String) (n m : Nat) : compare_length op n (.int m) = .ok (cmp n m) := by
  have hcast : cmp (n : ℚ) ((m : Int) : ℚ) = cmp n m := by
    rw [Int.cast_natCast]
    exact (Nat.strictMono_cast (α := ℚ)).cmp_map_eq n m
  rw [← hcast]
  rfl

/-- The settings of the limits. -/
structure Limited (max_traces max_events : Nat) (s : TraceCollector) : Prop where
  max_traces : s.max_traces = .int max_traces
  max_events : s.max_events_per_trace = .int max_events

/-- The events of a trace with a further record, unless they are full. -/
def extended (max_events : Nat) (events : List TraceRecord) (record : TraceRecord) : List TraceRecord :=
  if events.length < max_events then events ++ [record] else events

theorem keys_opened (self : TraceCollector) (k : Key) :
    (self.opened k).keys =
      if k ∈ self.trace_index.keys then self.trace_index.keys else self.trace_index.keys ++ [k] := by
  unfold opened
  by_cases hk : k ∈ self.trace_index.keys
  · rw [if_pos hk, if_pos hk]
  · rw [if_neg hk, if_neg hk, Dict.keys_set, if_neg hk]

theorem mem_keys_opened (self : TraceCollector) (k : Key) : k ∈ (self.opened k).keys := by
  rw [keys_opened]
  by_cases hk : k ∈ self.trace_index.keys
  · rwa [if_pos hk]
  · rw [if_neg hk]
    exact List.mem_append_right _ List.mem_cons_self

theorem get?_opened (self : TraceCollector) (k k' : Key) :
    (self.opened k).get? k' = if k' = k then some (self.events k) else self.trace_index.get? k' := by
  unfold opened events
  by_cases hk : k ∈ self.trace_index.keys
  · rw [if_pos hk]
    obtain ⟨events, hevents⟩ := Option.isSome_iff_exists.mp (Dict.mem_keys_iff.mp hk)
    by_cases heq : k' = k
    · rw [if_pos heq, heq, hevents, Option.getD_some]
    · rw [if_neg heq]
  · rw [if_neg hk, Dict.get?_set]
    rw [Dict.mem_keys_iff, Option.not_isSome_iff_eq_none] at hk
    rw [hk, Option.getD_none]

/-- The index with the record in it, unless its trace was full. -/
structure Added (max_events : Nat) (s : TraceCollector) (k : Key) (record : TraceRecord)
    (index : Dict Key (List TraceRecord)) : Prop where
  keys : index.keys = if k ∈ s.trace_index.keys then s.trace_index.keys else s.trace_index.keys ++ [k]
  get? : ∀ k', index.get? k' =
    if k' = k then some (extended max_events (s.events k) record) else s.trace_index.get? k'

theorem add_event_eq (h : self.max_events_per_trace = .int max_events) (k : Key) (record : TraceRecord) :
    ∃ index, Added max_events self k record index ∧
      self.add_event k record = ({ self with trace_index := index }, .ok ()) := by
  unfold add_event
  rw [h, compare_length_nat]
  refine ⟨_, ?_, rfl⟩
  by_cases hroom : (self.events k).length < max_events
  · rw [if_pos ((cmp_eq_lt_iff _ _).mpr hroom)]
    refine ⟨?_, fun k' => ?_⟩
    · rw [Dict.keys_set, if_pos (self.mem_keys_opened k), keys_opened]
    · rw [Dict.get?_set, get?_opened, extended, if_pos hroom]
      by_cases heq : k' = k
      · rw [if_pos heq, if_pos heq]
      · rw [if_neg heq, if_neg heq, if_neg heq]
  · rw [if_neg fun hlt => hroom ((cmp_eq_lt_iff _ _).mp hlt)]
    refine ⟨self.keys_opened k, fun k' => ?_⟩
    rw [get?_opened, extended, if_neg hroom]

/-- The index without the first quarter of its ids, if it has more than `max_traces` and they can be sorted. -/
def trimmed (max_traces : Nat) (index : Dict Key (List TraceRecord)) : Dict Key (List TraceRecord) :=
  if index.size ≤ max_traces then index
  else
    match sorted index.keys with
    | none => index
    | some keys => index.pop_all (keys.take (keys.length / 4))

theorem limit_index_eq (self : TraceCollector) (now : Moment) (h : self.max_traces = .int max_traces) :
    (self.limit_index now).1 = { self with trace_index := trimmed max_traces self.trace_index } := by
  have hcompare : compare_length ">" self.trace_index.size self.max_traces =
      .ok (cmp self.trace_index.size max_traces) := by
    rw [h, compare_length_nat]
  unfold limit_index trimmed
  rw [hcompare]
  dsimp only
  by_cases hsize : self.trace_index.size ≤ max_traces
  · rw [if_neg fun hgt => Nat.not_lt.mpr hsize ((cmp_eq_gt_iff _ _).mp hgt), if_pos hsize]
  · rw [if_pos ((cmp_eq_gt_iff _ _).mpr (Nat.lt_of_not_le hsize)), if_neg hsize]
    cases sorted self.trace_index.keys <;> rfl

/-! ## The index without a quarter of its ids -/

section

variable {index : Dict Key (List TraceRecord)}

theorem trimmed_of_le (h : index.size ≤ max_traces) : trimmed max_traces index = index := if_pos h

/-- The ids cannot be sorted. -/
theorem trimmed_of_not_pairwise (h : ¬ index.keys.Pairwise (Key.comparable · ·)) :
    trimmed max_traces index = index := by
  have hsorted : sorted index.keys = none := if_neg h
  unfold trimmed
  rw [hsorted, ite_self]

theorem trimmed_of_lt (h : max_traces < index.size) (hpairwise : index.keys.Pairwise (Key.comparable · ·)) :
    ∃ keys, sorted index.keys = some keys ∧
      trimmed max_traces index = index.pop_all (keys.take (index.size / 4)) := by
  obtain ⟨keys, hkeys⟩ : ∃ keys, sorted index.keys = some keys := ⟨_, if_pos hpairwise⟩
  refine ⟨keys, hkeys, ?_⟩
  have hlength : keys.length = index.size := by
    rw [(sorted_perm hkeys).length_eq, Dict.length_keys]
  unfold trimmed
  rw [if_neg (Nat.not_le.mpr h), hkeys]
  dsimp only
  rw [hlength]

theorem size_trimmed (h : max_traces < index.size) (hpairwise : index.keys.Pairwise (Key.comparable · ·)) :
    (trimmed max_traces index).size = index.size - index.size / 4 := by
  obtain ⟨keys, hkeys, htrimmed⟩ := trimmed_of_lt h hpairwise
  have hperm := sorted_perm hkeys
  have hnodup : (keys.take (index.size / 4)).Nodup :=
    (hperm.nodup_iff.mpr index.nodup).sublist (List.take_sublist _ _)
  have hmem : ∀ k ∈ keys.take (index.size / 4), k ∈ index.keys := fun k hk =>
    hperm.mem_iff.mp (List.mem_of_mem_take hk)
  rw [htrimmed, Dict.size_pop_all hnodup hmem, List.length_take, hperm.length_eq, Dict.length_keys,
    Nat.min_eq_left (Nat.div_le_self _ _)]

/-- The ids that are left are those with enough ids before them. -/
theorem get?_trimmed (h : max_traces < index.size) (hpairwise : index.keys.Pairwise (Key.comparable · ·))
    (hk : k ∈ index.keys) :
    (trimmed max_traces index).get? k =
      if index.keys.countP (· < k) < index.size / 4 then none else index.get? k := by
  obtain ⟨keys, hkeys, htrimmed⟩ := trimmed_of_lt h hpairwise
  rw [htrimmed, Dict.get?_pop_all]
  exact if_congr ((mem_take_sorted index.nodup hkeys).trans (and_iff_right hk)) rfl rfl

/-- Nothing is added. -/
theorem get?_of_trimmed {events : List TraceRecord} (h : (trimmed max_traces index).get? k = some events) :
    index.get? k = some events := by
  unfold trimmed at h
  split at h
  · exact h
  · split at h
    · exact h
    · rw [Dict.get?_pop_all] at h
      exact (Option.ite_none_left_eq_some.mp h).2

end

/-! ## A whole call -/

/-- Only the buffer changes. -/
structure SameIndex (s s' : TraceCollector) : Prop where
  trace_index : s'.trace_index = s.trace_index
  max_traces : s'.max_traces = s.max_traces
  max_events : s'.max_events_per_trace = s.max_events_per_trace

theorem sameIndex_flush (self : TraceCollector) (now : Moment) : SameIndex self (self._flush now).1 := by
  unfold _flush
  split
  · exact ⟨rfl, rfl, rfl⟩
  · dsimp only
    split <;> exact ⟨rfl, rfl, rfl⟩

theorem sameIndex_report (self : TraceCollector) (record : TraceRecord) (now : Moment) :
    SameIndex self (self.report record now).1 := by
  unfold report
  split
  · exact ⟨rfl, rfl, rfl⟩
  · split
    · exact ⟨rfl, rfl, rfl⟩
    · split
      · exact ⟨rfl, rfl, rfl⟩
      · exact sameIndex_flush self now

theorem sameIndex_collect (self : TraceCollector) (record : TraceRecord) (now : Moment) :
    SameIndex (self.index_record record now).1 (self.collect record now).1 := by
  unfold collect
  cases hindex : self.index_record record now with
  | mk indexed result =>
    cases result with
    | error e => exact ⟨rfl, rfl, rfl⟩
    | ok _ =>
      have hreport := sameIndex_report indexed record now
      dsimp only
      cases hresult : indexed.report record now with
      | mk reported result =>
        rw [hresult] at hreport
        cases result <;> exact hreport

/-- A call makes no record, and leaves the collector as it is, or it makes one. -/
theorem after_cases (self : TraceCollector) (call : Call) :
    (call.record = none ∧ self.after call = self) ∨
    ∃ record, call.record = some record ∧
      self.after call = ((self.buffered record).collect record call.now).1 := by
  unfold after execute Call.record
  cases make_record call.context call.now with
  | error e => exact .inl ⟨rfl, rfl⟩
  | ok made =>
    cases made with
    | none => exact .inl ⟨rfl, rfl⟩
    | some record => exact .inr ⟨record, rfl, rfl⟩

/-! ## A call and the limits -/

/-- The index of a call whose record has a key: the record is added, then the index is trimmed. -/
theorem index_record_eq (now : Moment) (hl : Limited max_traces max_events self) (hk : record.trace_id.key = .ok k) :
    ∃ index, Added max_events self k record index ∧
      (self.index_record record now).1 = { self with trace_index := trimmed max_traces index } := by
  obtain ⟨index, hadded, hadd⟩ := add_event_eq hl.max_events k record
  refine ⟨index, hadded, ?_⟩
  unfold index_record
  rw [hk]
  dsimp only
  rw [hadd]
  exact limit_index_eq { self with trace_index := index } now hl.max_traces

theorem limited_index_record (now : Moment) (hl : Limited max_traces max_events self) :
    Limited max_traces max_events (self.index_record record now).1 := by
  cases hk : record.trace_id.key with
  | error e =>
    unfold index_record
    rw [hk]
    exact hl
  | ok k =>
    obtain ⟨index, -, heq⟩ := index_record_eq now hl hk
    rw [heq]
    exact ⟨hl.max_traces, hl.max_events⟩

theorem limited_after (hl : Limited max_traces max_events self) (call : Call) :
    Limited max_traces max_events (self.after call) := by
  obtain ⟨-, hafter⟩ | ⟨record, -, hafter⟩ := self.after_cases call
  · rwa [hafter]
  · rw [hafter]
    have hindexed : Limited max_traces max_events ((self.buffered record).index_record record call.now).1 :=
      limited_index_record call.now ⟨hl.max_traces, hl.max_events⟩
    have hsame := sameIndex_collect (self.buffered record) record call.now
    exact ⟨hsame.max_traces.trans hindexed.max_traces, hsame.max_events.trans hindexed.max_events⟩

/-- The index after a call whose record has a key. -/
theorem index_after (hl : Limited max_traces max_events self) {call : Call} (hrecord : call.record = some record)
    (hk : record.trace_id.key = .ok k) :
    ∃ index, Added max_events self k record index ∧
      (self.after call).trace_index = trimmed max_traces index := by
  obtain ⟨hnone, -⟩ | ⟨record', hsome, hafter⟩ := self.after_cases call
  · cases hrecord.symm.trans hnone
  · obtain rfl : record = record' := Option.some.inj (hrecord.symm.trans hsome)
    have hl' : Limited max_traces max_events (self.buffered record) := ⟨hl.max_traces, hl.max_events⟩
    obtain ⟨index, hadded, heq⟩ := index_record_eq call.now hl' hk
    refine ⟨index, ⟨hadded.keys, hadded.get?⟩, ?_⟩
    rw [hafter, (sameIndex_collect _ _ _).trace_index, heq]

theorem fresh_iff {call : Call} (hrecord : call.record = some record) (hk : record.trace_id.key = .ok k) :
    Fresh max_events self call ↔
      (max_events ≤ (self.events k).length ∨ (self.after call).events k = self.events k ++ [record]) := by
  have hquery (s : TraceCollector) : s.query_trace record.trace_id = .ok (s.events k) := by
    rw [query_trace, hk]
    rfl
  unfold Fresh
  rw [hrecord]
  simp [hquery]

theorem kept_iff_room {call : Call} (hrecord : call.record = some record) (hk : record.trace_id.key = .ok k) :
    Kept max_traces self call ↔ self.Room max_traces k := by
  unfold Kept
  rw [hrecord]
  simp [hk, Except.toOption]

/-! ## What an added record changes -/

section

variable {index : Dict Key (List TraceRecord)}

theorem length_events_le (hb : Bounded max_traces max_events self) (k : Key) :
    (self.events k).length ≤ max_events := by
  unfold events
  cases hevents : self.trace_index.get? k with
  | none => exact Nat.zero_le _
  | some events => exact hb.events k events hevents

/-- The events are within their limit. -/
theorem Added.length_le (h : Added max_events self k record index) (hb : Bounded max_traces max_events self)
    {k' : Key} {events : List TraceRecord} (hevents : index.get? k' = some events) :
    events.length ≤ max_events := by
  rw [h.get?] at hevents
  by_cases heq : k' = k
  · rw [if_pos heq, Option.some.injEq] at hevents
    have hle := length_events_le hb k
    rw [← hevents, extended]
    split
    · rw [List.length_append, List.length_singleton]
      omega
    · exact hle
  · rw [if_neg heq] at hevents
    exact hb.events k' events hevents

theorem Added.mem_keys (h : Added max_events self k record index) : k ∈ index.keys := by
  rw [Dict.mem_keys_iff, h.get?, if_pos rfl]
  rfl

theorem Added.size_of_mem (h : Added max_events self k record index) (hk : k ∈ self.trace_index.keys) :
    index.size = self.trace_index.size := by
  rw [← Dict.length_keys, h.keys, if_pos hk, Dict.length_keys]

theorem Added.size_of_not_mem (h : Added max_events self k record index) (hk : k ∉ self.trace_index.keys) :
    index.size = self.trace_index.size + 1 := by
  rw [← Dict.length_keys, h.keys, if_neg hk, List.length_append, Dict.length_keys, List.length_singleton]

theorem Added.pairwise_iff (h : Added max_events self k record index) (hk : k ∉ self.trace_index.keys) :
    index.keys.Pairwise (Key.comparable · ·) ↔ (k :: self.trace_index.keys).Pairwise (Key.comparable · ·) := by
  rw [h.keys, if_neg hk]
  exact (List.perm_append_singleton k _).pairwise_iff fun h => (Key.comparable_comm _ _).symm.trans h

theorem Added.countP_eq (h : Added max_events self k record index) (hk : k ∉ self.trace_index.keys) :
    index.keys.countP (· < k) = self.trace_index.keys.countP (· < k) := by
  rw [h.keys, if_neg hk, List.countP_append, List.countP_singleton]
  simp

theorem Added.fresh (h : Added max_events self k record index) :
    max_events ≤ (self.events k).length ∨ (index.get? k).getD [] = self.events k ++ [record] := by
  rw [h.get?, if_pos rfl, Option.getD_some, extended]
  by_cases hroom : (self.events k).length < max_events
  · rw [if_pos hroom]
    exact .inr rfl
  · exact .inl (Nat.not_lt.mp hroom)

end

theorem events_of_not_mem (hk : k ∉ self.trace_index.keys) : self.events k = [] := by
  rw [Dict.mem_keys_iff, Option.not_isSome_iff_eq_none] at hk
  rw [events, hk, Option.getD_none]

/-- If a new trace is one too many, a quarter is deleted, which has to be one trace at least and not the new
one. -/
theorem overflow_iff (hpos : 1 ≤ max_events) {index : Dict Key (List TraceRecord)}
    (h : Added max_events self k record index) (hk : k ∉ self.trace_index.keys)
    (hsize : self.trace_index.size = max_traces) :
    ((trimmed max_traces index).size ≤ max_traces ∧
      (max_events ≤ (self.events k).length ∨
        ((trimmed max_traces index).get? k).getD [] = self.events k ++ [record])) ↔
      3 ≤ max_traces ∧ (k :: self.trace_index.keys).Pairwise (Key.comparable · ·) ∧
        (max_traces + 1) / 4 ≤ self.trace_index.keys.countP (· < k) := by
  have hindex : index.size = max_traces + 1 := by rw [h.size_of_not_mem hk, hsize]
  by_cases hpairwise : index.keys.Pairwise (Key.comparable · ·)
  · rw [size_trimmed (by omega) hpairwise, get?_trimmed (by omega) hpairwise h.mem_keys, h.countP_eq hk, hindex,
      ← h.pairwise_iff hk, and_iff_right hpairwise]
    refine and_congr (by omega) ?_
    by_cases hdeleted : self.trace_index.keys.countP (· < k) < (max_traces + 1) / 4
    · rw [if_pos hdeleted, events_of_not_mem hk]
      refine iff_of_false ?_ (Nat.not_le.mpr hdeleted)
      rintro (hfull | hfound)
      · exact Nat.not_le.mpr hpos hfull
      · cases hfound
    · rw [if_neg hdeleted]
      exact iff_of_true h.fresh (Nat.not_lt.mp hdeleted)
  · rw [trimmed_of_not_pairwise hpairwise, hindex]
    refine iff_of_false (fun hle => ?_) fun hroom => hpairwise ((h.pairwise_iff hk).mpr hroom.2.1)
    omega

/-- **What a call keeps.** -/
theorem step_iff (hpos : 1 ≤ max_events) (hl : Limited max_traces max_events self)
    (hb : Bounded max_traces max_events self) (call : Call) :
    Bounded max_traces max_events (self.after call) ∧ Fresh max_events self call ↔ Kept max_traces self call := by
  cases hrecord : call.record with
  | none =>
    obtain ⟨-, hafter⟩ | ⟨record, hsome, -⟩ := self.after_cases call
    · rw [hafter]
      unfold Fresh Kept
      rw [hrecord]
      exact iff_of_true ⟨hb, nofun⟩ nofun
    · cases hrecord.symm.trans hsome
  | some record =>
    cases hk : record.trace_id.key with
    | error e =>
      refine iff_of_false (fun h => ?_) fun h => ?_
      · obtain ⟨events, hquery, -⟩ := h.2 record hrecord
        rw [query_trace, hk] at hquery
        cases hquery
      · obtain ⟨k, hmem, -⟩ := h record hrecord
        rw [hk] at hmem
        cases hmem
    | ok k =>
      obtain ⟨index, hadded, hafter⟩ := index_after hl hrecord hk
      have hbounded : Bounded max_traces max_events (self.after call) ↔
          (trimmed max_traces index).size ≤ max_traces := by
        constructor
        · intro h
          rw [← hafter]
          exact h.traces
        · intro hsize
          refine ⟨hafter ▸ hsize, fun k' events hevents => ?_⟩
          rw [hafter] at hevents
          exact hadded.length_le hb (get?_of_trimmed hevents)
      have hfound : (self.after call).events k = ((trimmed max_traces index).get? k).getD [] := by
        rw [events, hafter]
      rw [hbounded, fresh_iff hrecord hk, kept_iff_room hrecord hk, hfound]
      by_cases hmem : k ∈ self.trace_index.keys
      · have hsize : index.size ≤ max_traces := (hadded.size_of_mem hmem).trans_le hb.traces
        rw [trimmed_of_le hsize]
        exact iff_of_true ⟨hsize, hadded.fresh⟩ (.inl hmem)
      -- A new trace: the index has room, or loses some of its keys.
      · unfold Room
        rw [or_iff_right hmem]
        by_cases hless : self.trace_index.size < max_traces
        · have hsize : index.size ≤ max_traces := by
            rw [hadded.size_of_not_mem hmem]
            exact hless
          rw [trimmed_of_le hsize]
          exact iff_of_true ⟨hsize, hadded.fresh⟩ (.inl hless)
        · rw [or_iff_right hless]
          exact overflow_iff hpos hadded hmem (le_antisymm hb.traces (Nat.not_lt.mp hless))

end

/-! ## Runs -/

/-- The calls, each with the collector before it. -/
def steps (calls : List Call) : List (TraceCollector × Call) :=
  Lts.trace (fun s call => some (s.after call)) self calls

/-- The collector after the calls. -/
def final (calls : List Call) : TraceCollector := Lts.exec (fun s call => some (s.after call)) self calls

theorem limited_initialized {config : List (String × Json)} {max_traces max_events : Nat}
    (htraces : setting config "max_traces" (.int 10000) = .int max_traces)
    (hevents : setting config "max_events_per_trace" (.int 1000) = .int max_events) :
    Limited max_traces max_events (initialized config) := ⟨htraces, hevents⟩

theorem bounded_initialized (config : List (String × Json)) (max_traces max_events : Nat) :
    Bounded max_traces max_events (initialized config) := ⟨Nat.zero_le _, nofun⟩

/-- **The traces that are kept.** In every sequence of calls, the index stays within its limits and has every
record that was just made, exactly if every call finds room for its record. -/
theorem traces_kept_iff {config : List (String × Json)} {max_traces max_events : Nat}
    (htraces : setting config "max_traces" (.int 10000) = .int max_traces)
    (hevents : setting config "max_events_per_trace" (.int 1000) = .int max_events)
    (hpos : 1 ≤ max_events) (calls : List Call) :
    Lts.Throughout (Bounded max_traces max_events) ((initialized config).steps calls)
        ((initialized config).final calls) ∧
      Lts.AllMeet (Fresh max_events) ((initialized config).steps calls) ↔
      Lts.AllMeet (Kept max_traces) ((initialized config).steps calls) := by
  have hpath := Lts.path_trace (fun (s : TraceCollector) (call : Call) => some (s.after call)) (initialized config)
    calls fun _ _ => rfl
  refine hpath.throughout_and_iff (I := Limited max_traces max_events) (limited_initialized htraces hevents)
    ?_ (bounded_initialized config max_traces max_events) ?_
  · rintro s call s' hl - - hstep
    obtain rfl := Option.some.inj hstep
    exact limited_after hl call
  · rintro s call s' hl hb hstep
    obtain rfl := Option.some.inj hstep
    exact step_iff hpos hl hb call

/-- A call with the given trace id. -/
def sample_call (trace_id : String) : Call where
  context := [("_aqap_start_time", .int 1000), ("_aqap_trace_id", .str trace_id)]
  now := ⟨fun _ => .ok (.int 5), "2025-01-01T00:00:00+00:00", "", .ok ()⟩

/-- The fourth trace takes the place of the first one. -/
theorem traces_kept_iff_three :
    Lts.Throughout (Bounded 3 2)
        ((initialized [("max_traces", .int 3), ("max_events_per_trace", .int 2)]).steps
          (["a", "b", "c", "d", "d", "d"].map sample_call))
        ((initialized [("max_traces", .int 3), ("max_events_per_trace", .int 2)]).final
          (["a", "b", "c", "d", "d", "d"].map sample_call)) ∧
      Lts.AllMeet (Fresh 2)
        ((initialized [("max_traces", .int 3), ("max_events_per_trace", .int 2)]).steps
          (["a", "b", "c", "d", "d", "d"].map sample_call)) :=
  (traces_kept_iff rfl rfl (by decide) _).mpr (by decide +kernel)

/-- The index of at most one trace has two after two calls. -/
theorem two_traces :
    ¬ Lts.Throughout (Bounded 1 1)
        ((initialized [("max_traces", .int 1), ("max_events_per_trace", .int 1)]).steps
          (["a", "b"].map sample_call))
        ((initialized [("max_traces", .int 1), ("max_events_per_trace", .int 1)]).final
          (["a", "b"].map sample_call)) := by
  intro h
  have hsize := h.1.traces
  revert hsize
  decide +kernel

end TraceCollector

end Aqap
