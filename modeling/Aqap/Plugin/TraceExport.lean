import Aqap.Plugin.TraceCollector

/-!
# What the trace collector exports

`_flush` writes the records of the buffer to a file, one line for each, and clears the buffer. It clears it as well
after an `OSError`, which `_export_to_file` only logs. What the files got until then stays in them.

* `buffer_after`: a call adds its record to the buffer, and flushes it or not.
* `exported_iff`: the records in the files and in the buffer are all that were made, once and in order, exactly if
  every export that fails is lucky.
-/

namespace Aqap

open Py Async

namespace TraceCollector

/-- The collector in which a call comes to `_flush`, if it does. -/
def flushing (self : TraceCollector) (call : Call) : Option TraceCollector :=
  match call.record with
  | none => none
  | some record =>
    match (self.buffered record).index_record record call.now with
    | (_, .error _) => none
    | (self, .ok ()) =>
      match shown record.trace_id, compare_length ">=" self.buffer.length self.report_interval with
      | .ok _, .ok order => if order = .lt then none else some self
      | _, _ => none

/-- The settings of the export. -/
structure Exports (s : TraceCollector) : Prop where
  enabled : s.export_enabled = true
  dir : s.export_dir.truthy = true

variable {self : TraceCollector} {record : TraceRecord} {now : Moment} {call : Call}

/-- The indexing has no part in the export. -/
structure SameBuffer (s s' : TraceCollector) : Prop where
  buffer : s'.buffer = s.buffer
  export_enabled : s'.export_enabled = s.export_enabled
  export_dir : s'.export_dir = s.export_dir

theorem sameBuffer_index_record : SameBuffer self (self.index_record record now).1 := by
  have hlimit (s : TraceCollector) : SameBuffer s (s.limit_index now).1 := by
    unfold limit_index
    split
    · exact ⟨rfl, rfl, rfl⟩
    · split
      · split <;> exact ⟨rfl, rfl, rfl⟩
      · exact ⟨rfl, rfl, rfl⟩
  unfold index_record
  split
  · exact ⟨rfl, rfl, rfl⟩
  · rename_i k _
    have hadd : SameBuffer self (self.add_event k record).1 := by
      unfold add_event
      split <;> exact ⟨rfl, rfl, rfl⟩
    split
    · rename_i s e hadded
      exact hadded ▸ hadd
    · rename_i s hadded
      rw [hadded] at hadd
      have h := hlimit s
      exact ⟨h.buffer.trans hadd.buffer, h.export_enabled.trans hadd.export_enabled,
        h.export_dir.trans hadd.export_dir⟩

/-- The ways of a call: it makes no record, it adds its record to the buffer, or it flushes the buffer then. -/
theorem buffer_after (self : TraceCollector) (call : Call) :
    (call.record = none ∧ self.flushing call = none ∧ self.after call = self) ∨
    ∃ record, call.record = some record ∧
      ((self.flushing call = none ∧ SameBuffer (self.buffered record) (self.after call)) ∨
        ∃ s, self.flushing call = some s ∧ SameBuffer (self.buffered record) s ∧
          self.after call = (s._flush call.now).1) := by
  obtain ⟨hnone, hafter⟩ | ⟨record, hrecord, hafter⟩ := self.after_cases call
  · refine .inl ⟨hnone, ?_, hafter⟩
    unfold flushing
    rw [hnone]
  · refine .inr ⟨record, hrecord, ?_⟩
    have hindexed : SameBuffer (self.buffered record) ((self.buffered record).index_record record call.now).1 :=
      sameBuffer_index_record
    unfold flushing
    rw [hrecord, hafter]
    dsimp only
    unfold collect
    cases hindex : (self.buffered record).index_record record call.now with
    | mk s result =>
      rw [hindex] at hindexed
      cases result with
      | error e => exact .inl ⟨rfl, hindexed⟩
      | ok u =>
        dsimp only
        unfold report
        cases hshown : shown record.trace_id with
        | error e => exact .inl ⟨rfl, hindexed⟩
        | ok text =>
          cases hcompare : compare_length ">=" s.buffer.length s.report_interval with
          | error e => exact .inl ⟨rfl, hindexed⟩
          | ok order =>
            dsimp only
            by_cases horder : order = .lt
            · rw [if_pos horder, if_pos horder]
              exact .inl ⟨rfl, hindexed⟩
            · rw [if_neg horder, if_neg horder]
              refine .inr ⟨s, rfl, hindexed, ?_⟩
              cases s._flush call.now with
              | mk s' result => cases result <;> rfl

/-- What a flush leaves in the buffer. -/
theorem buffer_flush (h : Exports self) : (self._flush now).1.buffer =
    match now.written with
    | .error (.other _) => self.buffer
    | _ => [] := by
  unfold _flush _export_to_file
  rw [h.enabled, h.dir]
  cases hbuffer : self.buffer with
  | nil =>
    rw [List.isEmpty_nil, if_pos rfl]
    split <;> simp [hbuffer]
  | cons first rest =>
    rw [List.isEmpty_cons, if_neg Bool.false_ne_true]
    cases now.written with
    | ok u => rfl
    | error e =>
      cases e with
      | os_error e => rfl
      | other e => exact hbuffer

theorem exports_flush (h : Exports self) : Exports (self._flush now).1 := by
  unfold _flush
  split
  · exact h
  · dsimp only
    split
    · exact h
    · exact ⟨h.enabled, h.dir⟩

end TraceCollector

/-! ## The files -/

/-- A call; if its export fails, the file gets the first `lines` records of the buffer. -/
structure ExportCall where
  call : TraceCollector.Call
  lines : Nat

/-- The collector, the lines of its files, and the records that it made. -/
structure TraceExport where
  collector : TraceCollector
  exported : List TraceRecord
  made : List TraceRecord

namespace TraceExport

open TraceCollector

def started (config : List (String × Json)) : TraceExport := ⟨.initialized config, [], []⟩

/-- What a flush writes. -/
def written (s : TraceCollector) (now : Moment) (lines : Nat) : List TraceRecord :=
  if s.export_enabled && s.export_dir.truthy then
    match now.written with
    | .ok () => s.buffer
    | .error _ => s.buffer.take lines
  else []

def after (self : TraceExport) (c : ExportCall) : TraceExport where
  collector := self.collector.after c.call
  exported := self.exported ++
    match self.collector.flushing c.call with
    | some s => written s c.call.now c.lines
    | none => []
  made := self.made ++ c.call.record.toList

/-- Every record that was made is in a file or in the buffer, once and in order. -/
def Complete (s : TraceExport) : Prop := s.exported ++ s.collector.buffer = s.made

/-- An export that fails has written all records when the buffer is cleared, and none when it is not. -/
def Spared (s : TraceCollector) (c : ExportCall) : Prop :=
  match c.call.now.written with
  | .ok () => True
  | .error (.os_error _) => s.buffer.length ≤ c.lines
  | .error (.other _) => c.lines = 0

instance (s : TraceCollector) (c : ExportCall) : Decidable (Spared s c) := by
  unfold Spared
  split <;> infer_instance

/-- If the call exports the buffer, no record is lost and none is written twice. -/
def Lucky (s : TraceExport) (c : ExportCall) : Prop := ∀ f ∈ s.collector.flushing c.call, Spared f c

instance : DecidableRel Lucky := fun s c =>
  inferInstanceAs (Decidable (∀ f ∈ s.collector.flushing c.call, Spared f c))

variable {s : TraceExport} {c : ExportCall}

theorem exports_after (h : Exports s.collector) (c : ExportCall) : Exports (s.after c).collector := by
  show Exports (s.collector.after c.call)
  obtain ⟨-, -, hafter⟩ | ⟨record, -, ⟨-, hsame⟩ | ⟨f, -, hsame, hafter⟩⟩ := buffer_after s.collector c.call
  · rwa [hafter]
  · exact ⟨hsame.export_enabled.trans h.enabled, hsame.export_dir ▸ h.dir⟩
  · rw [hafter]
    exact exports_flush ⟨hsame.export_enabled.trans h.enabled, hsame.export_dir ▸ h.dir⟩

/-- What a flush writes and what it leaves in the buffer. -/
theorem written_append_iff {f : TraceCollector} (h : Exports f) (hne : f.buffer ≠ []) :
    written f c.call.now c.lines ++ (f._flush c.call.now).1.buffer = f.buffer ↔ Spared f c := by
  rw [buffer_flush h, written, h.enabled, h.dir, Bool.and_self, if_pos rfl, Spared]
  cases c.call.now.written with
  | ok u => exact iff_of_true (List.append_nil _) trivial
  | error e =>
    cases e with
    | os_error e =>
      dsimp only
      rw [List.append_nil]
      refine ⟨fun h => ?_, List.take_of_length_le⟩
      rw [← h, List.length_take]
      exact min_le_left _ _
    | other e =>
      dsimp only
      rw [List.append_left_eq_self, List.take_eq_nil_iff]
      exact or_iff_left hne

/-- **What a call keeps.** -/
theorem complete_after_iff (hexports : Exports s.collector) (h : s.Complete) (c : ExportCall) :
    (s.after c).Complete ↔ Lucky s c := by
  unfold Complete at h ⊢
  unfold after Lucky
  obtain ⟨hrecord, hflushing, hafter⟩ | ⟨record, hrecord, ⟨hflushing, hsame⟩ | ⟨f, hflushing, hsame, hafter⟩⟩ :=
    buffer_after s.collector c.call
  · rw [hrecord, hflushing, hafter]
    refine iff_of_true ?_ nofun
    rw [List.append_nil]
    exact h.trans (List.append_nil _).symm
  · rw [hrecord, hflushing, hsame.buffer]
    refine iff_of_true ?_ nofun
    rw [List.append_nil, ← h, List.append_assoc]
    rfl
  · have hf : Exports f := ⟨hsame.export_enabled.trans hexports.enabled, hsame.export_dir ▸ hexports.dir⟩
    have hmade : s.made ++ [record] = s.exported ++ f.buffer := by
      rw [hsame.buffer, ← h, List.append_assoc]
      rfl
    have hne : f.buffer ≠ [] := by
      rw [hsame.buffer]
      exact List.append_ne_nil_of_right_ne_nil _ (List.cons_ne_nil _ _)
    rw [hrecord, hflushing, hafter]
    show s.exported ++ written f c.call.now c.lines ++ _ = s.made ++ [record] ↔ _
    rw [hmade, List.append_assoc, List.append_cancel_left_eq, written_append_iff hf hne]
    exact ⟨fun hspared f' hf' => Option.some.inj hf' ▸ hspared, fun hall => hall f rfl⟩

theorem complete_started (config : List (String × Json)) : (started config).Complete := by
  unfold Complete
  rfl

/-- The calls, each with the state before it. -/
def steps (s : TraceExport) (calls : List ExportCall) : List (TraceExport × ExportCall) :=
  Lts.trace (fun s c => some (s.after c)) s calls

def final (s : TraceExport) (calls : List ExportCall) : TraceExport :=
  Lts.exec (fun s c => some (s.after c)) s calls

/-- `cleanup`: the last flush. -/
def cleaned (s : TraceExport) (now : Moment) (lines : Nat) : TraceExport where
  collector := (s.collector._flush now).1
  exported := s.exported ++ if s.collector.buffer.isEmpty then [] else written s.collector now lines
  made := s.made

/-- **What is exported.** In every sequence of calls of a collector that exports, the files and the buffer have every
record that was made, once and in order, exactly if every export that fails is spared: it fails with an `OSError`
after it has written all records, or with another exception before it has written any. Then a cleanup that does not
fail leaves the files with all records. -/
theorem exported_iff {config : List (String × Json)}
    (henabled : (setting config "export_enabled" (.bool false)).truthy = true)
    (hdir : (setting config "export_dir" (.str "")).truthy = true) (calls : List ExportCall) :
    (Lts.Throughout Complete ((started config).steps calls) ((started config).final calls) ↔
      Lts.AllMeet Lucky ((started config).steps calls)) ∧
    (Lts.AllMeet Lucky ((started config).steps calls) → ∀ now lines, now.written = .ok () →
      (((started config).final calls).cleaned now lines).exported = ((started config).final calls).made) := by
  have hpath := Lts.path_trace (fun (s : TraceExport) (c : ExportCall) => some (s.after c)) (started config) calls
    fun _ _ => rfl
  have hexports : ∀ s c s', Exports s.collector → some (after s c) = some s' → Exports s'.collector := by
    rintro s c s' h hstep
    obtain rfl := Option.some.inj hstep
    exact exports_after h c
  have hiff : Lts.Throughout Complete ((started config).steps calls) ((started config).final calls) ↔
      Lts.AllMeet Lucky ((started config).steps calls) := by
    refine hpath.throughout_iff (I := fun s => Exports s.collector) ⟨henabled, hdir⟩
      (fun s c s' h _ _ hstep => hexports s c s' h hstep) (complete_started config) ?_
    rintro s c s' h hcomplete hstep
    obtain rfl := Option.some.inj hstep
    exact complete_after_iff h hcomplete c
  refine ⟨hiff, fun hlucky now lines hok => ?_⟩
  have hcomplete := (hiff.mpr hlucky).1
  have hfinal : Exports ((started config).final calls).collector :=
    (hpath.throughout (I := fun s => Exports s.collector) ⟨henabled, hdir⟩ hexports).1
  unfold cleaned
  dsimp only
  by_cases hempty : ((started config).final calls).collector.buffer.isEmpty = true
  · rw [if_pos hempty, List.append_nil, ← hcomplete, List.isEmpty_iff.mp hempty, List.append_nil]
  · rw [if_neg hempty, written, hfinal.enabled, hfinal.dir, Bool.and_self, if_pos rfl, hok]
    exact hcomplete

/-- Two records are exported, and a third one in the cleanup. -/
theorem exported_sample :
    let config : List (String × Json) :=
      [("export_enabled", .bool true), ("export_dir", .str "traces"), ("report_interval", .int 2)]
    let calls := ["a", "b", "c"].map fun id => ExportCall.mk (sample_call id) 0
    let final := (started config).final calls
    (final.exported.length, final.collector.buffer.length) = (2, 1) ∧
      (final.cleaned (sample_call "").now 0).exported = final.made := by
  intro config calls final
  have hlucky : Lts.AllMeet Lucky ((started config).steps calls) := by decide +kernel
  exact ⟨by decide +kernel, (exported_iff (by decide) (by decide) calls).2 hlucky _ _ rfl⟩

end TraceExport

end Aqap
