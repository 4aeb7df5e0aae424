import Aqap.Async.Lts
import Aqap.Py.Yaml
import Mathlib.Algebra.Order.Ring.Int

/-!
# The watcher of the configuration file

`ConfigWatcher` polls the time of the last change of `config.yaml`. When it is later than the one it knows, it
reads the file and hands what it finds to its callback. Between its calls of the file system other processes
write the file, so what it reads may be newer than the time it has seen.

* `newer_each_time`: the times under which the file is loaded increase.
* `up_to_date`: what the watcher has loaded when it sleeps, if every write gives the file a later time and the file
  parses.
* `watches_on_iff`: in which runs it goes on watching.
-/

namespace Aqap

open Py Async

/-- The file: its `st_mtime`, and the bytes in it. -/
structure ConfigFile where
  mtime : Int
  content : List UInt8
  deriving DecidableEq

/-- Where `_watch_loop` is. -/
inductive WatchPhase where
  /-- in `asyncio.sleep` -/
  | asleep
  /-- after `self._path.exists()` -/
  | found
  /-- after `self._path.stat()`, which gave a later time -/
  | changed (current_mtime : Int)
  /-- in `await self._callback(new_cfg)` -/
  | calling (current_mtime : Int)
  /-- the task has returned -/
  | returned
  /-- the task has raised: `except OSError` does not catch what `yaml` raises -/
  | raised
  deriving DecidableEq

/-- The watcher, the file, and what became of both. -/
structure ConfigWatcher where
  last_mtime : Int
  running : Bool
  phase : WatchPhase
  file : Option ConfigFile
  /-- The latest time that the file has ever had. -/
  latest : Int
  /-- What was read and parsed, under the time that was seen before. -/
  loads : List ConfigFile
  deriving DecidableEq

/-- What happens next. -/
inductive WatchMove where
  /-- the sleep is over, and `exists()` returns -/
  | wake
  /-- `stat()` returns, or raises because the file has gone -/
  | stat
  /-- `read_text()` and `yaml.safe_load` -/
  | read
  /-- the callback returns, or it raises an exception, which is logged -/
  | handled
  /-- another `OSError` of `exists()`, `stat()` or `read_text()` -/
  | os_error
  | cancel
  /-- `self._running = False` -/
  | stop
  /-- another process writes the file -/
  | write (file : ConfigFile)
  | remove
  deriving DecidableEq

namespace ConfigWatcher

/-- What `yaml.safe_load(self._path.read_text(encoding="utf-8"))` makes of the bytes; it raises where they are
no UTF-8 or no YAML. -/
abbrev Load := List UInt8 → Except String Yaml

section

variable (load : Load) (self : ConfigWatcher)

/-- The `while`: the loop sleeps again, if it is still running. -/
def again (last_mtime : Int) : ConfigWatcher :=
  { self with last_mtime, phase := if self.running then .asleep else .returned }

/-- The file was read. -/
def loaded (current_mtime : Int) (file : ConfigFile) : ConfigWatcher :=
  match load file.content with
  | .error _ => { self with phase := .raised }
  | .ok new_cfg =>
    let self := { self with loads := self.loads ++ [ConfigFile.mk current_mtime file.content] }
    if new_cfg.truthy then { self with phase := .calling current_mtime } else self.again current_mtime

/-- A step of the watcher, or of another process. -/
def move : WatchMove → Option ConfigWatcher
  | .wake =>
    match self.phase with
    | .asleep => some (if self.file.isSome then { self with phase := .found } else self.again self.last_mtime)
    | _ => none
  | .stat =>
    match self.phase, self.file with
    | .found, none => some (self.again self.last_mtime)
    | .found, some file =>
      some (if self.last_mtime < file.mtime then { self with phase := .changed file.mtime }
        else self.again self.last_mtime)
    | _, _ => none
  | .read =>
    match self.phase, self.file with
    | .changed _, none => some (self.again self.last_mtime)
    | .changed current_mtime, some file => some (self.loaded load current_mtime file)
    | _, _ => none
  | .handled =>
    match self.phase with
    | .calling current_mtime => some (self.again current_mtime)
    | _ => none
  | .os_error =>
    match self.phase with
    | .asleep | .found | .changed _ => some (self.again self.last_mtime)
    | _ => none
  | .cancel =>
    match self.phase with
    | .asleep | .calling _ => some { self with phase := .returned }
    | _ => none
  | .stop =>
    match self.phase with
    | .asleep | .calling _ => some { self with running := false }
    | _ => none
  | .write file => some { self with file := some file, latest := max self.latest file.mtime }
  | .remove => some { self with file := none }

/-- `start`, of a watcher for a file that exists. -/
def started (file : ConfigFile) : ConfigWatcher where
  last_mtime := file.mtime
  running := true
  phase := .asleep
  file := some file
  latest := file.mtime
  loads := []

end

/-- The steps that are possible. -/
abbrev Moves (load : Load) (s : ConfigWatcher) (m : WatchMove) (s' : ConfigWatcher) : Prop :=
  s.move load m = some s'

/-! ## The steps -/

variable {load : Load} {s s' : ConfigWatcher} {m : WatchMove} {first : ConfigFile}

/-- The ways of a step. -/
inductive Moved (load : Load) (s : ConfigWatcher) : WatchMove → ConfigWatcher → Prop
  | wake (file : ConfigFile) : s.phase = .asleep → s.file = some file →
      Moved load s .wake { s with phase := .found }
  | changed (file : ConfigFile) : s.phase = .found → s.file = some file → s.last_mtime < file.mtime →
      Moved load s .stat { s with phase := .changed file.mtime }
  | unchanged (m : WatchMove) : (s.phase = .asleep ∨ s.phase = .found ∨ ∃ t, s.phase = .changed t) →
      (m = .read → s.file = none) → Moved load s m (s.again s.last_mtime)
  | unparsable (t : Int) (file : ConfigFile) (e : String) : s.phase = .changed t → s.file = some file →
      load file.content = .error e → Moved load s .read { s with phase := .raised }
  | loaded (t : Int) (file : ConfigFile) (new_cfg : Yaml) (phase : WatchPhase) (last_mtime : Int) :
      s.phase = .changed t → s.file = some file → load file.content = .ok new_cfg →
      (phase = .calling t ∨ last_mtime = t ∧ phase = if s.running then .asleep else .returned) →
      Moved load s .read
        { s with loads := s.loads ++ [⟨t, file.content⟩], phase, last_mtime }
  | handled (t : Int) : s.phase = .calling t → Moved load s .handled (s.again t)
  | cancel : Moved load s .cancel { s with phase := .returned }
  | stop : Moved load s .stop { s with running := false }
  | write (file : ConfigFile) :
      Moved load s (.write file) { s with file := some file, latest := max s.latest file.mtime }
  | remove : Moved load s .remove { s with file := none }

theorem moved_of_move (h : s.move load m = some s') : Moved load s m s' := by
  obtain ⟨last_mtime, running, phase, file, latest, loads⟩ := s
  cases m with
  | wake =>
    cases phase with
    | asleep =>
      cases file with
      | none =>
        cases h
        exact .unchanged _ (.inl rfl) nofun
      | some file =>
        cases h
        exact .wake file rfl rfl
    | _ => cases h
  | stat =>
    cases phase with
    | found =>
      cases file with
      | none =>
        cases h
        exact .unchanged _ (.inr (.inl rfl)) nofun
      | some file =>
        obtain rfl := Option.some.inj h
        by_cases hlater : last_mtime < file.mtime
        · rw [if_pos hlater]
          exact .changed file rfl rfl hlater
        · rw [if_neg hlater]
          exact .unchanged _ (.inr (.inl rfl)) nofun
    | _ => cases h
  | read =>
    cases phase with
    | changed t =>
      cases file with
      | none =>
        cases h
        exact .unchanged _ (.inr (.inr ⟨t, rfl⟩)) fun _ => rfl
      | some file =>
        obtain rfl := Option.some.inj h
        unfold loaded
        cases hload : load file.content with
        | error e => exact .unparsable t file e rfl rfl hload
        | ok new_cfg =>
          dsimp only
          split
          · exact .loaded t file new_cfg _ _ rfl rfl hload (.inl rfl)
          · exact .loaded t file new_cfg _ _ rfl rfl hload (.inr ⟨rfl, rfl⟩)
    | _ => cases h
  | handled =>
    cases phase with
    | calling t =>
      cases h
      exact .handled t rfl
    | _ => cases h
  | os_error =>
    cases phase with
    | asleep =>
      cases h
      exact .unchanged _ (.inl rfl) nofun
    | found =>
      cases h
      exact .unchanged _ (.inr (.inl rfl)) nofun
    | changed t =>
      cases h
      exact .unchanged _ (.inr (.inr ⟨t, rfl⟩)) nofun
    | _ => cases h
  | cancel =>
    cases phase with
    | asleep | calling t =>
      cases h
      exact .cancel
    | _ => cases h
  | stop =>
    cases phase with
    | asleep | calling t =>
      cases h
      exact .stop
    | _ => cases h
  | write file =>
    cases h
    exact .write file
  | remove =>
    cases h
    exact .remove

/-! ## What is loaded -/

/-- The time up to which the watcher takes the file for loaded. -/
def seen (s : ConfigWatcher) : Int :=
  match s.phase with
  | .calling t => t
  | _ => s.last_mtime

/-- The task has not ended. -/
def Watching (s : ConfigWatcher) : Prop := s.phase ≠ .returned ∧ s.phase ≠ .raised

/-- The times that were seen are those of different versions. -/
structure Ordered (first : ConfigFile) (s : ConfigWatcher) : Prop where
  increasing : (first.mtime :: s.loads.map ConfigFile.mtime).Pairwise (· < ·)
  le_seen : s.Watching → ∀ t ∈ first.mtime :: s.loads.map ConfigFile.mtime, t ≤ s.seen
  later : ∀ t, s.phase = .changed t → s.last_mtime < t

/-- The phases of a step that changes nothing else. -/
theorem watching_of_unchanged (h : s.phase = .asleep ∨ s.phase = .found ∨ ∃ t, s.phase = .changed t) :
    s.Watching ∧ s.seen = s.last_mtime := by
  unfold Watching seen
  obtain h | h | ⟨t, h⟩ := h <;> rw [h] <;> exact ⟨⟨nofun, nofun⟩, rfl⟩

theorem again_phase (t : Int) : (s.again t).phase = .asleep ∨ (s.again t).phase = .returned := by
  unfold again
  cases s.running with
  | true => exact .inl rfl
  | false => exact .inr rfl

theorem seen_again (t : Int) : (s.again t).seen = t := by
  unfold seen
  rcases again_phase (s := s) t with h | h <;> rw [h] <;> rfl

/-- The loop goes on with a time that it knows. -/
theorem Ordered.again (h : Ordered first s) {t : Int}
    (ht : ∀ t' ∈ first.mtime :: s.loads.map ConfigFile.mtime, t' ≤ t) : Ordered first (s.again t) where
  increasing := h.increasing
  le_seen _ t' ht' := by
    rw [seen_again]
    exact ht t' ht'
  later t' ht' := by
    rcases again_phase (s := s) t with hphase | hphase <;> cases hphase.symm.trans ht'

theorem ordered_step (h : Ordered first s) (hstep : Moves load s m s') : Ordered first s' := by
  cases moved_of_move hstep with
  | wake file hphase hfile =>
    have hseen := watching_of_unchanged (.inl hphase)
    exact ⟨h.increasing, fun _ t ht => hseen.2 ▸ h.le_seen hseen.1 t ht, nofun⟩
  | changed file hphase hfile hlater =>
    have hseen := watching_of_unchanged (.inr (.inl hphase))
    refine ⟨h.increasing, fun _ t ht => hseen.2 ▸ h.le_seen hseen.1 t ht, ?_⟩
    rintro t ⟨⟩
    exact hlater
  | unchanged m hphase hread =>
    have hseen := watching_of_unchanged hphase
    exact h.again fun t ht => hseen.2 ▸ h.le_seen hseen.1 t ht
  | unparsable t file e hphase hfile hload => exact ⟨h.increasing, fun hw => absurd rfl hw.2, nofun⟩
  | loaded t file new_cfg phase last_mtime hphase hfile hload hnext =>
    have hseen := watching_of_unchanged (.inr (.inr ⟨t, hphase⟩))
    have hlt : ∀ t' ∈ first.mtime :: s.loads.map ConfigFile.mtime, t' < t := fun t' ht' =>
      (hseen.2 ▸ h.le_seen hseen.1 t' ht').trans_lt (h.later t hphase)
    have htimes : first.mtime :: (s.loads ++ [ConfigFile.mk t file.content]).map ConfigFile.mtime =
        (first.mtime :: s.loads.map ConfigFile.mtime) ++ [t] := by
      rw [List.map_append, List.cons_append]
      rfl
    refine ⟨?_, fun _ => ?_, ?_⟩
    · show (first.mtime :: (s.loads ++ [ConfigFile.mk t file.content]).map ConfigFile.mtime).Pairwise _
      rw [htimes, List.pairwise_append]
      exact ⟨h.increasing, List.pairwise_singleton _ _, fun t' ht' u hu => by
        rw [List.mem_singleton.mp hu]
        exact hlt t' ht'⟩
    · show ∀ t' ∈ first.mtime :: (s.loads ++ [ConfigFile.mk t file.content]).map ConfigFile.mtime, t' ≤ _
      have hnow : (ConfigWatcher.seen { s with
          loads := s.loads ++ [ConfigFile.mk t file.content], phase, last_mtime }) = t := by
        rcases hnext with rfl | ⟨rfl, rfl⟩
        · rfl
        · exact seen_again last_mtime
      rw [htimes, hnow]
      intro t' ht'
      rcases List.mem_append.mp ht' with hold | hnew
      · exact (hlt t' hold).le
      · exact (List.mem_singleton.mp hnew).le
    · rintro t' ht'
      rcases hnext with rfl | ⟨rfl, rfl⟩
      · cases ht'
      · rcases again_phase (s := s) last_mtime with hp | hp <;> cases hp.symm.trans ht'
  | handled t hphase =>
    have hseen : s.seen = t := by
      unfold seen
      rw [hphase]
    have hwatching : s.Watching := by
      unfold Watching
      rw [hphase]
      exact ⟨nofun, nofun⟩
    exact h.again fun t' ht' => hseen ▸ h.le_seen hwatching t' ht'
  | cancel => exact ⟨h.increasing, fun hw => absurd rfl hw.1, nofun⟩
  | stop => exact ⟨h.increasing, h.le_seen, h.later⟩
  | write file => exact ⟨h.increasing, h.le_seen, h.later⟩
  | remove => exact ⟨h.increasing, h.le_seen, h.later⟩

theorem ordered_started (first : ConfigFile) : Ordered first (started first) := by
  refine ⟨List.pairwise_singleton _ _, fun _ t ht => ?_, nofun⟩
  exact (List.mem_singleton.mp ht).le

/-- **Every load is under a later time.** In every run of the watcher, whatever other processes do to the file and
however the callback ends, the times under which it loads the file increase, from the one that it found at its
start. A write between `stat` and `read` is loaded under the time that was seen before it, and once more under its
own. -/
theorem newer_each_time {steps : List (ConfigWatcher × WatchMove)}
    (h : Lts.Path (Moves load) (started first) steps s) :
    (first.mtime :: s.loads.map ConfigFile.mtime).Pairwise (· < ·) :=
  (h.throughout (ordered_started first) fun _ _ _ hs hstep => ordered_step hs hstep).1.increasing

/-- Two changes, the second while the callback of the first is running. -/
theorem newer_each_time_sample :
    let load : Load := fun _ => .ok (.bool true)
    let s := Lts.exec (fun s m => s.move load m) (started ⟨1, []⟩)
      [.write ⟨2, [1]⟩, .wake, .stat, .read, .write ⟨3, [2]⟩, .handled, .wake, .stat, .read]
    s.loads = [⟨2, [1]⟩, ⟨3, [2]⟩] ∧
      (1 :: s.loads.map ConfigFile.mtime).Pairwise (· < ·) :=
  have hpath := Lts.path_trace (fun s m => s.move (fun _ => .ok (.bool true)) m) (started ⟨1, []⟩)
    [.write ⟨2, [1]⟩, .wake, .stat, .read, .write ⟨3, [2]⟩, .handled, .wake, .stat, .read] (by decide)
  ⟨by decide, newer_each_time hpath⟩

/-! ## The latest version -/

/-- The version that the watcher holds: the last one that it loaded, or the one of its start. -/
def known (first : ConfigFile) (s : ConfigWatcher) : ConfigFile := s.loads.getLast?.getD first

/-- A write gives the file a time that it never had before. -/
def Newer (s : ConfigWatcher) : WatchMove → Prop
  | .write file => s.latest < file.mtime
  | _ => True

instance : DecidableRel Newer := fun s m => by
  cases m <;> unfold Newer <;> infer_instance

/-- What the times say: the file has the latest, and a watcher that has seen it holds the file. -/
structure Timed (first : ConfigFile) (s : ConfigWatcher) : Prop where
  file_latest : ∀ file, s.file = some file → file.mtime = s.latest
  changed_le : ∀ t, s.phase = .changed t → t ≤ s.latest
  seen_le : s.Watching → s.seen ≤ s.latest
  same : s.Watching → s.seen = s.latest → ∀ file, s.file = some file → known first s = file

/-- The loop goes on with the time that it has seen. -/
theorem Timed.again (h : Timed first s) (hwatching : s.Watching) : Timed first (s.again s.seen) where
  file_latest := h.file_latest
  changed_le t ht := by
    rcases again_phase (s := s) s.seen with hphase | hphase <;> cases hphase.symm.trans ht
  seen_le _ := by
    rw [seen_again]
    exact h.seen_le hwatching
  same _ hseen file hfile := by
    rw [seen_again] at hseen
    exact h.same hwatching hseen file hfile

theorem known_loaded (t : Int) (file : ConfigFile) (phase : WatchPhase) (last_mtime : Int) :
    known first { s with loads := s.loads ++ [⟨t, file.content⟩], phase, last_mtime } = ⟨t, file.content⟩ := by
  simp [known]

/-- After a load the watcher has seen the time of the load. -/
theorem seen_loaded {t last_mtime : Int} {phase : WatchPhase} {loads : List ConfigFile}
    (h : phase = .calling t ∨ last_mtime = t ∧ phase = if s.running then .asleep else .returned) :
    seen { s with loads, phase, last_mtime } = t := by
  rcases h with rfl | ⟨rfl, rfl⟩
  · rfl
  · exact seen_again last_mtime

theorem timed_step (h : Timed first s) (hnewer : Newer s m) (hstep : Moves load s m s') : Timed first s' := by
  cases moved_of_move hstep with
  | wake file hphase hfile =>
    obtain ⟨hwatching, hseen⟩ := watching_of_unchanged (.inl hphase)
    exact ⟨h.file_latest, nofun, fun _ => hseen ▸ h.seen_le hwatching,
      fun _ hs => h.same hwatching (hseen.trans hs)⟩
  | changed file hphase hfile hlater =>
    obtain ⟨hwatching, hseen⟩ := watching_of_unchanged (.inr (.inl hphase))
    refine ⟨h.file_latest, ?_, fun _ => hseen ▸ h.seen_le hwatching,
      fun _ hs => h.same hwatching (hseen.trans hs)⟩
    rintro t ⟨⟩
    exact (h.file_latest file hfile).le
  | unchanged m hphase hread =>
    obtain ⟨hwatching, hseen⟩ := watching_of_unchanged hphase
    exact hseen ▸ h.again hwatching
  | unparsable t file e hphase hfile hload =>
    exact ⟨h.file_latest, nofun, fun hw => absurd rfl hw.2, fun hw => absurd rfl hw.2⟩
  | loaded t file new_cfg phase last_mtime hphase hfile hload hnext =>
    refine ⟨h.file_latest, ?_, fun _ => ?_, fun _ hs file' hfile' => ?_⟩
    · intro t' ht'
      rcases hnext with rfl | ⟨rfl, rfl⟩
      · cases ht'
      · rcases again_phase (s := s) last_mtime with hp | hp <;> cases hp.symm.trans ht'
    · rw [seen_loaded hnext]
      exact h.changed_le t hphase
    · rw [seen_loaded hnext] at hs
      obtain rfl := Option.some.inj (hfile.symm.trans hfile')
      rw [known_loaded, show t = file.mtime from hs.trans (h.file_latest file hfile).symm]
  | handled t hphase =>
    have hseen : s.seen = t := by
      unfold seen
      rw [hphase]
    have hwatching : s.Watching := by
      unfold Watching
      rw [hphase]
      exact ⟨nofun, nofun⟩
    exact hseen ▸ h.again hwatching
  | cancel => exact ⟨h.file_latest, nofun, fun hw => absurd rfl hw.1, fun hw => absurd rfl hw.1⟩
  | stop => exact ⟨h.file_latest, h.changed_le, h.seen_le, h.same⟩
  | write file =>
    have hlatest : max s.latest file.mtime = file.mtime := max_eq_right (le_of_lt hnewer)
    refine ⟨?_, fun t ht => (h.changed_le t ht).trans (le_max_left _ _),
      fun hw => (h.seen_le hw).trans (le_max_left _ _), fun hw hs => ?_⟩
    · rintro file' ⟨⟩
      exact hlatest.symm
    · have hlt : s.seen < file.mtime := (h.seen_le hw).trans_lt hnewer
      exact absurd (hs.trans hlatest) hlt.ne
  | remove => exact ⟨nofun, h.changed_le, h.seen_le, fun _ _ => nofun⟩

theorem timed_started (first : ConfigFile) : Timed first (started first) where
  file_latest file h := by
    cases h
    rfl
  changed_le := nofun
  seen_le _ := le_refl _
  same _ _ file h := by
    cases h
    rfl

/-- **One poll is enough.** If no write gives the file a time that it had before, and the file as it is parses, then
after a poll that nothing disturbs the watcher holds it, whatever was written, removed, missed or left half-read
before; and for a version that it did not hold it is in its callback, unless the file is empty. -/
theorem up_to_date {steps : List (ConfigWatcher × WatchMove)} {file : ConfigFile} {new_cfg : Yaml}
    (h : Lts.Path (Moves load) (started first) steps s) (hnewer : Lts.AllMeet Newer steps)
    (hasleep : s.phase = .asleep) (hfile : s.file = some file) (hload : load file.content = .ok new_cfg) :
    let s' := Lts.exec (fun s m => s.move load m) s [.wake, .stat, .read]
    known first s' = file ∧
      (known first s ≠ file → new_cfg.truthy = true → s'.phase = .calling file.mtime) := by
  have htimed := (h.throughout_of_meets (timed_started first)
    (fun _ _ _ hs hm hstep => timed_step hs hm hstep) hnewer).1
  obtain ⟨hwatching, hseen⟩ := watching_of_unchanged (.inl hasleep)
  have hle : s.last_mtime ≤ file.mtime := hseen ▸ htimed.file_latest file hfile ▸ htimed.seen_le hwatching
  have hwake : s.move load .wake = some { s with phase := .found } := by
    simp only [move, hasleep, hfile, Option.isSome_some, if_true]
  rcases hle.lt_or_eq with hlt | heq
  · have hstat : ({ s with phase := .found } : ConfigWatcher).move load .stat =
        some { s with phase := .changed file.mtime } := by
      simp only [move, hfile, if_pos hlt]
    have hread : ({ s with phase := .changed file.mtime } : ConfigWatcher).move load .read =
        some (({ s with phase := .changed file.mtime } : ConfigWatcher).loaded load file.mtime file) := by
      simp only [move, hfile]
    simp only [Lts.exec, hwake, hstat, hread, Option.getD_some, loaded, hload]
    cases htruthy : new_cfg.truthy with
    | true => exact ⟨known_loaded .., fun _ _ => rfl⟩
    | false => exact ⟨known_loaded .., fun _ h => by cases h⟩
  · have hstat : ({ s with phase := .found } : ConfigWatcher).move load .stat = some (s.again s.last_mtime) := by
      simp only [move, hfile, if_neg heq.not_lt, again]
    have hread : (s.again s.last_mtime).move load .read = none := by
      unfold move
      rcases again_phase (s := s) s.last_mtime with hp | hp <;> rw [hp]
    have hknown : known first s = file :=
      htimed.same hwatching (hseen.trans (heq.trans (htimed.file_latest file hfile))) file hfile
    simp only [Lts.exec, hwake, hstat, hread, Option.getD_some, Option.getD_none]
    exact ⟨hknown, fun h => absurd hknown h⟩

/-- The file is written while the callback of another version is running, which then raises. -/
theorem up_to_date_sample :
    let load : Load := fun _ => .ok (.bool true)
    let s := Lts.exec (fun s m => s.move load m) (started ⟨1, []⟩)
      [.write ⟨2, [1]⟩, .wake, .stat, .read, .remove, .write ⟨5, [2]⟩, .handled]
    let s' := Lts.exec (fun s m => s.move load m) s [.wake, .stat, .read]
    known ⟨1, []⟩ s = ⟨2, [1]⟩ ∧ known ⟨1, []⟩ s' = ⟨5, [2]⟩ ∧
      (known ⟨1, []⟩ s ≠ ⟨5, [2]⟩ → (Yaml.bool true).truthy = true → s'.phase = .calling 5) :=
  ⟨by decide, up_to_date (Lts.path_trace _ _ _ (by decide)) (by decide) rfl rfl rfl⟩

/-! ## The end of the task -/

/-- A step that does not end the task on request: neither `stop()` nor the loop that cancels it. -/
def undisturbed (load : Load) (s : ConfigWatcher) (m : WatchMove) : Option ConfigWatcher :=
  match m with
  | .cancel => none
  | .stop => none
  | m => s.move load m

/-- A step without a change of the file under way. -/
abbrev Undisturbed (load : Load) (s : ConfigWatcher) (m : WatchMove) (s' : ConfigWatcher) : Prop :=
  s.undisturbed load m = some s'

theorem undisturbed_move (h : Undisturbed load s m s') : m ≠ .cancel ∧ m ≠ .stop ∧ Moves load s m s' := by
  cases m with
  | cancel => cases h
  | stop => cases h
  | _ => exact ⟨nofun, nofun, h⟩

/-- What is read is YAML. -/
def Parsed (load : Load) (s : ConfigWatcher) : WatchMove → Prop
  | .read => ∀ file, s.file = some file → ∃ new_cfg, load file.content = .ok new_cfg
  | _ => True

theorem watching_started (first : ConfigFile) : (started first).Watching := by
  unfold Watching
  exact ⟨nofun, nofun⟩

theorem watching_again (h : s.running = true) (t : Int) : (s.again t).Watching := by
  unfold ConfigWatcher.again Watching
  rw [h]
  exact ⟨nofun, nofun⟩

theorem running_step (h : s.running = true) (hstep : Undisturbed load s m s') : s'.running = true := by
  obtain ⟨hcancel, hstop, hmove⟩ := undisturbed_move hstep
  cases moved_of_move hmove with
  | cancel => exact absurd rfl hcancel
  | stop => exact absurd rfl hstop
  | _ => exact h

theorem watching_step (hrunning : s.running = true) (hwatching : s.Watching) (hstep : Undisturbed load s m s') :
    s'.Watching ↔ Parsed load s m := by
  obtain ⟨hcancel, hstop, hmove⟩ := undisturbed_move hstep
  cases moved_of_move hmove with
  | wake file hphase hfile => exact iff_of_true ⟨nofun, nofun⟩ trivial
  | changed file hphase hfile hlater => exact iff_of_true ⟨nofun, nofun⟩ trivial
  | unchanged _ hphase hread =>
    refine iff_of_true (watching_again hrunning _) ?_
    cases m with
    | read => exact fun file hfile => by cases (hread rfl).symm.trans hfile
    | _ => trivial
  | unparsable t file e hphase hfile hload =>
    refine iff_of_false (fun hw => hw.2 rfl) fun hparsed => ?_
    obtain ⟨new_cfg, hok⟩ := hparsed file hfile
    cases hload.symm.trans hok
  | loaded t file new_cfg phase last_mtime hphase hfile hload hnext =>
    refine iff_of_true ?_ fun file' hfile' => ?_
    · rcases hnext with rfl | ⟨rfl, rfl⟩
      · exact ⟨nofun, nofun⟩
      · exact watching_again hrunning last_mtime
    · obtain rfl := Option.some.inj (hfile.symm.trans hfile')
      exact ⟨new_cfg, hload⟩
  | handled t hphase => exact iff_of_true (watching_again hrunning _) trivial
  | cancel => exact absurd rfl hcancel
  | stop => exact absurd rfl hstop
  | write file => exact iff_of_true hwatching trivial
  | remove => exact iff_of_true hwatching trivial

theorem unwatched_step (h : ¬ s.Watching) (hstep : Moves load s m s') :
    ¬ s'.Watching ∧ s'.loads = s.loads ∧ s'.last_mtime = s.last_mtime := by
  have hphase : s.phase = .returned ∨ s.phase = .raised := by
    unfold Watching at h
    tauto
  cases moved_of_move hstep with
  | wake file hp hfile => rcases hphase with h | h <;> cases hp.symm.trans h
  | changed file hp hfile hlater => rcases hphase with h | h <;> cases hp.symm.trans h
  | unchanged m hp hread => exact absurd (watching_of_unchanged hp).1 h
  | unparsable t file e hp hfile hload => rcases hphase with h | h <;> cases hp.symm.trans h
  | loaded t file new_cfg phase last_mtime hp hfile hload hnext => rcases hphase with h | h <;> cases hp.symm.trans h
  | handled t hp => rcases hphase with h | h <;> cases hp.symm.trans h
  | cancel => exact ⟨fun hw => hw.1 rfl, rfl, rfl⟩
  | stop => exact ⟨h, rfl, rfl⟩
  | write file => exact ⟨h, rfl, rfl⟩
  | remove => exact ⟨h, rfl, rfl⟩

/-- **One file that is no YAML ends the watcher.** In a run in which nobody stops it, it goes on watching exactly if
every file that it reads parses, whatever the file system and the callback raise; and when it has ended, no change
of the file is loaded any more, in all the steps that follow. -/
theorem watches_on_iff {steps : List (ConfigWatcher × WatchMove)}
    (h : Lts.Path (Undisturbed load) (started first) steps s) :
    (Lts.Throughout Watching steps s ↔ Lts.AllMeet (Parsed load) steps) ∧
      (¬ s.Watching → ∀ steps' s', Lts.Path (Moves load) s steps' s' → ¬ s'.Watching ∧ s'.loads = s.loads) := by
  refine ⟨?_, fun hended steps' s' hpath => ?_⟩
  · exact h.throughout_iff (I := fun s => s.running = true) rfl
      (fun s m s' hr _ _ hstep => running_step hr hstep) (watching_started first)
      fun s m s' hr hw hstep => watching_step hr hw hstep
  · refine (hpath.throughout (I := fun s' => ¬ s'.Watching ∧ s'.loads = s.loads) ⟨hended, rfl⟩ ?_).1
    rintro s₁ m s₂ ⟨hw, hloads⟩ hstep
    obtain ⟨hw', hloads', -⟩ := unwatched_step hw hstep
    exact ⟨hw', hloads'.trans hloads⟩

/-- The second version does not parse, and the third is not loaded. -/
theorem watches_on_sample :
    let load : Load := fun content => if content = [0] then .error "ScannerError" else .ok (.bool true)
    let fire := fun (s : ConfigWatcher) (m : WatchMove) => s.undisturbed load m
    let moves : List WatchMove :=
      [.write ⟨2, [1]⟩, .wake, .stat, .read, .handled, .write ⟨3, [0]⟩, .wake, .stat, .read]
    let s := Lts.exec fire (started ⟨1, []⟩) moves
    ¬ Lts.AllMeet (Parsed load) (Lts.trace fire (started ⟨1, []⟩) moves) ∧
      ∀ steps' s', Lts.Path (Moves load) s steps' s' → s'.loads = [⟨2, [1]⟩] := by
  intro load fire moves s
  have hpath := watches_on_iff (Lts.path_trace fire (started ⟨1, []⟩) moves (by decide))
  have hended : ¬ s.Watching := fun hw => hw.2 rfl
  exact ⟨fun hparsed => hended (hpath.1.mpr hparsed).1, fun steps' s' h => (hpath.2 hended steps' s' h).2⟩

end ConfigWatcher

end Aqap
