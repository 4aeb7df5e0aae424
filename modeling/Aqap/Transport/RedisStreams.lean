import Aqap.Async.Lts
import Aqap.Core.Message
import Mathlib.Data.List.Pairwise
import Mathlib.Logic.Function.Basic

/-!
# The Redis Streams transport

`subscribe` reads up to ten entries at a time with `XREADGROUP`, which gives each entry to a group once,
and yields their messages one after the other. What a subscription takes out of its batch without
yielding it, or leaves behind in it, is pending and never read again.

* `YieldsLater.held`: an entry that was delivered can be yielded later only if it is readable and a
  subscription still holds it.
* `no_stuck_iff`: in a run, every pending entry is with a subscriber or can be yielded later, exactly if all
  entries are readable and every subscriber acknowledges what it was given and takes its batches to their
  end (`Finishes`).
* `unreadable_stuck`, `retry_stuck`: a malformed entry, and a message whose handler fails.
-/

namespace Aqap.Transport

open Py Aqap.Core Async

/-- An entry of a stream. -/
structure Entry where
  id : String
  data : List (Text × Text)

namespace Entry

/-- `raw`: the value of the field `json`, or the empty text if there is none; `none` is a failed
decoding. -/
def raw (self : Entry) : Option String :=
  -- `b"json"` and `"json"`
  match self.data.lookup (.bytes [0x6a, 0x73, 0x6f, 0x6e]) with
  | some val => val.decode
  | none =>
    match self.data.lookup (.str "json") with
    | some val => val.decode
    | none => some ""

/-- What `Message.from_dict` makes the message of. There is no message if the text is missing or empty, is
not JSON, or is not an object; `loads` is `json.loads`. -/
def message (loads : String → Option Json) (self : Entry) : Option (List (String × Json)) :=
  match self.raw with
  | some raw =>
    if raw = "" then none
    else
      match loads raw with
      | some (.obj data) => some data
      | _ => none
  | none => none

end Entry

/-- Where a call of `subscribe` is. -/
inductive RedisStreams.Phase where
  | fresh
  /-- In its loops, with the entries that are left of its batch. -/
  | reading (topic group : String) (batch : List Nat)
  /-- At the `yield` of the message of an entry: the subscriber handles it. -/
  | yielded (topic group : String) (entry : Nat) (batch : List Nat)
  | left

/-- A transport with its calls of `subscribe`, and the server. An entry is known by its place in its
stream. -/
structure RedisStreams (ι : Type) where
  running : Bool
  stream : String → List Entry
  /-- The place after the last entry that was delivered to a group. -/
  last : String → String → Nat
  /-- The entries that were delivered to a group and not acknowledged. -/
  pending : String → String → List Nat
  phase : ι → RedisStreams.Phase

namespace RedisStreams

variable {ι : Type}

def init : RedisStreams ι where
  running := false
  stream _ := []
  last _ _ := 0
  pending _ _ := []
  phase _ := .fresh

namespace Phase

/-- The entry that a subscription of the group has yielded and that its subscriber handles. -/
def current (topic group : String) : Phase → Option Nat
  | yielded t g entry _ => if t = topic ∧ g = group then some entry else none
  | _ => none

/-- The entries that a subscription of the group has taken from the stream and not finished: the current
one and the rest of its batch. -/
def held (topic group : String) : Phase → List Nat
  | reading t g batch => if t = topic ∧ g = group then batch else []
  | yielded t g entry batch => if t = topic ∧ g = group then entry :: batch else []
  | _ => []

theorem held_reading (topic group t g : String) (batch : List Nat) :
    (reading topic group batch).held t g = if topic = t ∧ group = g then batch else [] := rfl

theorem held_yielded (topic group t g : String) (entry : Nat) (batch : List Nat) :
    (yielded topic group entry batch).held t g =
      if topic = t ∧ group = g then entry :: batch else [] := rfl

theorem mem_held_reading {topic group t g : String} {batch : List Nat} {i : Nat} :
    i ∈ (reading topic group batch).held t g ↔ (topic = t ∧ group = g) ∧ i ∈ batch := by
  rw [held_reading]
  split <;> simp [*]

theorem mem_held_yielded {topic group t g : String} {entry : Nat} {batch : List Nat} {i : Nat} :
    i ∈ (yielded topic group entry batch).held t g ↔ (topic = t ∧ group = g) ∧ i ∈ entry :: batch := by
  rw [held_yielded]
  split <;> simp [*]

theorem current_yielded {topic group t g : String} {entry : Nat} {batch : List Nat} {i : Nat} :
    (yielded topic group entry batch).current t g = some i ↔ (topic = t ∧ group = g) ∧ entry = i := by
  unfold current
  dsimp only
  split <;> simp [*]

theorem current_mem_held {topic group : String} {phase : Phase} {i : Nat}
    (h : phase.current topic group = some i) : i ∈ phase.held topic group := by
  cases phase with
  | yielded t g entry batch =>
    obtain ⟨htg, rfl⟩ := current_yielded.mp h
    exact mem_held_yielded.mpr ⟨htg, List.mem_cons_self⟩
  | _ => cases h

end Phase

/-! ## The methods -/

section

variable (self : RedisStreams ι)

/-- `connect`, also after an exception of `xreadgroup`. -/
def connect : RedisStreams ι := { self with running := true }

def disconnect : RedisStreams ι := { self with running := false }

/-- `XADD` -/
def xadd (topic : String) (entry : Entry) : RedisStreams ι :=
  { self with
    stream := fun t => if t = topic then self.stream t ++ [entry] else self.stream t }

/-- `XREADGROUP` with the id `>`: the entries are delivered to the group. -/
def xreadgroup (topic group : String) (entries : List Nat) : RedisStreams ι :=
  { self with
    last := fun t g =>
      if t = topic ∧ g = group then (entries.getLast?.map (· + 1)).getD (self.last t g)
      else self.last t g
    pending := fun t g =>
      if t = topic ∧ g = group then self.pending t g ++ entries else self.pending t g }

/-- `XACK` -/
def xack (topic group message_id : String) : RedisStreams ι :=
  { self with
    pending := fun t g =>
      if t = topic ∧ g = group then
        (self.pending t g).filter fun i => ((self.stream t)[i]?.map Entry.id) != some message_id
      else self.pending t g }

def ack (topic : String) (message_id : Option String) (group : String) : RedisStreams ι :=
  match message_id with
  | none => self
  | some message_id => self.xack topic (if group = "" then "aqap-default" else group) message_id

/-- A subscription goes on to the next place in its code. -/
def goto [DecidableEq ι] (c : ι) (phase : Phase) : RedisStreams ι :=
  { self with phase := Function.update self.phase c phase }

end

/-- What may happen. -/
inductive Label (ι : Type) where
  | connect
  | disconnect
  | xadd (topic : String) (entry : Entry)
  | subscribe (c : ι) (topic group : String)
  | read (c : ι) (entries : List Nat)
  | lost (c : ι) (entries : List Nat)
  | skip (c : ι)
  | yield (c : ι) (topic group : String) (entry : Nat) (message : Message)
  | resume (c : ι)
  | leave (c : ι)
  | ack (topic : String) (message_id : Option String) (group : String)

/-- What `XREADGROUP` returns: some of the entries that were never delivered to the group, in their order;
it passes over those that were trimmed. -/
def Undelivered (s : RedisStreams ι) (topic group : String) (entries : List Nat) : Prop :=
  entries ≠ [] ∧ entries.length ≤ 10 ∧ entries.Pairwise (· < ·) ∧
    ∀ i ∈ entries, s.last topic group ≤ i ∧ i < (s.stream topic).length

/-- A step of a subscription, of a producer or of a caller of `ack`. -/
inductive Step [DecidableEq ι] (loads : String → Option Json) :
    RedisStreams ι → Label ι → RedisStreams ι → Prop
  | connect {s : RedisStreams ι} : Step loads s .connect s.connect
  | disconnect {s : RedisStreams ι} : Step loads s .disconnect s.disconnect
  | xadd {s : RedisStreams ι} {topic : String} {entry : Entry} :
      (∀ e ∈ s.stream topic, e.id ≠ entry.id) → Step loads s (.xadd topic entry) (s.xadd topic entry)
  | subscribe {s : RedisStreams ι} {c : ι} (topic group : String) : s.phase c = .fresh →
      Step loads s (.subscribe c topic group) (s.goto c (.reading topic group []))
  | read {s : RedisStreams ι} {c : ι} {topic group : String} {entries : List Nat} :
      s.phase c = .reading topic group [] → s.running → s.Undelivered topic group entries →
      Step loads s (.read c entries) ((s.xreadgroup topic group entries).goto c
        (.reading topic group entries))
  /-- The entries are delivered, but the reply does not arrive. -/
  | lost {s : RedisStreams ι} {c : ι} {topic group : String} {entries : List Nat} :
      s.phase c = .reading topic group [] → s.running → s.Undelivered topic group entries →
      Step loads s (.lost c entries) (s.xreadgroup topic group entries)
  /-- The next entry has no text, or an exception is raised before the `yield`. -/
  | skip {s : RedisStreams ι} {c : ι} {topic group : String} {entry : Nat} {batch : List Nat} :
      s.phase c = .reading topic group (entry :: batch) →
      ((s.stream topic)[entry]?.bind (·.message loads)) = none →
      Step loads s (.skip c) (s.goto c (.reading topic group batch))
  | yield {s : RedisStreams ι} {c : ι} {topic group : String} {entry : Nat} {batch : List Nat}
      {e : Entry} {data : List (String × Json)} (fresh : Fresh) :
      s.phase c = .reading topic group (entry :: batch) → (s.stream topic)[entry]? = some e →
      e.message loads = some data →
      Step loads s
        (.yield c topic group entry { Message.from_dict fresh data with transport_msg_id := some (.id e.id) })
        (s.goto c (.yielded topic group entry batch))
  /-- The subscriber asks for the next message. -/
  | resume {s : RedisStreams ι} {c : ι} {topic group : String} {entry : Nat} {batch : List Nat} :
      s.phase c = .yielded topic group entry batch →
      Step loads s (.resume c) (s.goto c (.reading topic group batch))
  /-- The subscriber leaves its loop or is cancelled, `_running` is false, or the reconnection fails. -/
  | leave {s : RedisStreams ι} {c : ι} : s.phase c ≠ .fresh → Step loads s (.leave c) (s.goto c .left)
  /-- An agent acknowledges, at any time. -/
  | ack {s : RedisStreams ι} (topic : String) (message_id : Option String) (group : String) :
      Step loads s (.ack topic message_id group) (s.ack topic message_id group)

/-! ## Stuck entries -/

variable [DecidableEq ι] {loads : String → Option Json} {s s' : RedisStreams ι} {c : ι}
  {topic group : String} {i : Nat}

/-- The entry at the place `i` has a message. -/
def Readable (loads : String → Option Json) (s : RedisStreams ι) (topic : String) (i : Nat) : Prop :=
  ((s.stream topic)[i]?.bind (·.message loads)).isSome

/-- A subscription of the group may yield the entry in a later step. -/
def YieldsLater (loads : String → Option Json) (s : RedisStreams ι) (topic group : String) (i : Nat) :
    Prop :=
  ∃ steps s', Lts.Path (Step loads) s steps s' ∧ ∃ c m, ∃ e ∈ steps, e.2 = .yield c topic group i m

/-- Every entry that was delivered to a group and is not acknowledged is with a subscriber that handles its
message, or can be yielded later. -/
def NoStuck (loads : String → Option Json) (s : RedisStreams ι) : Prop :=
  ∀ t g, ∀ i ∈ s.pending t g,
    (∃ c, (s.phase c).current t g = some i) ∨ s.YieldsLater loads t g i

/-- The entries that are read are readable, and a subscription goes on, or ends, when what it has taken
from the stream is acknowledged. -/
def Finishes (loads : String → Option Json) (s : RedisStreams ι) : Label ι → Prop
  | .read c entries => ∀ t g, s.phase c = .reading t g [] → ∀ i ∈ entries, s.Readable loads t i
  | .lost _ _ => False
  | .resume c => ∀ t g i, (s.phase c).current t g = some i → i ∉ s.pending t g
  | .leave c => ∀ t g, ∀ i ∈ (s.phase c).held t g, i ∉ s.pending t g
  | _ => True

/-- What holds in all runs: what subscriptions hold was delivered, each entry to one of them. -/
structure Inv (loads : String → Option Json) (s : RedisStreams ι) : Prop where
  last : ∀ t g, s.last t g ≤ (s.stream t).length
  pending : ∀ t g, ∀ i ∈ s.pending t g, i < s.last t g
  held : ∀ t g c, ∀ i ∈ (s.phase c).held t g, i < s.last t g
  readable : ∀ t g c i, (s.phase c).current t g = some i → s.Readable loads t i
  nodup : ∀ t g c, ((s.phase c).held t g).Nodup
  disjoint : ∀ t g c d, ∀ i ∈ (s.phase c).held t g, i ∈ (s.phase d).held t g → c = d

/-! ## What a step does -/

theorem phase_goto (s : RedisStreams ι) (c d : ι) (phase : Phase) :
    (s.goto c phase).phase d = if d = c then phase else s.phase d :=
  Function.update_apply ..

/-- A step leaves the entries of the streams where they are. -/
theorem stream_step {l : Label ι} (hstep : Step loads s l s') {t : String} {e : Entry}
    (he : (s.stream t)[i]? = some e) : (s'.stream t)[i]? = some e := by
  cases hstep with
  | @xadd topic entry _ =>
    show (if t = topic then s.stream t ++ [entry] else s.stream t)[i]? = _
    split
    · rw [List.getElem?_append_left (List.getElem?_eq_some_iff.mp he).1]
      exact he
    · exact he
  | ack topic message_id group => cases message_id <;> exact he
  | _ => exact he

theorem readable_step {l : Label ι} (hstep : Step loads s l s') {t : String} (h : s.Readable loads t i) :
    s'.Readable loads t i := by
  unfold Readable at *
  cases he : (s.stream t)[i]? with
  | none => rw [he] at h; cases h
  | some e =>
    rw [stream_step hstep he]
    rw [he] at h
    exact h

omit [DecidableEq ι] in
/-- The last entry that was delivered moves on. -/
theorem last_xreadgroup {entries : List Nat} (h : s.Undelivered topic group entries) (t g : String) :
    s.last t g ≤ (s.xreadgroup topic group entries).last t g ∧
      (t = topic ∧ g = group → ∀ i ∈ entries, i < (s.xreadgroup topic group entries).last t g) := by
  obtain ⟨hne, -, hsorted, hlast⟩ := h
  have hlastq : entries.getLast? = some (entries.getLast hne) := List.getLast?_eq_some_getLast hne
  unfold xreadgroup
  dsimp only
  split
  · rename_i htg
    obtain ⟨rfl, rfl⟩ := htg
    rw [hlastq]
    refine ⟨Nat.le_succ_of_le (hlast _ (List.getLast_mem hne)).1, fun _ i hi => ?_⟩
    exact Nat.lt_succ_of_le ((hsorted.imp Nat.le_of_lt).rel_getLast hi)
  · rename_i htg
    exact ⟨Nat.le_refl _, fun h => absurd h htg⟩

omit [DecidableEq ι] in
theorem mem_pending_xreadgroup {entries : List Nat} {t g : String} :
    i ∈ (s.xreadgroup topic group entries).pending t g ↔
      i ∈ s.pending t g ∨ (t = topic ∧ g = group) ∧ i ∈ entries := by
  unfold xreadgroup
  dsimp only
  split
  · rename_i htg
    rw [List.mem_append, and_iff_right htg]
  · rename_i htg
    exact ⟨.inl, fun h => h.elim id fun h => absurd h.1 htg⟩

omit [DecidableEq ι] in
theorem pending_xack {message_id t g : String} (h : i ∈ (s.xack topic group message_id).pending t g) :
    i ∈ s.pending t g := by
  unfold xack at h
  dsimp only at h
  split at h
  · exact (List.mem_filter.mp h).1
  · exact h

omit [DecidableEq ι] in
/-- Nothing becomes pending by an `ack`. -/
theorem pending_ack {message_id : Option String} {t g : String}
    (h : i ∈ (s.ack topic message_id group).pending t g) : i ∈ s.pending t g := by
  cases message_id with
  | none => exact h
  | some message_id => exact pending_xack h

/-! ## The invariant -/

omit [DecidableEq ι] in
theorem inv_init : Inv loads (init : RedisStreams ι) := by
  constructor <;> simp [init, Phase.held, Phase.current]

/-- A subscription goes on with what it held, or less. -/
theorem inv_goto {phase : Phase} (hinv : Inv loads s)
    (hsub : ∀ t g, (phase.held t g).Sublist ((s.phase c).held t g))
    (hread : ∀ t g i, phase.current t g = some i → s.Readable loads t i) :
    Inv loads (s.goto c phase) := by
  have hheld : ∀ d t g, (((s.goto c phase).phase d).held t g).Sublist ((s.phase d).held t g) := by
    intro d t g
    rw [phase_goto]
    split
    · rename_i hd
      rw [hd]
      exact hsub t g
    · exact .refl _
  refine ⟨hinv.last, hinv.pending, fun t g d i hi => hinv.held t g d i ((hheld d t g).mem hi),
    fun t g d i hi => ?_, fun t g d => (hinv.nodup t g d).sublist (hheld d t g),
    fun t g d e i hd he => hinv.disjoint t g d e i ((hheld d t g).mem hd) ((hheld e t g).mem he)⟩
  rw [phase_goto] at hi
  split at hi
  · exact hread t g i hi
  · exact hinv.readable t g d i hi

omit [DecidableEq ι] in
theorem inv_xreadgroup {entries : List Nat} (hinv : Inv loads s)
    (h : s.Undelivered topic group entries) : Inv loads (s.xreadgroup topic group entries) := by
  have hlast := last_xreadgroup h
  obtain ⟨hne, -, hsorted, hundelivered⟩ := h
  refine ⟨fun t g => ?_, fun t g i hi => ?_, fun t g d i hi => Nat.lt_of_lt_of_le
    (hinv.held t g d i hi) (hlast t g).1, hinv.readable, hinv.nodup, hinv.disjoint⟩
  · unfold xreadgroup
    dsimp only
    split
    · rename_i htg
      obtain ⟨rfl, rfl⟩ := htg
      rw [List.getLast?_eq_some_getLast hne]
      exact (hundelivered _ (List.getLast_mem hne)).2
    · exact hinv.last t g
  · rcases mem_pending_xreadgroup.mp hi with hold | ⟨htg, hnew⟩
    · exact Nat.lt_of_lt_of_le (hinv.pending t g i hold) (hlast t g).1
    · exact (hlast t g).2 htg i hnew

/-- The entries of a new batch are held by no other subscription. -/
theorem inv_read {entries : List Nat} (hinv : Inv loads s) (h : s.Undelivered topic group entries) :
    Inv loads ((s.xreadgroup topic group entries).goto c (.reading topic group entries)) := by
  have hdelivered := inv_xreadgroup hinv h
  have hlast := last_xreadgroup h
  -- Others hold entries that were delivered before.
  have hnew : ∀ t g d i, i ∈ (Phase.reading topic group entries).held t g →
      i ∉ (s.phase d).held t g := by
    intro t g d i hi hold
    obtain ⟨⟨rfl, rfl⟩, hnew⟩ := Phase.mem_held_reading.mp hi
    exact Nat.not_lt_of_le (h.2.2.2 i hnew).1 (hinv.held _ _ d i hold)
  refine ⟨hdelivered.last, hdelivered.pending, fun t g d i hi => ?_, fun t g d i hi => ?_,
    fun t g d => ?_, fun t g d e i hd he => ?_⟩
  · rw [phase_goto] at hi
    split at hi
    · obtain ⟨⟨rfl, rfl⟩, hnew⟩ := Phase.mem_held_reading.mp hi
      exact (hlast _ _).2 ⟨rfl, rfl⟩ i hnew
    · exact hdelivered.held t g d i hi
  · rw [phase_goto] at hi
    split at hi
    · cases hi
    · exact hinv.readable t g d i hi
  · rw [phase_goto]
    split
    · rw [Phase.held_reading]
      split
      · exact h.2.2.1.imp fun h => Nat.ne_of_lt h
      · exact List.nodup_nil
    · exact hinv.nodup t g d
  · rw [phase_goto] at hd he
    split at hd
    · rename_i hdc
      split at he
      · rename_i hec
        rw [hdc, hec]
      · exact absurd he (hnew t g e i hd)
    · split at he
      · exact absurd hd (hnew t g d i he)
      · exact hinv.disjoint t g d e i hd he

omit [DecidableEq ι] in
theorem inv_ack {message_id : Option String} (hinv : Inv loads s) :
    Inv loads (s.ack topic message_id group) := by
  cases message_id with
  | none => exact hinv
  | some message_id =>
    exact ⟨hinv.last, fun t g i hi => hinv.pending t g i (pending_ack hi), hinv.held, hinv.readable,
      hinv.nodup, hinv.disjoint⟩

theorem inv_step {l : Label ι} (hinv : Inv loads s) (hstep : Step loads s l s') : Inv loads s' := by
  have hreadable : ∀ {t i}, s.Readable loads t i → s'.Readable loads t i := readable_step hstep
  cases hstep with
  | connect => exact ⟨hinv.last, hinv.pending, hinv.held, hinv.readable, hinv.nodup, hinv.disjoint⟩
  | disconnect => exact ⟨hinv.last, hinv.pending, hinv.held, hinv.readable, hinv.nodup, hinv.disjoint⟩
  | @xadd topic entry _ =>
    refine ⟨fun t g => ?_, hinv.pending, hinv.held,
      fun t g c i hi => hreadable (hinv.readable t g c i hi), hinv.nodup, hinv.disjoint⟩
    show s.last t g ≤ (if t = topic then s.stream t ++ [entry] else s.stream t).length
    split
    · rw [List.length_append]
      exact Nat.le_add_right_of_le (hinv.last t g)
    · exact hinv.last t g
  | subscribe topic group _ =>
    refine inv_goto hinv (fun t g => ?_) fun _ _ _ h => nomatch h
    rw [Phase.held_reading, ite_self]
    exact List.nil_sublist _
  | read _ _ hund => exact inv_read hinv hund
  | lost _ _ hund => exact inv_xreadgroup hinv hund
  | skip hc _ =>
    refine inv_goto hinv (fun t g => ?_) fun _ _ _ h => nomatch h
    rw [hc, Phase.held_reading, Phase.held_reading]
    split
    · exact List.sublist_cons_self ..
    · exact .refl _
  | @yield c topic group entry batch e data fresh hc he hdata =>
    refine inv_goto hinv (fun t g => ?_) fun t g i hi => ?_
    · rw [hc]
      exact .refl _
    · obtain ⟨⟨rfl, rfl⟩, rfl⟩ := Phase.current_yielded.mp hi
      unfold Readable
      rw [he]
      exact Option.isSome_iff_exists.mpr ⟨data, hdata⟩
  | resume hc =>
    refine inv_goto hinv (fun t g => ?_) fun _ _ _ h => nomatch h
    rw [hc, Phase.held_reading, Phase.held_yielded]
    split
    · exact List.sublist_cons_self ..
    · exact .refl _
  | leave _ => exact inv_goto hinv (fun _ _ => List.nil_sublist _) fun _ _ _ h => nomatch h
  | ack topic message_id group => exact inv_ack hinv

/-! ## Which entries can be yielded -/

theorem YieldsLater.of_step {l : Label ι} (hstep : Step loads s l s')
    (h : s'.YieldsLater loads topic group i) : s.YieldsLater loads topic group i := by
  obtain ⟨steps, s'', hpath, c, m, e, he, hyield⟩ := h
  exact ⟨_, s'', hpath.cons hstep, c, m, e, List.mem_cons_of_mem _ he, hyield⟩

/-- A subscription that goes on yields the readable entries of its batch. -/
theorem yields_later_of_reading {batch : List Nat} (hc : s.phase c = .reading topic group batch)
    (hi : i ∈ batch) (hread : s.Readable loads topic i) : s.YieldsLater loads topic group i := by
  induction batch generalizing s with
  | nil => cases hi
  | cons entry batch ih =>
    cases hmessage : ((s.stream topic)[entry]?.bind (·.message loads)) with
    | none =>
      -- The entry is skipped, so it is not `i`.
      have hrest : i ∈ batch := by
        refine (List.mem_cons.mp hi).resolve_left ?_
        rintro rfl
        unfold Readable at hread
        rw [hmessage] at hread
        cases hread
      have hstep : Step loads s (.skip c) (s.goto c (.reading topic group batch)) := .skip hc hmessage
      exact (ih (phase_goto .. |>.trans (if_pos rfl)) hrest (readable_step hstep hread)).of_step hstep
    | some data =>
      obtain ⟨e, he, hdata⟩ := Option.bind_eq_some_iff.mp hmessage
      have hstep := Step.yield ⟨"", "", ""⟩ hc he hdata
      by_cases hentry : i = entry
      · subst hentry
        exact ⟨_, _, .step .start hstep, c, _, _, List.mem_singleton.mpr rfl, rfl⟩
      · have hrest : i ∈ batch := (List.mem_cons.mp hi).resolve_left hentry
        have hyielded : (s.goto c (.yielded topic group entry batch)).phase c =
            .yielded topic group entry batch := phase_goto .. |>.trans (if_pos rfl)
        have hresume : Step loads _ (.resume c) _ := .resume hyielded
        exact ((ih (phase_goto .. |>.trans (if_pos rfl)) hrest
          (readable_step hresume (readable_step hstep hread))).of_step hresume).of_step hstep

/-- What a subscription holds after a step it has held before, but for the entries of a new batch. -/
theorem held_step {l : Label ι} (hstep : Step loads s l s') {t g : String} {d : ι}
    (hi : i < s.last t g) (h : i ∈ (s'.phase d).held t g) : i ∈ (s.phase d).held t g := by
  cases hstep with
  | subscribe topic group _ =>
    rw [phase_goto] at h
    split at h
    · rw [Phase.held_reading, ite_self] at h
      cases h
    · exact h
  | read _ _ hund =>
    rw [phase_goto] at h
    split at h
    · obtain ⟨⟨rfl, rfl⟩, hnew⟩ := Phase.mem_held_reading.mp h
      exact absurd hi (Nat.not_lt_of_le (hund.2.2.2 i hnew).1)
    · exact h
  | skip hc _ =>
    rw [phase_goto] at h
    split at h
    · rename_i hd
      obtain ⟨htg, hrest⟩ := Phase.mem_held_reading.mp h
      rw [hd, hc]
      exact Phase.mem_held_reading.mpr ⟨htg, List.mem_cons_of_mem _ hrest⟩
    · exact h
  | yield _ hc _ _ =>
    rw [phase_goto] at h
    split at h
    · rename_i hd
      rw [hd, hc]
      exact h
    · exact h
  | resume hc =>
    rw [phase_goto] at h
    split at h
    · rename_i hd
      obtain ⟨htg, hrest⟩ := Phase.mem_held_reading.mp h
      rw [hd, hc]
      exact Phase.mem_held_yielded.mpr ⟨htg, List.mem_cons_of_mem _ hrest⟩
    · exact h
  | leave _ =>
    rw [phase_goto] at h
    split at h
    · cases h
    · exact h
  | ack topic message_id group => cases message_id <;> exact h
  | _ => exact h

theorem last_step {l : Label ι} (hstep : Step loads s l s') (t g : String) : s.last t g ≤ s'.last t g := by
  cases hstep with
  | read _ _ hund => exact (last_xreadgroup hund t g).1
  | lost _ _ hund => exact (last_xreadgroup hund t g).1
  | ack topic message_id group => cases message_id <;> exact Nat.le_refl _
  | _ => exact Nat.le_refl _

/-- **Which delivered entries can be yielded**: the readable ones that a subscription holds, up to the one
that it has yielded. -/
theorem YieldsLater.held {t g : String} (hinv : Inv loads s) (hi : i < s.last t g)
    (h : s.YieldsLater loads t g i) : s.Readable loads t i ∧ ∃ c, i ∈ (s.phase c).held t g := by
  obtain ⟨steps, s'', hpath, c, m, e, he, hyield⟩ := h
  obtain ⟨entry, hentry⟩ : ∃ entry, (s.stream t)[i]? = some entry :=
    ⟨_, List.getElem?_eq_getElem (Nat.lt_of_lt_of_le hi (hinv.last t g))⟩
  -- Until it is yielded, the entry stays where it is.
  have hall : Lts.Throughout (fun s₁ : RedisStreams ι => i < s₁.last t g ∧
      (s₁.stream t)[i]? = some entry ∧ ∀ d, i ∈ (s₁.phase d).held t g → i ∈ (s.phase d).held t g)
      steps s'' := by
    refine hpath.throughout ⟨hi, hentry, fun _ h => h⟩ ?_
    rintro s₁ l s₂ ⟨hlt, hstream, hheld⟩ hstep
    exact ⟨Nat.lt_of_lt_of_le hlt (last_step hstep t g), stream_step hstep hstream,
      fun d hd => hheld d (held_step hstep hlt hd)⟩
  obtain ⟨-, hstream, hheld⟩ := hall.2 e he
  obtain ⟨s₂, hstep⟩ := hpath.exists_step he
  rw [hyield] at hstep
  cases hstep with
  | yield fresh hc hentry' hdata =>
    obtain rfl := Option.some.inj (hstream.symm.trans hentry')
    refine ⟨?_, c, hheld c ?_⟩
    · unfold Readable
      rw [hentry]
      exact Option.isSome_iff_exists.mpr ⟨_, hdata⟩
    · rw [hc]
      exact Phase.mem_held_reading.mpr ⟨⟨rfl, rfl⟩, List.mem_cons_self⟩

theorem yields_later_of_held {t g : String} (hread : s.Readable loads t i)
    (hheld : i ∈ (s.phase c).held t g) (hcurrent : (s.phase c).current t g ≠ some i) :
    s.YieldsLater loads t g i := by
  cases hc : s.phase c with
  | reading topic group batch =>
    rw [hc] at hheld
    obtain ⟨⟨rfl, rfl⟩, hbatch⟩ := Phase.mem_held_reading.mp hheld
    exact yields_later_of_reading hc hbatch hread
  | yielded topic group entry batch =>
    rw [hc] at hheld hcurrent
    obtain ⟨⟨rfl, rfl⟩, hbatch⟩ := Phase.mem_held_yielded.mp hheld
    have hrest : i ∈ batch := by
      refine (List.mem_cons.mp hbatch).resolve_left ?_
      rintro rfl
      exact hcurrent (Phase.current_yielded.mpr ⟨⟨rfl, rfl⟩, rfl⟩)
    have hstep : Step loads s (.resume c) _ := .resume hc
    exact (yields_later_of_reading (phase_goto .. |>.trans (if_pos rfl)) hrest
      (readable_step hstep hread)).of_step hstep
  | fresh => rw [hc] at hheld; cases hheld
  | left => rw [hc] at hheld; cases hheld

/-- The pending entries are readable and held by a subscription. -/
def Held (loads : String → Option Json) (s : RedisStreams ι) : Prop :=
  ∀ t g, ∀ i ∈ s.pending t g, s.Readable loads t i ∧ ∃ c, i ∈ (s.phase c).held t g

theorem no_stuck_iff_held (hinv : Inv loads s) : NoStuck loads s ↔ Held loads s := by
  refine forall_congr' fun t => forall_congr' fun g => forall_congr' fun i => forall_congr' fun hi => ?_
  constructor
  · rintro (⟨c, hcurrent⟩ | hlater)
    · exact ⟨hinv.readable t g c i hcurrent, c, Phase.current_mem_held hcurrent⟩
    · exact hlater.held hinv (hinv.pending t g i hi)
  · rintro ⟨hread, c, hheld⟩
    by_cases hcurrent : (s.phase c).current t g = some i
    · exact .inl ⟨c, hcurrent⟩
    · exact .inr (yields_later_of_held hread hheld hcurrent)

/-! ## Runs -/

/-- Nothing becomes stuck if a subscription goes on with all pending entries that it held. -/
theorem held_goto {phase : Phase} (hs : Held loads s)
    (hkeep : ∀ t g, ∀ i ∈ s.pending t g, s.Readable loads t i → i ∈ (s.phase c).held t g →
      i ∈ phase.held t g) : Held loads (s.goto c phase) := by
  intro t g i hi
  obtain ⟨hread, d, hd⟩ := hs t g i hi
  refine ⟨hread, d, ?_⟩
  rw [phase_goto]
  split
  · rename_i hdc
    subst hdc
    exact hkeep t g i hi hread hd
  · exact hd

/-- A pending entry that a subscription drops is held by nobody. -/
theorem held_of_goto {phase : Phase} (hinv : Inv loads s) (hs : Held loads (s.goto c phase)) {t g : String}
    (hi : i ∈ (s.phase c).held t g) (hdrop : i ∉ phase.held t g) : i ∉ s.pending t g := by
  intro hpending
  obtain ⟨-, d, hd⟩ := hs t g i hpending
  rw [phase_goto] at hd
  split at hd
  · exact hdrop hd
  · rename_i hdc
    exact hdc (hinv.disjoint t g d c i hd hi)

/-- A subscription that reads takes all that is delivered, so its entries are not stuck if they are
readable. -/
theorem held_read_iff {entries : List Nat} (hs : Held loads s)
    (hc : s.phase c = .reading topic group []) :
    Held loads ((s.xreadgroup topic group entries).goto c (.reading topic group entries)) ↔
      ∀ i ∈ entries, s.Readable loads topic i := by
  have hphase : ((s.xreadgroup topic group entries).goto c (.reading topic group entries)).phase c =
      .reading topic group entries := phase_goto .. |>.trans (if_pos rfl)
  constructor
  · intro h i hi
    exact (h topic group i (mem_pending_xreadgroup.mpr (.inr ⟨⟨rfl, rfl⟩, hi⟩))).1
  · intro hread t g i hi
    rcases mem_pending_xreadgroup.mp hi with hpending | ⟨⟨rfl, rfl⟩, hnew⟩
    · obtain ⟨hr, d, hd⟩ := hs t g i hpending
      refine ⟨hr, d, ?_⟩
      rw [phase_goto, if_neg]
      · exact hd
      · -- The batch of the subscription that reads is empty before.
        rintro rfl
        rw [hc, Phase.held_reading, ite_self] at hd
        cases hd
    · refine ⟨hread i hnew, c, ?_⟩
      rw [hphase]
      exact Phase.mem_held_reading.mpr ⟨⟨rfl, rfl⟩, hnew⟩

/-- An entry that is skipped is not readable, so it is not pending. -/
theorem held_skip {entry : Nat} {batch : List Nat} (hs : Held loads s)
    (hc : s.phase c = .reading topic group (entry :: batch))
    (hnone : (s.stream topic)[entry]?.bind (·.message loads) = none) :
    Held loads (s.goto c (.reading topic group batch)) := by
  refine held_goto hs fun t g i _ hread hi => ?_
  rw [hc] at hi
  obtain ⟨⟨rfl, rfl⟩, hbatch⟩ := Phase.mem_held_reading.mp hi
  have hrest : i ∈ batch := by
    refine (List.mem_cons.mp hbatch).resolve_left ?_
    rintro rfl
    unfold Readable at hread
    rw [hnone] at hread
    cases hread
  exact Phase.mem_held_reading.mpr ⟨⟨rfl, rfl⟩, hrest⟩

/-- A subscriber that asks for the next message drops the one that it has. -/
theorem held_resume_iff {entry : Nat} {batch : List Nat} (hinv : Inv loads s) (hs : Held loads s)
    (hc : s.phase c = .yielded topic group entry batch) :
    Held loads (s.goto c (.reading topic group batch)) ↔ entry ∉ s.pending topic group := by
  have hnodup := hinv.nodup topic group c
  rw [hc, Phase.held_yielded, if_pos ⟨rfl, rfl⟩, List.nodup_cons] at hnodup
  constructor
  · intro h
    refine held_of_goto hinv h ?_ fun hdrop => hnodup.1 (Phase.mem_held_reading.mp hdrop).2
    rw [hc]
    exact Phase.mem_held_yielded.mpr ⟨⟨rfl, rfl⟩, List.mem_cons_self⟩
  · intro hacked
    refine held_goto hs fun t g i hpending _ hi => ?_
    rw [hc] at hi
    obtain ⟨⟨rfl, rfl⟩, hbatch⟩ := Phase.mem_held_yielded.mp hi
    have hrest : i ∈ batch := by
      refine (List.mem_cons.mp hbatch).resolve_left ?_
      rintro rfl
      exact hacked hpending
    exact Phase.mem_held_reading.mpr ⟨⟨rfl, rfl⟩, hrest⟩

theorem held_step_iff {l : Label ι} (hinv : Inv loads s) (hs : Held loads s) (hstep : Step loads s l s') :
    Held loads s' ↔ Finishes loads s l := by
  have hreadable : ∀ {t i}, s.Readable loads t i → s'.Readable loads t i := readable_step hstep
  cases hstep with
  | connect => exact iff_of_true hs trivial
  | disconnect => exact iff_of_true hs trivial
  | xadd _ =>
    refine iff_of_true (fun t g i hi => ?_) trivial
    obtain ⟨hread, hheld⟩ := hs t g i hi
    exact ⟨hreadable hread, hheld⟩
  | subscribe topic group hc =>
    refine iff_of_true (held_goto hs fun t g i _ _ hi => ?_) trivial
    rw [hc] at hi
    cases hi
  | @read c topic group entries hc _ hund =>
    rw [held_read_iff hs hc]
    constructor
    · intro h t g htg i hi
      cases hc.symm.trans htg
      exact h i hi
    · intro h
      exact h topic group hc
  -- The entries are pending behind what every subscription has seen.
  | @lost c topic group entries hc _ hund =>
    refine iff_of_false (fun h => ?_) id
    obtain ⟨i, hi⟩ := List.exists_mem_of_ne_nil _ hund.1
    obtain ⟨-, d, hd⟩ := h topic group i (mem_pending_xreadgroup.mpr (.inr ⟨⟨rfl, rfl⟩, hi⟩))
    exact Nat.not_lt_of_le (hund.2.2.2 i hi).1 (hinv.held topic group d i hd)
  | skip hc hnone => exact iff_of_true (held_skip hs hc hnone) trivial
  | yield _ hc _ _ =>
    refine iff_of_true (held_goto hs fun t g i _ _ hi => ?_) trivial
    rw [hc] at hi
    exact hi
  | @resume c topic group entry batch hc =>
    rw [held_resume_iff hinv hs hc]
    constructor
    · intro h t g i hi
      rw [hc] at hi
      obtain ⟨⟨rfl, rfl⟩, rfl⟩ := Phase.current_yielded.mp hi
      exact h
    · intro hacked
      exact hacked topic group entry (by rw [hc]; exact Phase.current_yielded.mpr ⟨⟨rfl, rfl⟩, rfl⟩)
  | leave _ =>
    constructor
    · intro h t g i hi
      exact held_of_goto hinv h hi (List.not_mem_nil)
    · intro hacked
      exact held_goto hs fun t g i hpending _ hi => absurd hpending (hacked t g i hi)
  | ack topic message_id group =>
    refine iff_of_true (fun t g i hi => ?_) trivial
    obtain ⟨hread, d, hd⟩ := hs t g i (pending_ack hi)
    refine ⟨hreadable hread, d, ?_⟩
    cases message_id <;> exact hd

/-- **When no entry gets stuck.** In every run, each entry that was delivered to a group and is not
acknowledged is being handled or can be yielded later, if and only if every entry that is read is readable
and arrives, and no subscriber asks for the next message, or leaves, before what its subscription has taken
is acknowledged. -/
theorem no_stuck_iff {steps : List (RedisStreams ι × Label ι)}
    (h : Lts.Path (Step loads) init steps s) :
    Lts.Throughout (NoStuck loads) steps s ↔ Lts.AllMeet (Finishes loads) steps := by
  refine h.throughout_iff (I := Inv loads) inv_init (fun _ _ _ hinv _ _ => inv_step hinv) ?_ ?_
  · intro t g i hi
    cases hi
  · intro s l s' hinv hs hstep
    rw [no_stuck_iff_held (inv_step hinv hstep)]
    exact held_step_iff hinv ((no_stuck_iff_held hinv).mp hs) hstep

/-- `json.loads` on the text of an empty object. -/
def loads_empty (raw : String) : Option Json := if raw = "{}" then some (.obj []) else none

/-- An entry with the text `{}`. -/
def task : Entry := ⟨"1-0", [(.str "json", .str "{}")]⟩

theorem message_task : task.message loads_empty = some [] := rfl

/-- A subscription that has read the only entry of a stream. -/
def started (entry : Entry) : RedisStreams Unit :=
  (((init.connect.xadd "t" entry).goto () (.reading "t" "g" [])).xreadgroup "t" "g" [0]).goto ()
    (.reading "t" "g" [0])

def startedSteps (entry : Entry) : List (RedisStreams Unit × Label Unit) :=
  [(init, .connect), (init.connect, .xadd "t" entry),
    (init.connect.xadd "t" entry, .subscribe () "t" "g"),
    ((init.connect.xadd "t" entry).goto () (.reading "t" "g" []), .read () [0])]

theorem started_path (entry : Entry) :
    Lts.Path (Step loads_empty) init (startedSteps entry) (started entry) :=
  .step (.step (.step (.step .start .connect) (.xadd fun e he => nomatch he)) (.subscribe "t" "g" rfl))
    (.read rfl rfl ⟨List.cons_ne_nil _ _, by decide, by decide, by simp [goto, xadd, connect, init]⟩)

/-- A message is handled, acknowledged and finished. -/
theorem acknowledged_not_stuck :
    let s₁ := (started task).goto () (.yielded "t" "g" 0 [])
    let s₂ := s₁.ack "t" (some "1-0") "g"
    let steps := startedSteps task ++ [(started task, .yield () "t" "g" 0
      { Message.from_dict ⟨"m", "c", "now"⟩ [] with transport_msg_id := some (.id "1-0") })] ++
      [(s₁, .ack "t" (some "1-0") "g")] ++ [(s₂, .resume ())]
    Lts.Throughout (NoStuck loads_empty) steps (s₂.goto () (.reading "t" "g" [])) := by
  intro s₁ s₂ steps
  have hpath : Lts.Path (Step loads_empty) init steps (s₂.goto () (.reading "t" "g" [])) :=
    .step (.step (.step (started_path task) (.yield ⟨"m", "c", "now"⟩ rfl rfl message_task))
      (.ack "t" (some "1-0") "g")) (.resume rfl)
  refine (no_stuck_iff hpath).mpr ?_
  simp only [steps, startedSteps, Lts.AllMeet, List.forall_mem_append, List.forall_mem_cons]
  refine ⟨⟨⟨⟨trivial, trivial, trivial, ?_, List.forall_mem_nil _⟩, trivial, List.forall_mem_nil _⟩, trivial,
    List.forall_mem_nil _⟩, ?_, List.forall_mem_nil _⟩
  · rintro t g hc i hi
    cases hc
    rw [List.mem_singleton.mp hi]
    rfl
  · intro t g i hcurrent hi
    have hcurrent : (if "t" = t ∧ "g" = g then some 0 else none) = some i := hcurrent
    split at hcurrent
    · rename_i htg
      obtain ⟨rfl, rfl⟩ := htg
      have hempty : s₂.pending "t" "g" = [] := rfl
      rw [hempty] at hi
      cases hi
    · cases hcurrent

/-- An entry that is pending and that no subscription holds is stuck. -/
theorem stuck_of_not_held {steps : List (RedisStreams ι × Label ι)}
    (h : Lts.Path (Step loads) init steps s) {t g : String} (hi : i ∈ s.pending t g)
    (hheld : ¬ (s.Readable loads t i ∧ ∃ c, i ∈ (s.phase c).held t g)) :
    ¬ s.YieldsLater loads t g i ∧ ¬ NoStuck loads s := by
  have hinv : Inv loads s := (h.throughout inv_init fun _ _ _ => inv_step).1
  exact ⟨fun hlater => hheld (hlater.held hinv (hinv.pending t g i hi)),
    fun hs => hheld ((no_stuck_iff_held hinv).mp hs t g i hi)⟩

/-- An entry without data is pending for ever: its loop passes over it without an `ack`. -/
theorem unreadable_stuck : ∃ steps, ∃ s : RedisStreams Unit, Lts.Path (Step loads_empty) init steps s ∧
    0 ∈ s.pending "t" "g" ∧ ¬ s.YieldsLater loads_empty "t" "g" 0 ∧ ¬ NoStuck loads_empty s := by
  have hpath : Lts.Path (Step loads_empty) init _ ((started ⟨"1-0", []⟩).goto () (.reading "t" "g" [])) :=
    .step (started_path _) (.skip rfl rfl)
  have hpending : 0 ∈ ((started ⟨"1-0", []⟩).goto () (.reading "t" "g" [])).pending "t" "g" := by decide
  exact ⟨_, _, hpath, hpending, stuck_of_not_held hpath hpending fun h => nomatch h.1⟩

/-- A message whose handler fails and is not acknowledged, to be handled again, is never yielded again. -/
theorem retry_stuck : ∃ steps, ∃ s : RedisStreams Unit, Lts.Path (Step loads_empty) init steps s ∧
    0 ∈ s.pending "t" "g" ∧ ¬ s.YieldsLater loads_empty "t" "g" 0 ∧ ¬ NoStuck loads_empty s := by
  have hpath : Lts.Path (Step loads_empty) init _
      (((started task).goto () (.yielded "t" "g" 0 [])).goto () (.reading "t" "g" [])) :=
    .step (.step (started_path task) (.yield ⟨"m", "c", "now"⟩ rfl rfl message_task)) (.resume rfl)
  have hpending : 0 ∈ (((started task).goto () (.yielded "t" "g" 0 [])).goto ()
      (.reading "t" "g" [])).pending "t" "g" := by decide
  exact ⟨_, _, hpath, hpending, stuck_of_not_held hpath hpending fun h => nomatch h.2⟩

end RedisStreams

end Aqap.Transport
