import Aqap.Py.Heap
import Aqap.Core.Config

/-!
# Loading a configuration

`AQAPConfig` with its objects: an alias in the file is a second name of a mapping, and what a variable writes
under one of the names is found under the other one.

* `assign_path_ok_iff`, `writes_of_assign_path`: one variable.
* `env_override_ok_iff`, `writes_of_env_override`: all of them.
-/

namespace Aqap.AQAPConfig

open Py
open Config (convert parts ENV_PREFIX assign_error through_error)

/-- The dictionaries and lists of the process. -/
abbrev Objects := Heap YamlKey Yaml

/-- An item: a value that is no dictionary and no list, or the address of one. -/
abbrev Ref := Link Nat Yaml

/-! ## Objects that are made -/

mutual

/-- A literal as objects, those of its items first. -/
def store (h : Objects) : Yaml → Objects × Ref
  | .map items =>
    let stored := store_items h items
    (stored.1 ++ [.dict stored.2], .node stored.1.length)
  | .seq items =>
    let stored := store_list h items
    (stored.1 ++ [.list stored.2], .node stored.1.length)
  | v => (h, .atom v)

def store_item (h : Objects) : YamlKey × Yaml → Objects × YamlKey × Ref
  | (k, v) =>
    let stored := store h v
    (stored.1, k, stored.2)

def store_items (h : Objects) : YamlItems → Objects × List (YamlKey × Ref)
  | [] => (h, [])
  | e :: items =>
    let stored := store_item h e
    let rest := store_items stored.1 items
    (rest.1, stored.2 :: rest.2)

def store_list (h : Objects) : List Yaml → Objects × List Ref
  | [] => (h, [])
  | v :: items =>
    let stored := store h v
    let rest := store_list stored.1 items
    (rest.1, stored.2 :: rest.2)

end

/-- The dictionaries of the class attribute. -/
def DEFAULTS : Objects := (store [] (.map Config.DEFAULTS)).1

/-- The address of the outermost one of them. -/
def root : Nat := 8

example : store [] (.map Config.DEFAULTS) = (DEFAULTS, .node root) := by
  rfl

/-! ## The methods -/

/-- What a method leaves, and its exception. -/
abbrev Result := Objects × Except String Unit

/-- What is next, if nothing was raised. -/
def Result.andThen (r : Result) (next : Objects → Result) : Result :=
  match r with
  | (h, .error e) => (h, .error e)
  | (h, .ok ()) => next h

theorem Result.andThen_of_ok {r : Result} (h : r.2 = .ok ()) (next : Objects → Result) :
    r.andThen next = next r.1 := by
  obtain ⟨h', result⟩ := r
  cases h
  rfl

theorem Result.ok_of_andThen {r : Result} {next : Objects → Result} (h : (r.andThen next).2 = .ok ()) :
    r.2 = .ok () := by
  obtain ⟨h', e | -⟩ := r
  · cases h
  · rfl

/-- `self._data` -/
def data : Nat := DEFAULTS.length

/-- `self._data = dict(self.DEFAULTS)` -/
def copied : Objects := DEFAULTS.copy root

/-- `sys.getrecursionlimit()` -/
def recursion_limit : Nat := 1000

/-- One turn of the loop of `_merge`, with the call that it makes. -/
def merge_item (merge : Nat → Nat → Objects → Result) (base : Nat) (h : Objects) (key : YamlKey) (value : Ref) :
    Result :=
  match h.graph.child base (.key key), value with
  | some (.node b), .node o =>
    if h.graph.dict b && h.graph.dict o then merge b o h else (h.assign base key value, .ok ())
  | _, _ => (h.assign base key value, .ok ())

/-- The loop, up to the first exception. -/
def merge_items (merge : Nat → Nat → Objects → Result) (base : Nat) (h : Objects) : List (YamlKey × Ref) → Result
  | [] => (h, .ok ())
  | (key, value) :: items =>
    (merge_item merge base h key value).andThen fun h => merge_items merge base h items

/-- `_merge(base, overlay)`, with the calls that are left until the limit. The mappings of the file are not
changed meanwhile. -/
def _merge : Nat → Nat → Nat → Objects → Result
  | 0, _, _, h => (h, .error "maximum recursion depth exceeded")
  | calls + 1, base, overlay, h => merge_items (_merge calls) base h (h.items overlay)

/-- `target[key_part] = …` -/
def assign_last (val : String) (h : Objects) (target : Ref) (key_part : String) : Result :=
  match convert val with
  | .error e => (h, .error e)
  | .ok c =>
    match target with
    | .node n =>
      if h.graph.dict n then (h.assign n (.str key_part) (.atom c), .ok ())
      else (h, .error "list indices must be integers or slices, not str")
    | .atom v => (h, .error (assign_error v))

/-- The loop over `parts[:-1]` from a target, and the assignment to `parts[-1]`. -/
def assign_path (val : String) (h : Objects) (target : Ref) : List String → Result
  | [] => (h, .ok ())
  | [key_part] => assign_last val h target key_part
  | part :: parts =>
    match target with
    | .node n =>
      if h.graph.dict n then
        match h.graph.child n (.key (.str part)) with
        | some child => assign_path val h child parts
        | none => assign_path val (h.alloc.assign n (.str part) (.node h.length)) (.node h.length) parts
      else (h, .error "list indices must be integers or slices, not str")
    | .atom v => (h, .error (through_error v part))

/-- `_env_override`, on the dictionary at the address: the variables in the order of the environment, up to the
first that raises. -/
def _env_override (data : Nat) (h : Objects) : List (String × String) → Result
  | [] => (h, .ok ())
  | (key, val) :: environ =>
    if ENV_PREFIX.isPrefixOf key.toList then
      (assign_path val h (.node data) (parts key)).andThen fun h => _env_override data h environ
    else _env_override data h environ

/-- What `yaml.safe_load` returns: its objects, at addresses of their own, and the document. -/
structure Document where
  objects : Objects
  item : Ref

/-- `bool(user_cfg)` -/
def Document.truthy (d : Document) : Bool :=
  match d.item with
  | .atom v => v.truthy
  | .node n => (d.objects[n]?).any Container.truthy

/-- `type(user_cfg).__name__` -/
def Document.type_name (d : Document) : String :=
  match d.item with
  | .atom v => v.type_name
  | .node n => if d.objects.graph.dict n then "dict" else "list"

/-- What a configuration is loaded from: the result of reading the file, if it exists, and the environment. -/
structure Source where
  file : Option (Except String Document)
  environ : List (String × String)

/-- `_load` -/
def _load (source : Source) : Result :=
  match source.file with
  | none => _env_override data copied source.environ
  | some (.error e) => (copied, .error e)
  | some (.ok d) =>
    let h := copied.append d.objects
    if d.truthy then
      match d.item with
      | .node n =>
        if d.objects.graph.dict n then
          (_merge recursion_limit data (copied.length + n) h).andThen fun h => _env_override data h source.environ
        else (h, .error ("'" ++ d.type_name ++ "' object has no attribute 'items'"))
      | .atom _ => (h, .error ("'" ++ d.type_name ++ "' object has no attribute 'items'"))
    else _env_override data h source.environ

/-- `get(*keys)` from a target, with `default=None` -/
def get (h : Objects) (target : Ref) : List String → Ref
  | [] => target
  | k :: keys =>
    match target with
    | .node n =>
      if h.graph.dict n then get h ((h.graph.child n (.key (.str k))).getD (.atom .null)) keys else .atom .null
    | .atom _ => .atom .null

/-! ## One variable -/

/-- The keys of a path of names. -/
def keys (parts : List String) : List YamlKey := parts.map .str

variable {h : Objects} {n : Nat} {val : String} {c : Yaml}

theorem assign_path_last (hn : h.graph.dict n = true) (hc : convert val = .ok c) (part : String) :
    assign_path val h (.node n) [part] = (h.assign n (.str part) (.atom c), .ok ()) := by
  rw [assign_path, assign_last, hc]
  exact if_pos hn

theorem assign_path_cons (target : Ref) (part next : String) (parts : List String) :
    assign_path val h target (part :: next :: parts) =
      match target with
      | .node n =>
        if h.graph.dict n then
          match h.graph.child n (.key (.str part)) with
          | some child => assign_path val h child (next :: parts)
          | none => assign_path val (h.alloc.assign n (.str part) (.node h.length)) (.node h.length) (next :: parts)
        else (h, .error "list indices must be integers or slices, not str")
      | .atom v => (h, .error (through_error v part)) := rfl

/-- Nothing is assigned to below of a value. -/
theorem assign_path_atom_ne (val : String) (h : Objects) (v : Yaml) (part : String) (parts : List String) :
    (assign_path val h (.atom v) (part :: parts)).2 ≠ .ok () := by
  cases parts with
  | nil =>
    rw [assign_path, assign_last]
    cases convert val <;> nofun
  | cons next parts =>
    rw [assign_path_cons]
    nofun

/-- Nor of a list. -/
theorem assign_path_list_ne (val : String) (hn : ¬ h.graph.dict n = true) (part : String) (parts : List String) :
    (assign_path val h (.node n) (part :: parts)).2 ≠ .ok () := by
  cases parts with
  | nil =>
    rw [assign_path, assign_last]
    cases convert val with
    | error e => nofun
    | ok c =>
      dsimp only
      rw [if_neg hn]
      nofun
  | cons next parts =>
    rw [assign_path_cons]
    dsimp only
    rw [if_neg hn]
    nofun

/-- What an assignment leaves, and that it was one. -/
structure Written (h : Objects) (n : Nat) (path : List YamlKey) (c : Yaml) (h' : Objects) : Prop where
  closed : h'.Closed
  writes : Graph.Writes c h.graph n path h'.graph

theorem slot_eq_none_of_list (hn : ¬ h.graph.dict n = true) (k : YamlKey) (p : List (Access YamlKey)) :
    h.graph.slot n (.key k :: p) = none := by
  cases hslot : h.graph.slot n (.key k :: p) with
  | none => rfl
  | some t => exact absurd (Graph.dict_of_slot_key hslot) hn

/-- A path that begins at a list. -/
theorem assign_path_spec_list (hn : ¬ h.graph.dict n = true) (part : String) (parts : List String) :
    ((assign_path val h (.node n) (part :: parts)).2 = .ok () ↔
        (h.graph.slot n (keyed (keys (part :: parts)))).isSome) ∧
      ((assign_path val h (.node n) (part :: parts)).2 = .ok () →
        Written h n (keys (part :: parts)) c (assign_path val h (.node n) (part :: parts)).1) := by
  have hne := assign_path_list_ne val hn part parts
  refine ⟨iff_of_false hne ?_, fun hok => absurd hok hne⟩
  show ¬ (h.graph.slot n (.key (.str part) :: keyed (keys parts))).isSome = true
  rw [slot_eq_none_of_list hn]
  exact Bool.false_ne_true

theorem assign_path_spec (hclosed : h.Closed) (hc : convert val = .ok c) (part : String) (parts : List String) :
    ((assign_path val h (.node n) (part :: parts)).2 = .ok () ↔
        (h.graph.slot n (keyed (keys (part :: parts)))).isSome) ∧
      ((assign_path val h (.node n) (part :: parts)).2 = .ok () →
        Written h n (keys (part :: parts)) c (assign_path val h (.node n) (part :: parts)).1) := by
  induction parts generalizing h n part with
  | nil =>
    by_cases hn : h.graph.dict n = true
    · rw [assign_path_last hn hc]
      refine ⟨iff_of_true rfl ?_, fun _ => ⟨hclosed.assign hn nofun, .last (Heap.assigned hn _ c)⟩⟩
      show (h.graph.slot n [.key (.str part)]).isSome = true
      rw [Graph.slot_singleton_of_dict hn]
      rfl
    · exact assign_path_spec_list hn part []
  | cons next parts ih =>
    by_cases hn : h.graph.dict n = true
    swap
    · exact assign_path_spec_list hn part (next :: parts)
    have hkeyed : keyed (keys (next :: parts)) ≠ [] := List.cons_ne_nil _ _
    have hkeys : keys (next :: parts) ≠ [] := List.cons_ne_nil _ _
    show (_ ↔ (h.graph.slot n (.key (.str part) :: keyed (keys (next :: parts)))).isSome = true) ∧ _
    rw [assign_path_cons]
    dsimp only
    rw [if_pos hn]
    cases hchild : h.graph.child n (.key (.str part)) with
    | none =>
      have hcreated := Heap.created hclosed hn hchild
      obtain ⟨hok, hwrites⟩ := ih (n := h.length) (hclosed.create hn (k := .str part)) next
      have hall : (keyed (keys (next :: parts))).all Access.isKey = true := by simp [Access.isKey]
      rw [hcreated.slot_new, if_pos ⟨hkeyed, hall⟩] at hok
      refine ⟨hok.trans (iff_of_true rfl ?_), fun h' => ?_⟩
      · rw [Graph.slot_cons_of_none hchild, hn, List.all_cons, hall]
        rfl
      · exact ⟨(hwrites h').closed, .create hcreated hkeys (hwrites h').writes⟩
    | some child =>
      cases child with
      | atom v =>
        rw [Graph.slot_cons_of_atom hchild hkeyed]
        have hne := assign_path_atom_ne val h v next parts
        exact ⟨iff_of_false hne Bool.false_ne_true, fun hok => absurd hok hne⟩
      | node m =>
        rw [Graph.slot_cons_of_node hchild hkeyed]
        obtain ⟨hok, hwrites⟩ := ih (n := m) hclosed next
        exact ⟨hok, fun h' => ⟨(hwrites h').closed, .down hchild hkeys (hwrites h').writes⟩⟩

/-! ## All variables -/

/-- The variables that are read. -/
def overrides (environ : List (String × String)) : List (String × String) :=
  environ.filter fun e => ENV_PREFIX.isPrefixOf e.1.toList

/-- The keys that a variable leads through. -/
@[irreducible]
def steps (key : String) : List YamlKey := keys (parts key)

/-- What a variable stands for, if it stands for anything. -/
@[irreducible]
def value_of (val : String) : Yaml := (convert val).toOption.getD .null

/-- The assignments of the variables. -/
def assignments (environ : List (String × String)) : List (List YamlKey × Yaml) :=
  (overrides environ).map fun e => (steps e.1, value_of e.2)

theorem parts_eq_cons (key : String) : ∃ part rest, parts key = part :: rest := by
  unfold parts
  obtain ⟨part, rest, h⟩ := List.exists_cons_of_ne_nil
    (List.splitOnP_ne_nil (· == '_') (Unicode.lower (String.ofList (key.toList.drop ENV_PREFIX.length))).toList)
  exact ⟨String.ofList part, rest.map String.ofList, by rw [List.splitOn, h, List.map_cons]⟩

theorem value_of_convert (hc : convert val = .ok c) : value_of val = c := by
  rw [value_of, hc]
  rfl

/-- A value that does not convert is assigned nowhere. -/
theorem assign_path_error_ne {e : String} (hc : convert val = .error e) (target : Ref) (part : String)
    (parts : List String) : (assign_path val h target (part :: parts)).2 ≠ .ok () := by
  induction parts generalizing h target part with
  | nil =>
    rw [assign_path, assign_last, hc]
    nofun
  | cons next parts ih =>
    cases target with
    | atom v => exact assign_path_atom_ne val h v part _
    | node n =>
      by_cases hn : h.graph.dict n = true
      · rw [assign_path_cons]
        dsimp only
        rw [if_pos hn]
        split
        · exact ih _ next
        · exact ih _ next
      · exact assign_path_list_ne val hn part _

/-- One variable: when it is read, and what it writes. -/
theorem env_step_spec (hclosed : h.Closed) (n : Nat) (key val : String) :
    ((assign_path val h (.node n) (parts key)).2 = .ok () ↔
      (∃ c, convert val = .ok c) ∧ (h.graph.slot n (keyed (steps key))).isSome) ∧
      ((assign_path val h (.node n) (parts key)).2 = .ok () →
        Written h n (steps key) (value_of val) (assign_path val h (.node n) (parts key)).1) := by
  rw [steps]
  obtain ⟨part, rest, hparts⟩ := parts_eq_cons key
  rw [hparts]
  cases hc : convert val with
  | error e =>
    have hne := assign_path_error_ne (h := h) hc (.node n) part rest
    refine ⟨iff_of_false hne ?_, fun hok => absurd hok hne⟩
    rintro ⟨⟨c, hc'⟩, -⟩
    cases hc'
  | ok c =>
    rw [value_of_convert hc]
    obtain ⟨hok, hwritten⟩ := assign_path_spec (n := n) hclosed hc part rest
    exact ⟨hok.trans (and_iff_right ⟨c, rfl⟩).symm, hwritten⟩

/-- **All variables: when they are read, and what they write.** -/
theorem env_override_spec (hclosed : h.Closed) (hn : h.graph.dict n = true) (environ : List (String × String)) :
    ((_env_override n h environ).2 = .ok () ↔
      (∀ e ∈ overrides environ, ∃ c, convert e.2 = .ok c) ∧
        h.graph.Allowed n ((overrides environ).map fun e => steps e.1)) ∧
      ((_env_override n h environ).2 = .ok () →
        Graph.WritesAll n h.graph (assignments environ) (_env_override n h environ).1.graph) := by
  induction environ generalizing h with
  | nil => exact ⟨iff_of_true rfl ⟨nofun, .nil⟩, fun _ => .nil⟩
  | cons e environ ih =>
    obtain ⟨key, val⟩ := e
    rw [_env_override]
    by_cases hkey : ENV_PREFIX.isPrefixOf key.toList
    · have hoverrides : overrides ((key, val) :: environ) = (key, val) :: overrides environ :=
        List.filter_cons_of_pos hkey
      have hassignments : assignments ((key, val) :: environ) = (steps key, value_of val) :: assignments environ := by
        rw [assignments, hoverrides]
        rfl
      rw [if_pos hkey, hassignments, hoverrides, List.map_cons, List.forall_mem_cons]
      obtain ⟨hread, hwritten⟩ := env_step_spec hclosed n key val
      by_cases hfirst : (assign_path val h (.node n) (parts key)).2 = .ok ()
      · obtain ⟨hclosed₁, hwrites⟩ := hwritten hfirst
        obtain ⟨hok, hall⟩ := ih hclosed₁ (hwrites.dict_of_dict hn)
        have hconverts := (hread.mp hfirst).1
        rw [Result.andThen_of_ok hfirst]
        refine ⟨hok.trans ?_, fun hok' => .cons hwrites (hall hok')⟩
        rw [hwrites.allowed_cons_iff (.inl hn)]
        exact and_congr_left fun _ => (and_iff_right hconverts).symm
      · have hraised : ¬ ((assign_path val h (.node n) (parts key)).andThen fun h => _env_override n h environ).2 =
            .ok () := fun hok => hfirst (Result.ok_of_andThen hok)
        refine ⟨iff_of_false hraised fun hall => ?_, fun hok => absurd hok hraised⟩
        exact hfirst (hread.mpr ⟨hall.1.1, hall.2.slots _ List.mem_cons_self⟩)
    · have hoverrides : overrides ((key, val) :: environ) = overrides environ := List.filter_cons_of_neg hkey
      have hassignments : assignments ((key, val) :: environ) = assignments environ := by
        rw [assignments, hoverrides]
        rfl
      rw [if_neg hkey, hassignments, hoverrides]
      exact ih hclosed hn

end Aqap.AQAPConfig
