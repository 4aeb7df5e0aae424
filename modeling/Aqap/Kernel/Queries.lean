import Aqap.Kernel.Schema
import Aqap.Rust.Sort
import Mathlib.Data.Prod.Lex

/-!
# The queries of the schema registry

`has`, `get`, `list` and `validate` against the writes of the registry: a `register` that succeeds writes one
schema, the first `load_builtins` writes the built-in ones, and every other call writes nothing.

* `replay`: the registry after any calls is the one that the writes alone give.
* `queries_agree`: the queries say the same of an id and a version, namely what the last write says.
-/

namespace Aqap.Kernel

open Py Rust

structure SchemaMeta where
  schema_id : String
  version : String
  title : String
  deriving DecidableEq

/-- What two entries are compared by: the id, then the version. -/
def SchemaMeta.key (entry : SchemaMeta) : String ×ₗ String := toLex (entry.schema_id, entry.version)

/-- What `list` and `load_builtins` use of `serde_json`. -/
structure SerdeJson (Value : Type) where
  /-- `serde_json::from_str` on the text of a file. -/
  from_file : String → Except String Value
  /-- `schema.get("title").and_then(|t| t.as_str())` -/
  title : Value → Option String

/-- The registry with the flag of `load_builtins`. -/
structure BuiltinRegistry (Value : Type) extends SchemaRegistry Value where
  builtins_loaded : Bool

/-- A call that changes the registry. -/
inductive Op (PyAny : Type) where
  | register (schema_id : String) (schema : PyAny) (version : String)
  | load_builtins

/-- A schema that is stored. -/
structure Write (Value : Type) where
  schema_id : String
  version : String
  schema : Value

namespace SchemaRegistry

variable {PyAny Value : Type} (py : Bindings PyAny Value) (json : SerdeJson Value)
  (iter_ids : Iteration (String × Dict String Value)) (iter : String → Iteration (String × Value))

/-- `has`: an id without versions counts as absent. -/
def has (self : SchemaRegistry Value) (schema_id : String) (version : Option String) : Bool :=
  match self.schemas.get? schema_id with
  | some versions =>
    match version with
    | some v => (versions.get? v).isSome
    | none => !versions.items.isEmpty
  | none => false

/-- The entries in the order of the two maps; the versions of each id are iterated in an order of their
own. -/
def metas (self : SchemaRegistry Value) : List SchemaMeta :=
  (iter_ids.order self.schemas.items).flatMap fun e =>
    ((iter e.1).order e.2.items).map fun f => ⟨e.1, f.1, (json.title f.2).getD e.1⟩

/-- `list`: sorted by id and version. -/
def list (self : SchemaRegistry Value) : List SchemaMeta :=
  sort_by_key SchemaMeta.key (self.metas json iter_ids iter)

/-- The built-in schemas with their files. -/
def builtins : List (String × String) := [
  ("aqap:schema:task.v3", "schemas/task_v3.json"),
  ("aqap:schema:result.v3", "schemas/result_v3.json"),
  ("aqap:schema:verdict.v3", "schemas/verdict_v3.json"),
  ("aqap:schema:report.v3", "schemas/report_v3.json"),
  ("aqap:schema:heartbeat.v3", "schemas/heartbeat_v3.json"),
  ("aqap:schema:error.v3", "schemas/error_v3.json"),
  ("aqap:schema:dlq.v3", "schemas/dlq_v3.json")]

/-- The loop of `load_builtins`; a file that is no JSON ends it. -/
def load (self : SchemaRegistry Value) : List (String × String) → SchemaRegistry Value × Except String Unit
  | [] => (self, .ok ())
  | (schema_id, schema_text) :: rest =>
    match json.from_file schema_text with
    | .error e => (self, .error ("Failed to parse built-in schema " ++ schema_id ++ ": " ++ e))
    | .ok schema_value => load (self.insert schema_id schema_value "3.0.0") rest

end SchemaRegistry

namespace BuiltinRegistry

open SchemaRegistry

variable {PyAny Value : Type} (py : Bindings PyAny Value) (json : SerdeJson Value)

def new : BuiltinRegistry Value := ⟨SchemaRegistry.new, false⟩

/-- `load_builtins`: the files are loaded once, and again after one that was no JSON. -/
def load_builtins (self : BuiltinRegistry Value) : BuiltinRegistry Value × Except String Unit :=
  if self.builtins_loaded then (self, .ok ())
  else
    match self.toSchemaRegistry.load json builtins with
    | (loaded, .error e) => (⟨loaded, false⟩, .error e)
    | (loaded, .ok ()) => (⟨loaded, true⟩, .ok ())

/-- The registry after a call, whether the call raises or not. -/
def apply (self : BuiltinRegistry Value) : Op PyAny → BuiltinRegistry Value
  | .register schema_id schema version =>
    match self.toSchemaRegistry.register py schema_id schema version with
    | .ok registered => ⟨registered, self.builtins_loaded⟩
    | .error _ => self
  | .load_builtins => (self.load_builtins json).1

/-- The registry after the calls. -/
def history (ops : List (Op PyAny)) : BuiltinRegistry Value := ops.foldl (apply py json) new

end BuiltinRegistry

/-! ## The writes -/

section

variable {PyAny Value : Type} (py : Bindings PyAny Value) (json : SerdeJson Value)

/-- The built-in schemas up to the first file that is no JSON, and whether there is no such file. -/
def file_writes : List (String × String) → List (Write Value) × Bool
  | [] => ([], true)
  | (schema_id, schema_text) :: rest =>
    match json.from_file schema_text with
    | .error _ => ([], false)
    | .ok schema => (⟨schema_id, "3.0.0", schema⟩ :: (file_writes rest).1, (file_writes rest).2)

/-- What a call writes, and whether the built-in schemas are loaded after it. -/
def op_writes (loaded : Bool) : Op PyAny → List (Write Value) × Bool
  | .register schema_id schema version =>
    match py.python_value_to_json schema with
    | .ok value => ([⟨schema_id, version, value⟩], loaded)
    | .error _ => ([], loaded)
  | .load_builtins => if loaded then ([], true) else file_writes json SchemaRegistry.builtins

/-- What the calls write, in their order. -/
def writes (loaded : Bool) : List (Op PyAny) → List (Write Value)
  | [] => []
  | op :: ops => (op_writes py json loaded op).1 ++ writes (op_writes py json loaded op).2 ops

/-- The schema of the last write to an id and a version. -/
def last_write (written : List (Write Value)) (schema_id version : String) : Option Value :=
  written.foldl (fun found w =>
    if schema_id = w.schema_id ∧ version = w.version then some w.schema else found) none

end

namespace SchemaRegistry

variable {PyAny Value : Type} {py : Bindings PyAny Value} {json : SerdeJson Value}
  {iter_ids : Iteration (String × Dict String Value)} {iter : String → Iteration (String × Value)}

def write (self : SchemaRegistry Value) (w : Write Value) : SchemaRegistry Value :=
  self.insert w.schema_id w.schema w.version

variable (json) in
theorem load_eq (self : SchemaRegistry Value) (files : List (String × String)) :
    (self.load json files).1 = (file_writes json files).1.foldl write self ∧
      ((self.load json files).2.isOk = (file_writes json files).2) := by
  induction files generalizing self with
  | nil => exact ⟨rfl, rfl⟩
  | cons e files ih =>
    obtain ⟨schema_id, schema_text⟩ := e
    unfold load file_writes
    cases json.from_file schema_text with
    | error e => exact ⟨rfl, rfl⟩
    | ok value => exact ih _

variable (py json) in
/-- One call stores what it writes. -/
theorem apply_eq (self : BuiltinRegistry Value) (op : Op PyAny) :
    (self.apply py json op).toSchemaRegistry =
        (op_writes py json self.builtins_loaded op).1.foldl write self.toSchemaRegistry ∧
      (self.apply py json op).builtins_loaded = (op_writes py json self.builtins_loaded op).2 := by
  cases op with
  | register schema_id schema version =>
    simp only [BuiltinRegistry.apply, op_writes, register]
    cases py.python_value_to_json schema with
    | error e => exact ⟨rfl, rfl⟩
    | ok value => exact ⟨rfl, rfl⟩
  | load_builtins =>
    simp only [BuiltinRegistry.apply, op_writes, BuiltinRegistry.load_builtins]
    cases hloaded : self.builtins_loaded with
    | true => exact ⟨rfl, hloaded⟩
    | false =>
      obtain ⟨hstored, hflag⟩ := load_eq json self.toSchemaRegistry builtins
      rw [if_neg Bool.false_ne_true, if_neg Bool.false_ne_true, ← hstored, ← hflag]
      rcases self.toSchemaRegistry.load json builtins with ⟨loaded, e | -⟩
      · exact ⟨rfl, rfl⟩
      · exact ⟨rfl, rfl⟩

variable (json) in
/-- A schema that is no JSON changes nothing. -/
theorem apply_register_error (self : BuiltinRegistry Value) (schema_id version : String) {schema : PyAny}
    {e : String} (h : py.python_value_to_json schema = .error e) :
    self.apply py json (.register schema_id schema version) = self := by
  simp only [BuiltinRegistry.apply, register, h, Except.map]

/-- **The writes.** The registry after any calls is the one that the writes give. -/
theorem replay (ops : List (Op PyAny)) :
    (BuiltinRegistry.history py json ops).toSchemaRegistry =
      (writes py json false ops).foldl write new := by
  have hrun (self : BuiltinRegistry Value) : (ops.foldl (BuiltinRegistry.apply py json) self).toSchemaRegistry =
      (writes py json self.builtins_loaded ops).foldl write self.toSchemaRegistry := by
    induction ops generalizing self with
    | nil => rfl
    | cons op ops ih =>
      obtain ⟨hstored, hflag⟩ := apply_eq py json self op
      rw [List.foldl_cons, ih, hstored, hflag, writes, List.foldl_append]
  exact hrun BuiltinRegistry.new

theorem find_replay (written : List (Write Value)) (schema_id version : String) :
    (written.foldl write new).find schema_id version = last_write written schema_id version := by
  induction written using List.reverseRecOn with
  | nil => rfl
  | append_singleton written w ih =>
    unfold last_write at ih ⊢
    rw [List.foldl_append, List.foldl_append, List.foldl_cons, List.foldl_nil, List.foldl_cons,
      List.foldl_nil, ← ih]
    exact find_insert ..

/-- No id has an empty map of versions. -/
def Inhabited (self : SchemaRegistry Value) : Prop :=
  ∀ schema_id versions, self.schemas.get? schema_id = some versions → versions.items ≠ []

theorem inhabited_write {self : SchemaRegistry Value} (h : self.Inhabited) (w : Write Value) :
    (self.write w).Inhabited := by
  intro schema_id versions hversions
  unfold write insert at hversions
  rw [Dict.get?_set] at hversions
  split at hversions
  · obtain rfl := Option.some.inj hversions
    apply List.ne_nil_of_mem (a := (w.version, w.schema))
    rw [Dict.mem_items_iff, Dict.get?_set, if_pos rfl]
  · exact h schema_id versions hversions

theorem inhabited_replay (written : List (Write Value)) : (written.foldl write new).Inhabited := by
  induction written using List.reverseRecOn with
  | nil =>
    intro schema_id versions hversions
    cases hversions
  | append_singleton written w ih =>
    rw [List.foldl_append, List.foldl_cons, List.foldl_nil]
    exact inhabited_write ih w

/-! ## The queries -/

theorem has_iff (self : SchemaRegistry Value) (schema_id v : String) :
    self.has schema_id (some v) = true ↔ (self.find schema_id v).isSome = true := by
  unfold has find
  cases self.schemas.get? schema_id with
  | none => simp
  | some versions => simp

theorem has_none_iff {self : SchemaRegistry Value} (schema_id : String) :
    self.has schema_id none = true ↔ ∃ v, (self.find schema_id v).isSome = true := by
  unfold has find
  cases hversions : self.schemas.get? schema_id with
  | none => simp
  | some versions =>
    simp only [Option.bind_some, Bool.not_eq_true', List.isEmpty_eq_false_iff_exists_mem]
    constructor
    · rintro ⟨⟨v, schema⟩, hmem⟩
      exact ⟨v, by rw [Dict.mem_items_iff.mp hmem]; rfl⟩
    · rintro ⟨v, hv⟩
      obtain ⟨schema, hschema⟩ := Option.isSome_iff_exists.mp hv
      exact ⟨(v, schema), Dict.mem_items_iff.mpr hschema⟩

theorem get_eq (self : SchemaRegistry Value) (iter : Iteration (String × Value)) (schema_id v : String) :
    self.get py iter schema_id (some v) = (self.find schema_id v).bind py.json_to_python := by
  unfold get find
  cases self.schemas.get? schema_id with
  | none => rfl
  | some versions => rfl

/-- The entries are what the id and the version give. -/
theorem mem_list_iff {self : SchemaRegistry Value} {entry : SchemaMeta} :
    entry ∈ self.list json iter_ids iter ↔ ∃ schema, self.find entry.schema_id entry.version = some schema ∧
      entry.title = (json.title schema).getD entry.schema_id := by
  obtain ⟨schema_id, v, title⟩ := entry
  unfold list metas find
  rw [mem_sort, List.mem_flatMap]
  simp only [List.mem_map, SchemaMeta.mk.injEq, Prod.exists, (iter_ids.perm _).mem_iff,
    ((iter _).perm _).mem_iff, Dict.mem_items_iff, Option.bind_eq_some_iff]
  constructor
  · rintro ⟨schema_id, versions, hversions, v, schema, hschema, rfl, rfl, rfl⟩
    exact ⟨schema, ⟨versions, hversions, hschema⟩, rfl⟩
  · rintro ⟨schema, ⟨versions, hversions, hschema⟩, rfl⟩
    exact ⟨schema_id, versions, hversions, v, schema, hschema, rfl, rfl, rfl⟩

theorem nodup_metas (self : SchemaRegistry Value) :
    ((self.metas json iter_ids iter).map SchemaMeta.key).Nodup := by
  unfold metas
  rw [List.map_flatMap, List.nodup_flatMap]
  constructor
  · intro e _
    have hnodup : (((iter e.1).order e.2.items).map Prod.fst).Nodup :=
      (((iter e.1).perm _).map Prod.fst).nodup_iff.mpr e.2.nodup
    rw [List.map_map]
    have hkeys : (((iter e.1).order e.2.items).map Prod.fst).map (fun v => toLex (e.1, v)) =
        ((iter e.1).order e.2.items).map
          (SchemaMeta.key ∘ fun f => ⟨e.1, f.1, (json.title f.2).getD e.1⟩) := by
      rw [List.map_map]
      rfl
    rw [← hkeys]
    apply hnodup.map
    intro v w heq
    exact (Prod.mk.inj (toLex.injective heq)).2
  · have hnodup : ((iter_ids.order self.schemas.items).map Prod.fst).Nodup :=
      ((iter_ids.perm _).map Prod.fst).nodup_iff.mpr self.schemas.nodup
    apply (List.pairwise_map.mp hnodup).imp
    intro e e' hne k hk hk'
    obtain ⟨_, hentry, rfl⟩ := List.mem_map.mp hk
    obtain ⟨_, hentry', heq⟩ := List.mem_map.mp hk'
    obtain ⟨f, -, rfl⟩ := List.mem_map.mp hentry
    obtain ⟨f', -, rfl⟩ := List.mem_map.mp hentry'
    exact hne (Prod.mk.inj (toLex.injective heq)).1.symm

theorem pairwise_list (self : SchemaRegistry Value) :
    (self.list json iter_ids iter).Pairwise fun a b =>
      a.schema_id < b.schema_id ∨ a.schema_id = b.schema_id ∧ a.version < b.version := by
  apply (pairwise_lt_sort (self.nodup_metas)).imp
  intro a b hlt
  exact Prod.Lex.toLex_lt_toLex.mp hlt

/-- An id and a version have one entry or none. -/
theorem count_list (self : SchemaRegistry Value) (schema_id v : String) :
    ((self.list json iter_ids iter).map fun entry => (entry.schema_id, entry.version)).count (schema_id, v) =
      if (self.find schema_id v).isSome then 1 else 0 := by
  have hnodup : ((self.list json iter_ids iter).map
      fun entry => (entry.schema_id, entry.version)).Nodup := by
    apply List.pairwise_map.mpr
    apply self.pairwise_list.imp
    rintro a b (hid | ⟨-, hv⟩) heq
    · exact absurd (Prod.mk.inj heq).1 hid.ne
    · exact absurd (Prod.mk.inj heq).2 hv.ne
  rw [hnodup.count]
  refine if_congr ?_ rfl rfl
  rw [List.mem_map]
  constructor
  · rintro ⟨entry, hmem, heq⟩
    obtain ⟨schema, hschema, -⟩ := mem_list_iff.mp hmem
    rw [← (Prod.mk.inj heq).1, ← (Prod.mk.inj heq).2, hschema]
    rfl
  · intro hsome
    obtain ⟨schema, hschema⟩ := Option.isSome_iff_exists.mp hsome
    exact ⟨⟨schema_id, v, (json.title schema).getD schema_id⟩, mem_list_iff.mpr ⟨schema, hschema, rfl⟩, rfl⟩

/-- The results of `validate` that say that there is no such id, or no such version of it. -/
def NotFound (schema_id : String) (version : Option String)
    (result : Res String (ValidationResult PyAny)) : Prop :=
  result = .ok ⟨false, ["Schema not found: " ++ schema_id], schema_id, none⟩ ∨
    ∃ v, version = some v ∧
      result = .ok ⟨false, ["Schema version not found: " ++ schema_id ++ " v" ++ v], schema_id, none⟩

/-- With a schema that was found, the text of the only result without data is another one. -/
theorem not_notFound_validate_schema (schema_id : String) (version : Option String) (data : PyAny)
    (schema : Value) : ¬ NotFound schema_id version (validate_schema py schema_id data schema) := by
  have hbegins (e rest : String) : "Schema compilation error: " ++ e ≠ "Schema not found: " ++ rest := by
    intro heq
    have := congrArg (fun s => s.toList[7]?) heq
    simp at this
  have hversion (e rest : String) :
      "Schema compilation error: " ++ e ≠ "Schema version not found: " ++ rest := by
    intro heq
    have := congrArg (fun s => s.toList[7]?) heq
    simp at this
  unfold validate_schema
  rintro (h | ⟨v, -, h⟩)
  all_goals
    cases hdata : py.python_value_to_json data with
    | error e => rw [hdata] at h; cases h
    | ok value =>
      rw [hdata] at h
      dsimp only at h
      cases hcompile : py.compile schema with
      | error e =>
        rw [hcompile] at h
        simp only [Res.ok.injEq, ValidationResult.mk.injEq, List.cons.injEq, String.append_assoc] at h
        first | exact hbegins _ _ h.2.1.1 | exact hversion _ _ h.2.1.1
      | ok compiled =>
        rw [hcompile] at h
        simp at h

variable (py) in
theorem validate_some (self : SchemaRegistry Value) (iter : Iteration (String × Value))
    (schema_id v : String) (data : PyAny) :
    (∀ schema, self.find schema_id v = some schema →
      self.validate py iter schema_id data (some v) = validate_schema py schema_id data schema) ∧
    (self.find schema_id v = none →
      NotFound schema_id (some v) (self.validate py iter schema_id data (some v))) := by
  unfold find validate
  cases self.schemas.get? schema_id with
  | none => exact ⟨fun schema h => (by cases h), fun _ => .inl rfl⟩
  | some versions =>
    rw [Option.bind_some]
    dsimp only
    cases versions.get? v with
    | none => exact ⟨fun schema h => (by cases h), fun _ => .inr ⟨v, rfl, rfl⟩⟩
    | some schema =>
      refine ⟨fun schema' h => ?_, fun h => by cases h⟩
      obtain rfl := Option.some.inj h
      rfl

theorem validate_ne_panic {self : SchemaRegistry Value} (h : self.Inhabited)
    (iter : Iteration (String × Value)) (schema_id : String) (data : PyAny) (version : Option String) :
    self.validate py iter schema_id data version ≠ .panic := by
  have hschema (schema : Value) : validate_schema py schema_id data schema ≠ .panic := by
    unfold validate_schema
    split
    · simp
    · split <;> simp
  unfold validate
  cases hversions : self.schemas.get? schema_id with
  | none => simp
  | some versions =>
    cases version with
    | some v =>
      dsimp only
      cases versions.get? v with
      | none => simp
      | some schema => exact hschema schema
    | none =>
      obtain ⟨⟨v, schema⟩, hmem⟩ := List.exists_mem_of_ne_nil _ (h schema_id versions hversions)
      have hsome : (versions.get? v).isSome = true := by
        rw [Dict.mem_items_iff.mp hmem]
        rfl
      obtain ⟨e, hlatest⟩ := exists_latest iter hsome
      dsimp only
      rw [hlatest]
      exact hschema e.2

/-- What the queries say of an id and a version that has the schema `stored`, or none. -/
structure Says (self : SchemaRegistry Value) (py : Bindings PyAny Value) (json : SerdeJson Value)
    (iter_ids : Iteration (String × Dict String Value)) (iter : String → Iteration (String × Value))
    (schema_id v : String) (stored : Option Value) : Prop where
  has : self.has schema_id (some v) = true ↔ stored.isSome = true
  get_isSome : (self.get py (iter schema_id) schema_id (some v)).isSome = true ↔ stored.isSome = true
  get : self.get py (iter schema_id) schema_id (some v) = stored.bind py.json_to_python
  list : ((self.list json iter_ids iter).map fun entry => (entry.schema_id, entry.version)).count
    (schema_id, v) = 1 ↔ stored.isSome = true
  title : ∀ entry ∈ self.list json iter_ids iter, entry.schema_id = schema_id → entry.version = v →
    stored.map (fun schema => (json.title schema).getD schema_id) = some entry.title
  found : ∀ data, ¬ NotFound schema_id (some v)
    (self.validate py (iter schema_id) schema_id data (some v)) ↔ stored.isSome = true
  validate : ∀ data schema, stored = some schema →
    self.validate py (iter schema_id) schema_id data (some v) = validate_schema py schema_id data schema

theorem says_find (self : SchemaRegistry Value)
    (hpy : ∀ value, (py.json_to_python value).isSome = true) (schema_id v : String) :
    self.Says py json iter_ids iter schema_id v (self.find schema_id v) where
  has := self.has_iff schema_id v
  get := self.get_eq (iter schema_id) schema_id v
  get_isSome := by
    rw [get_eq]
    cases self.find schema_id v with
    | none => rfl
    | some schema => simp [hpy]
  list := by
    rw [count_list]
    cases self.find schema_id v with
    | none => simp
    | some schema => simp
  title := by
    rintro entry hmem rfl rfl
    obtain ⟨schema, hschema, htitle⟩ := mem_list_iff.mp hmem
    rw [hschema, htitle]
    rfl
  found := by
    intro data
    obtain ⟨hsome, hnone⟩ := self.validate_some py (iter schema_id) schema_id v data
    cases hfind : self.find schema_id v with
    | none => exact iff_of_false (not_not_intro (hnone hfind)) (by simp)
    | some schema =>
      rw [hsome schema hfind]
      exact iff_of_true (not_notFound_validate_schema schema_id (some v) data schema) rfl
  validate := fun data => (self.validate_some py (iter schema_id) schema_id v data).1

/-- **The queries agree.** After any calls, `has`, `get`, `list` and `validate` say of every id and version
what its last write says. No id has an empty map of versions, so `validate` does not panic; the entries are
strictly sorted; and a `register` that fails changes nothing. -/
theorem queries_agree (hpy : ∀ value, (py.json_to_python value).isSome = true) (ops : List (Op PyAny)) :
    (∀ schema_id v, (BuiltinRegistry.history py json ops).Says py json iter_ids iter schema_id v
      (last_write (writes py json false ops) schema_id v)) ∧
    (∀ schema_id, (BuiltinRegistry.history py json ops).has schema_id none = true ↔
      ∃ v, (last_write (writes py json false ops) schema_id v).isSome = true) ∧
    (BuiltinRegistry.history py json ops).Inhabited ∧
    (∀ schema_id data version, (BuiltinRegistry.history py json ops).validate py (iter schema_id)
      schema_id data version ≠ .panic) ∧
    ((BuiltinRegistry.history py json ops).list json iter_ids iter).Pairwise (fun a b =>
      a.schema_id < b.schema_id ∨ a.schema_id = b.schema_id ∧ a.version < b.version) ∧
    ∀ schema_id schema version e, py.python_value_to_json schema = .error e →
      BuiltinRegistry.history py json (ops ++ [.register schema_id schema version]) =
        BuiltinRegistry.history py json ops := by
  have hinhabited : (BuiltinRegistry.history py json ops).Inhabited := by
    rw [replay]
    exact inhabited_replay _
  have hfind (schema_id v : String) : last_write (writes py json false ops) schema_id v =
      (BuiltinRegistry.history py json ops).find schema_id v := by
    rw [← find_replay, replay]
  refine ⟨?_, ?_, hinhabited, ?_, pairwise_list _, ?_⟩
  · intro schema_id v
    rw [hfind]
    exact says_find _ hpy schema_id v
  · intro schema_id
    simp only [hfind]
    exact has_none_iff schema_id
  · intro schema_id data version
    exact validate_ne_panic hinhabited (iter schema_id) schema_id data version
  · intro schema_id schema version e herror
    unfold BuiltinRegistry.history
    rw [List.foldl_append]
    exact apply_register_error json _ schema_id version herror

/-- The JSON files as 3, with no titles. -/
def number_json : SerdeJson Nat := ⟨fun _ => .ok 3, fun _ => none⟩

/-- A built-in schema that was registered anew before the second load of the built-in ones. -/
theorem queries_agree_reload :
    (∀ value : Nat, (number_bindings.json_to_python value).isSome = true) ∧
      last_write (writes number_bindings number_json false
        [.load_builtins, .register "aqap:schema:task.v3" 4 "3.0.0", .load_builtins])
        "aqap:schema:task.v3" "3.0.0" = some 4 ∧
      (BuiltinRegistry.history number_bindings number_json
        [.load_builtins, .register "aqap:schema:task.v3" 4 "3.0.0", .load_builtins]).Says number_bindings
        number_json ⟨id, fun _ => .refl _⟩ (fun _ => ⟨id, fun _ => .refl _⟩) "aqap:schema:task.v3" "3.0.0"
        (some 4) := by
  refine ⟨fun _ => rfl, by decide, ?_⟩
  exact (queries_agree (fun _ => rfl)
    [.load_builtins, .register "aqap:schema:task.v3" 4 "3.0.0", .load_builtins]).1 _ _

end SchemaRegistry

end Aqap.Kernel
