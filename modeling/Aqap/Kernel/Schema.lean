import Aqap.Py.Dict
import Aqap.Rust.Decimal
import Aqap.Rust.Res
import Aqap.Rust.Sort
import Mathlib.Data.List.Induction

/-!
# The schema registry

Schemas by id and version. Without a version, `get` and `validate` sort the versions of the id as strings
and take the last one.

* `latest_eq_some`: the version that is taken, whatever the order in which the map is iterated.
* `latest_registered`: what `get` and `validate` use after any registrations, and when it is the schema of
  the greatest version.
* `two_digits`: 1.9.0 comes after 1.10.0.
-/

namespace Aqap.Kernel

open Py Rust Rust.Decimal

/-- The order in which a `HashMap` is iterated: some order of its items. -/
structure Iteration (α : Type) where
  order : List α → List α
  perm : ∀ items, (order items).Perm items

/-- What the registry uses of Python's `json` module and of the `jsonschema` crate. -/
structure Bindings (PyAny Value : Type) where
  python_value_to_json : PyAny → Except String Value
  json_to_python : Value → Option PyAny
  none : PyAny
  /-- The errors of a value under a schema, or why the schema does not compile. -/
  compile : Value → Except String (Value → List String)

structure ValidationResult (PyAny : Type) where
  valid : Bool
  errors : List String
  schema_id : String
  data : Option PyAny

/-- schema_id -> version -> schema -/
structure SchemaRegistry (Value : Type) where
  schemas : Dict String (Dict String Value)

namespace SchemaRegistry

variable {PyAny Value : Type} (py : Bindings PyAny Value) (iter : Iteration (String × Value))

def new : SchemaRegistry Value := ⟨.empty⟩

/-- `self.schemas.entry(schema_id).or_default().insert(version, schema)` -/
def insert (self : SchemaRegistry Value) (schema_id : String) (schema : Value) (version : String) :
    SchemaRegistry Value :=
  ⟨self.schemas.set schema_id (((self.schemas.get? schema_id).getD .empty).set version schema)⟩

/-- A schema that is no JSON raises. -/
def register (self : SchemaRegistry Value) (schema_id : String) (schema : PyAny) (version : String) :
    Except String (SchemaRegistry Value) :=
  (py.python_value_to_json schema).map fun schema_json => self.insert schema_id schema_json version

/-- `sorted.sort_by_key(|(k, _)| *k)` and `sorted.last()` -/
def latest (versions : Dict String Value) : Option (String × Value) :=
  ((iter.order versions.items).insertionSort fun a b => a.1 ≤ b.1).getLast?

/-- `get`: the version, or the last one in the order of strings. -/
def get (self : SchemaRegistry Value) (schema_id : String) (version : Option String) : Option PyAny := do
  let versions ← self.schemas.get? schema_id
  let schema ←
    match version with
    | some v => versions.get? v
    | none => (latest iter versions).map Prod.snd
  py.json_to_python schema

/-- The validation under a schema that was found. -/
def validate_schema (schema_id : String) (data : PyAny) (schema_value : Value) :
    Res String (ValidationResult PyAny) :=
  match py.python_value_to_json data with
  | .error e => .err e
  | .ok data_value =>
    match py.compile schema_value with
    | .error e => .ok ⟨false, ["Schema compilation error: " ++ e], schema_id, none⟩
    | .ok compiled =>
      .ok ⟨(compiled data_value).isEmpty, compiled data_value, schema_id,
        some ((py.json_to_python data_value).getD py.none)⟩

/-- `validate`: what is not found is an invalid result, not an error. -/
def validate (self : SchemaRegistry Value) (schema_id : String) (data : PyAny)
    (version : Option String) : Res String (ValidationResult PyAny) :=
  match self.schemas.get? schema_id with
  | none => .ok ⟨false, ["Schema not found: " ++ schema_id], schema_id, none⟩
  | some versions =>
    match version with
    | some v =>
      match versions.get? v with
      | none => .ok ⟨false, ["Schema version not found: " ++ schema_id ++ " v" ++ v], schema_id, none⟩
      | some schema => validate_schema py schema_id data schema
    | none =>
      -- `sorted.last().unwrap()`
      match latest iter versions with
      | none => .panic
      | some (_, schema) => validate_schema py schema_id data schema

/-! ## The last version -/

section

variable {iter} {versions : Dict String Value}

/-- Whatever the order of the iteration, all versions are sorted. -/
theorem versions_perm (iter : Iteration (String × Value)) (versions : Dict String Value) :
    (sort_by_key Prod.fst (iter.order versions.items)).Perm versions.items :=
  (sort_perm Prod.fst _).trans (iter.perm _)

/-- The last version is the greatest string, whatever the order of the iteration. -/
theorem latest_eq_some {v : String} {schema : Value} (h : latest iter versions = some (v, schema)) :
    versions.get? v = some schema ∧ ∀ w, (versions.get? w).isSome = true → w ≤ v := by
  have hperm := versions_perm iter versions
  have hsorted := pairwise_le_sort Prod.fst (iter.order versions.items)
  obtain ⟨init, hinit⟩ : ∃ init, sort_by_key Prod.fst (iter.order versions.items) = init ++ [(v, schema)] :=
    List.getLast?_eq_some_iff.mp h
  rw [hinit] at hperm hsorted
  constructor
  · rw [← Dict.mem_items_iff, ← hperm.mem_iff]
    exact List.mem_append_right _ List.mem_cons_self
  · intro w hw
    obtain ⟨schema', hschema'⟩ := Option.isSome_iff_exists.mp hw
    rw [← Dict.mem_items_iff, ← hperm.mem_iff, List.mem_append, List.mem_singleton] at hschema'
    obtain hmem | heq := hschema'
    · exact (List.pairwise_append.mp hsorted).2.2 _ hmem _ List.mem_cons_self
    · rw [Prod.mk.injEq] at heq
      exact le_of_eq heq.1

variable (iter) in
/-- A map that has a version has a last one. -/
theorem exists_latest {w : String} (hw : (versions.get? w).isSome = true) :
    ∃ e, latest iter versions = some e := by
  obtain ⟨schema, hschema⟩ := Option.isSome_iff_exists.mp hw
  have hmem := (versions_perm iter versions).mem_iff.mpr (Dict.mem_items_iff.mpr hschema)
  exact ⟨_, List.getLast?_eq_some_getLast (List.ne_nil_of_mem hmem)⟩

end

/-! ## Registrations -/

/-- A call of `register`. -/
structure Registration (PyAny : Type) where
  schema_id : String
  schema : PyAny
  version : String

/-- The registry after the calls; a call that raises leaves it as it is. -/
def build (regs : List (Registration PyAny)) : SchemaRegistry Value :=
  regs.foldl (fun registry reg =>
    match registry.register py reg.schema_id reg.schema reg.version with
    | .ok registry' => registry'
    | .error _ => registry) new

/-- The version of the id was registered with a schema. -/
def Registered (regs : List (Registration PyAny)) (schema_id version : String) : Prop :=
  ∃ schema value, ⟨schema_id, schema, version⟩ ∈ regs ∧ py.python_value_to_json schema = .ok value

/-- What the registry has under an id and a version. -/
def find (self : SchemaRegistry Value) (schema_id version : String) : Option Value :=
  (self.schemas.get? schema_id).bind fun versions => versions.get? version

theorem find_insert (self : SchemaRegistry Value) (schema_id : String) (schema : Value)
    (version id v : String) : (self.insert schema_id schema version).find id v =
      if id = schema_id ∧ v = version then some schema else self.find id v := by
  unfold find insert
  dsimp only
  rw [Dict.get?_set]
  by_cases hid : id = schema_id
  · subst hid
    rw [if_pos rfl, Option.bind_some, Dict.get?_set]
    by_cases hv : v = version
    · rw [if_pos hv, if_pos ⟨rfl, hv⟩]
    · rw [if_neg hv, if_neg fun h => hv h.2]
      cases self.schemas.get? id with
      | none => rfl
      | some versions => rfl
  · rw [if_neg hid, if_neg fun h => hid h.1]

variable {py iter}

/-- The registry has the versions that were registered. -/
theorem find_build_isSome (regs : List (Registration PyAny)) (schema_id version : String) :
    ((build py regs).find schema_id version).isSome = true ↔ Registered py regs schema_id version := by
  induction regs using List.reverseRecOn with
  | nil =>
    refine iff_of_false (fun h => by cases h) ?_
    rintro ⟨schema, value, hmem, -⟩
    cases hmem
  | append_singleton regs reg ih =>
    have hbuild : build py (regs ++ [reg]) =
        match (build py regs).register py reg.schema_id reg.schema reg.version with
        | .ok registry => registry
        | .error _ => build py regs := by
      unfold build
      rw [List.foldl_append]
      rfl
    have hsplit : Registered py (regs ++ [reg]) schema_id version ↔
        Registered py regs schema_id version ∨ (schema_id = reg.schema_id ∧ version = reg.version) ∧
          ∃ value, py.python_value_to_json reg.schema = .ok value := by
      obtain ⟨id, schema, v⟩ := reg
      simp only [Registered, List.mem_append, List.mem_singleton, Registration.mk.injEq]
      constructor
      · rintro ⟨schema', value, hmem | ⟨rfl, rfl, rfl⟩, hvalue⟩
        · exact .inl ⟨schema', value, hmem, hvalue⟩
        · exact .inr ⟨⟨rfl, rfl⟩, value, hvalue⟩
      · rintro (⟨schema', value, hmem, hvalue⟩ | ⟨⟨rfl, rfl⟩, value, hvalue⟩)
        · exact ⟨schema', value, .inl hmem, hvalue⟩
        · exact ⟨schema, value, .inr ⟨rfl, rfl, rfl⟩, hvalue⟩
    rw [hbuild, hsplit, ← ih]
    unfold register
    cases py.python_value_to_json reg.schema with
    | error e => simp [Except.map]
    | ok value =>
      simp only [Except.map, find_insert]
      split
      · rename_i hsame
        simp [hsame]
      · rename_i hother
        simp [hother]

variable (iter) in
/-- Without a version, the methods do what they do with the last one. -/
theorem get_validate_none {self : SchemaRegistry Value} {schema_id w : String}
    (hw : (self.find schema_id w).isSome = true) :
    ∃ v, (self.find schema_id v).isSome = true ∧
      (∀ w, (self.find schema_id w).isSome = true → w ≤ v) ∧
      self.get py iter schema_id none = self.get py iter schema_id (some v) ∧
      ∀ data, self.validate py iter schema_id data none =
        self.validate py iter schema_id data (some v) := by
  unfold find at hw ⊢
  unfold get validate
  cases hversions : self.schemas.get? schema_id with
  | none =>
    rw [hversions] at hw
    cases hw
  | some versions =>
    rw [hversions] at hw
    obtain ⟨⟨v, schema⟩, hlatest⟩ := exists_latest iter hw
    obtain ⟨hv, hgreatest⟩ := latest_eq_some hlatest
    refine ⟨v, ?_, hgreatest, ?_, fun data => ?_⟩
    · rw [Option.bind_some, hv]
      rfl
    · simp [hlatest, hv]
    · simp [hlatest, hv]

/-- **Which schema is the latest.** After any registrations, `get` and `validate` without a version use the
schema of the registered version that is the greatest string. No registered version with parts of the same
lengths is greater than that one. -/
theorem latest_registered (regs : List (Registration PyAny)) (schema_id : String) :
    (∀ w, ¬ Registered py regs schema_id w) ∨
      ∃ v, Registered py regs schema_id v ∧ (∀ w, Registered py regs schema_id w → w ≤ v) ∧
        (build py regs).get py iter schema_id none = (build py regs).get py iter schema_id (some v) ∧
        (∀ data, (build py regs).validate py iter schema_id data none =
          (build py regs).validate py iter schema_id data (some v)) ∧
        ∀ latest version : Version, latest.Valid → latest.text = v → version.Valid →
          Registered py regs schema_id version.text → version.SameWidth latest →
          version.precedence ≤ latest.precedence := by
  by_cases hsome : ∃ w, Registered py regs schema_id w
  · right
    obtain ⟨w, hw⟩ := hsome
    obtain ⟨v, hv, hgreatest, hget, hvalidate⟩ :=
      get_validate_none iter ((find_build_isSome regs schema_id w).mpr hw)
    have hle : ∀ w, Registered py regs schema_id w → w ≤ v := fun w hw =>
      hgreatest w ((find_build_isSome regs schema_id w).mpr hw)
    refine ⟨v, (find_build_isSome regs schema_id v).mp hv, hle, hget, hvalidate, ?_⟩
    rintro latest version hlatest rfl hversion hregistered hwidth
    exact Version.precedence_le_of_text_le hversion hlatest hwidth (hle _ hregistered)
  · left
    exact fun w hw => hsome ⟨w, hw⟩

/-- The schemas 9 and 10 as 1.9.0 and 1.10.0. -/
def minor_bump : List (Registration Nat) := [⟨"task", 9, "1.9.0"⟩, ⟨"task", 10, "1.10.0"⟩]

def v1_9_0 : Version := ⟨['1'], ['9'], ['0']⟩
def v1_10_0 : Version := ⟨['1'], ['1', '0'], ['0']⟩

/-- Numbers as Python objects and as JSON. -/
def number_bindings : Bindings Nat Nat := ⟨.ok, some, 0, fun _ => .ok fun _ => []⟩

/-- The greater of two versions is not the latest one. -/
theorem two_digits :
    ¬ ∀ (PyAny Value : Type) (py : Bindings PyAny Value) (iter : Iteration (String × Value))
      (regs : List (Registration PyAny)) (schema_id : String) (newest : Version),
      (∀ reg ∈ regs, ∃ version : Version, version.Valid ∧ version.text = reg.version) →
      newest.Valid → Registered py regs schema_id newest.text →
      (∀ version : Version, version.Valid → Registered py regs schema_id version.text →
        version.precedence ≤ newest.precedence) →
      (build py regs).get py iter schema_id none =
        (build py regs).get py iter schema_id (some newest.text) := by
  have hold : v1_9_0.Valid :=
    ⟨⟨by decide, by simp [Digits, v1_9_0]⟩, ⟨by decide, by simp [Digits, v1_9_0]⟩,
      ⟨by decide, by simp [Digits, v1_9_0]⟩⟩
  have hnew : v1_10_0.Valid :=
    ⟨⟨by decide, by simp [Digits, v1_10_0]⟩, ⟨by decide, by simp [Digits, v1_10_0]⟩,
      ⟨by decide, by simp [Digits, v1_10_0]⟩⟩
  have hle : v1_9_0.precedence ≤ v1_10_0.precedence := by decide
  intro h
  have hget := h Nat Nat number_bindings ⟨id, fun _ => .refl _⟩ minor_bump "task" v1_10_0 ?_ hnew
    ⟨10, 10, List.mem_cons_of_mem _ List.mem_cons_self, rfl⟩ ?_
  · revert hget
    decide
  · intro reg hreg
    rcases List.mem_cons.mp hreg with rfl | hlast
    · exact ⟨v1_9_0, hold, rfl⟩
    · rw [List.mem_singleton.mp hlast]
      exact ⟨v1_10_0, hnew, rfl⟩
  · rintro version hversion ⟨schema, value, hmem, -⟩
    rcases List.mem_cons.mp hmem with heq | hlast
    · have htext : version.text = v1_9_0.text := (Registration.mk.inj heq).2.2
      rwa [Version.text_inj hversion hold htext]
    · have htext : version.text = v1_10_0.text :=
        (Registration.mk.inj (List.mem_singleton.mp hlast)).2.2
      rw [Version.text_inj hversion hnew htext]

end SchemaRegistry

end Aqap.Kernel
