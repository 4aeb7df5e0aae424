import Aqap.Kernel.Queries

/-!
# The envelopes of the schema registry

`validate_and_wrap` puts data that a schema accepts into an envelope with the id and the version of the schema, so
that its receiver can check it again. Without a version it uses the latest one, and the envelope says `latest`,
which is no version.

* `wrapped`: what an envelope says of its data.
* `rechecked_iff`: when a receiver with the same registry accepts an envelope.
-/

namespace Aqap.Kernel

open Py Rust

/-- A value that was found valid, with the schema it was checked against. -/
structure SchemaEnvelope (PyAny : Type) where
  schema_id : String
  schema_version : String
  data : Option PyAny
  deriving DecidableEq

namespace SchemaRegistry

variable {PyAny Value : Type} (py : Bindings PyAny Value) (iter : Iteration (String × Value))

/-- `validate_and_wrap`: without a version, the envelope says "latest". -/
def validate_and_wrap (self : SchemaRegistry Value) (schema_id : String) (data : PyAny)
    (version : Option String) : Res String (Option (SchemaEnvelope PyAny)) := do
  let result ← self.validate py iter schema_id data version
  if result.valid then .ok (some ⟨result.schema_id, version.getD "latest", result.data⟩)
  else .ok none

/-- The schema compiles, and the value has no errors under it. -/
def Accepts (schema value : Value) : Prop :=
  ∃ compiled, py.compile schema = .ok compiled ∧ compiled value = []

/-- `validate` returns its copy of the data. -/
def copied (value : Value) : PyAny := (py.json_to_python value).getD py.none

variable {py iter} {json : SerdeJson Value} {schema_id : String} {data : PyAny} {version : Option String}
  {env : SchemaEnvelope PyAny}

/-- What is valid under a schema that was found. -/
theorem validate_schema_valid_iff {schema : Value} {result : ValidationResult PyAny} :
    validate_schema py schema_id data schema = .ok result ∧ result.valid = true ↔
      ∃ value, py.python_value_to_json data = .ok value ∧ Accepts py schema value ∧
        result = ⟨true, [], schema_id, some (copied py value)⟩ := by
  unfold validate_schema
  cases hdata : py.python_value_to_json data with
  | error e => simp
  | ok value =>
    dsimp only
    cases hcompile : py.compile schema with
    | error e =>
      refine iff_of_false ?_ ?_
      · rintro ⟨⟨⟩, ⟨⟩⟩
      · rintro ⟨_, ⟨⟩, ⟨compiled, hcompiled, -⟩, -⟩
        cases hcompile.symm.trans hcompiled
    | ok compiled =>
      constructor
      · rintro ⟨⟨⟩, hvalid⟩
        have hnone : compiled value = [] := List.isEmpty_iff.mp hvalid
        exact ⟨value, rfl, ⟨compiled, hcompile, hnone⟩, by rw [hnone]; rfl⟩
      · rintro ⟨_, ⟨⟩, ⟨compiled', hcompiled, hnone⟩, rfl⟩
        cases hcompile.symm.trans hcompiled
        refine ⟨?_, rfl⟩
        dsimp only
        rw [hnone]
        rfl

theorem wrap_eq_ok_iff {self : SchemaRegistry Value} :
    self.validate_and_wrap py iter schema_id data version = .ok (some env) ↔
      ∃ result, self.validate py iter schema_id data version = .ok result ∧ result.valid = true ∧
        env = ⟨result.schema_id, version.getD "latest", result.data⟩ := by
  unfold validate_and_wrap
  rw [Res.bind_ok_iff]
  refine exists_congr fun result => and_congr_right fun _ => ?_
  cases hvalid : result.valid <;> simp [eq_comm]

/-- What is valid under a version of an id. -/
theorem validate_some_valid_iff {self : SchemaRegistry Value} {v : String} {result : ValidationResult PyAny} :
    self.validate py iter schema_id data (some v) = .ok result ∧ result.valid = true ↔
      ∃ schema, self.find schema_id v = some schema ∧
        validate_schema py schema_id data schema = .ok result ∧ result.valid = true := by
  obtain ⟨hsome, hnone⟩ := self.validate_some py iter schema_id v data
  cases hfind : self.find schema_id v with
  | none =>
    refine iff_of_false ?_ (by simp)
    rintro ⟨hok, hvalid⟩
    rcases hnone hfind with h | ⟨w, -, h⟩
    all_goals
      rw [h] at hok
      cases hok
      cases hvalid
  | some schema => simp [hsome schema hfind]

/-- What is valid without a version is so under the version that is the greatest string. -/
theorem validate_none_valid {self : SchemaRegistry Value} {result : ValidationResult PyAny}
    (h : self.validate py iter schema_id data none = .ok result) (hvalid : result.valid = true) :
    ∃ v schema, self.find schema_id v = some schema ∧
      (∀ w, (self.find schema_id w).isSome = true → w ≤ v) ∧
      validate_schema py schema_id data schema = .ok result := by
  unfold validate at h
  unfold find
  cases hversions : self.schemas.get? schema_id with
  | none =>
    rw [hversions] at h
    cases h
    cases hvalid
  | some versions =>
    rw [hversions] at h
    dsimp only at h
    cases hlatest : latest iter versions with
    | none => rw [hlatest] at h; cases h
    | some e =>
      obtain ⟨v, schema⟩ := e
      rw [hlatest] at h
      obtain ⟨hv, hgreatest⟩ := latest_eq_some hlatest
      exact ⟨v, schema, hv, hgreatest, h⟩

/-- The envelopes that name a version. -/
theorem wrap_some_iff {self : SchemaRegistry Value} {v : String} :
    self.validate_and_wrap py iter schema_id data (some v) = .ok (some env) ↔
      ∃ schema value, self.find schema_id v = some schema ∧ py.python_value_to_json data = .ok value ∧
        Accepts py schema value ∧ env = ⟨schema_id, v, some (copied py value)⟩ := by
  rw [wrap_eq_ok_iff]
  constructor
  · rintro ⟨result, hok, hvalid, rfl⟩
    obtain ⟨schema, hschema, hunder⟩ := validate_some_valid_iff.mp ⟨hok, hvalid⟩
    obtain ⟨value, hvalue, haccepts, rfl⟩ := validate_schema_valid_iff.mp hunder
    exact ⟨schema, value, hschema, hvalue, haccepts, rfl⟩
  · rintro ⟨schema, value, hschema, hvalue, haccepts, rfl⟩
    have hunder : validate_schema py schema_id data schema =
        .ok ⟨true, [], schema_id, some (copied py value)⟩ ∧ true = true :=
      validate_schema_valid_iff.mpr ⟨value, hvalue, haccepts, rfl⟩
    obtain ⟨hok, hvalid⟩ := validate_some_valid_iff.mpr ⟨schema, hschema, hunder⟩
    exact ⟨_, hok, hvalid, rfl⟩

/-- An envelope is of a schema that accepts the data: of the version that was asked for, or of the latest one. -/
theorem wrapped {self : SchemaRegistry Value}
    (h : self.validate_and_wrap py iter schema_id data version = .ok (some env)) :
    ∃ v schema value, self.find schema_id v = some schema ∧
      (version = some v ∨ version = none ∧ ∀ w, (self.find schema_id w).isSome = true → w ≤ v) ∧
      py.python_value_to_json data = .ok value ∧ Accepts py schema value ∧
      env = ⟨schema_id, version.getD "latest", some (copied py value)⟩ := by
  cases version with
  | some v =>
    obtain ⟨schema, value, hschema, hvalue, haccepts, henv⟩ := wrap_some_iff.mp h
    exact ⟨v, schema, value, hschema, .inl rfl, hvalue, haccepts, henv⟩
  | none =>
    obtain ⟨result, hok, hvalid, rfl⟩ := wrap_eq_ok_iff.mp h
    obtain ⟨v, schema, hschema, hgreatest, hunder⟩ := validate_none_valid hok hvalid
    obtain ⟨value, hvalue, haccepts, rfl⟩ := validate_schema_valid_iff.mp ⟨hunder, hvalid⟩
    exact ⟨v, schema, value, hschema, .inr ⟨rfl, hgreatest⟩, hvalue, haccepts, rfl⟩

/-- **Which envelopes can be checked again.** After any calls, an envelope is of data that the last schema of the
asked version accepts, or that of the latest version. If the copy of the data reads as the data did, a receiver
with the same registry that checks it under the id and the version of the envelope gets the same envelope exactly
if a version was asked for, or a schema of a version `latest` accepts the data. -/
theorem rechecked_iff
    (hback : ∀ value, py.python_value_to_json data = .ok value →
      py.python_value_to_json (copied py value) = .ok value)
    (ops : List (Op PyAny))
    (h : (BuiltinRegistry.history py json ops).validate_and_wrap py iter schema_id data version =
      .ok (some env)) :
    ∃ v schema value, last_write (writes py json false ops) schema_id v = some schema ∧
      (version = some v ∨ version = none ∧
        ∀ w, (last_write (writes py json false ops) schema_id w).isSome = true → w ≤ v) ∧
      py.python_value_to_json data = .ok value ∧ Accepts py schema value ∧
      env = ⟨schema_id, version.getD "latest", some (copied py value)⟩ ∧
      ((BuiltinRegistry.history py json ops).validate_and_wrap py iter env.schema_id (copied py value)
          (some env.schema_version) = .ok (some env) ↔
        version ≠ none ∨ ∃ schema', last_write (writes py json false ops) schema_id "latest" = some schema' ∧
          Accepts py schema' value) := by
  have hfind (id v : String) : (BuiltinRegistry.history py json ops).find id v =
      last_write (writes py json false ops) id v := by
    rw [← find_replay, replay]
  obtain ⟨v, schema, value, hschema, hversion, hvalue, haccepts, rfl⟩ := wrapped h
  simp only [hfind] at hschema hversion
  refine ⟨v, schema, value, hschema, hversion, hvalue, haccepts, rfl, ?_⟩
  have hagain : (BuiltinRegistry.history py json ops).validate_and_wrap py iter schema_id (copied py value)
      (some (version.getD "latest")) = .ok (some ⟨schema_id, version.getD "latest", some (copied py value)⟩) ↔
        ∃ schema', last_write (writes py json false ops) schema_id (version.getD "latest") = some schema' ∧
          Accepts py schema' value := by
    rw [wrap_some_iff, hfind]
    constructor
    · rintro ⟨schema', value', hschema', hvalue', haccepts', -⟩
      cases (hback value hvalue).symm.trans hvalue'
      exact ⟨schema', hschema', haccepts'⟩
    · rintro ⟨schema', hschema', haccepts'⟩
      exact ⟨schema', value, hschema', hback value hvalue, haccepts', rfl⟩
  rw [hagain]
  cases version with
  | some w =>
    obtain rfl : w = v := by
      rcases hversion with hasked | ⟨⟨⟩, -⟩
      exact Option.some.inj hasked
    exact iff_of_true ⟨schema, hschema, haccepts⟩ (.inl nofun)
  | none => exact ⟨.inr, fun h => h.resolve_left fun hne => hne rfl⟩

/-- The latest schema accepts the data, and the envelope cannot be checked again. -/
theorem rechecked_iff_sample :
    ∃ v schema value, last_write (writes number_bindings number_json false [.register "task" 9 "1.9.0"]) "task" v =
        some schema ∧
      (none = some v ∨ (none : Option String) = none ∧ ∀ w, (last_write (writes number_bindings number_json false
        [.register "task" 9 "1.9.0"]) "task" w).isSome = true → w ≤ v) ∧
      number_bindings.python_value_to_json 7 = .ok value ∧ Accepts number_bindings schema value ∧
      (⟨"task", "latest", some 7⟩ : SchemaEnvelope Nat) =
        ⟨"task", (none : Option String).getD "latest", some (copied number_bindings value)⟩ ∧
      ((BuiltinRegistry.history number_bindings number_json [.register "task" 9 "1.9.0"]).validate_and_wrap
          number_bindings ⟨id, fun _ => .refl _⟩ "task" (copied number_bindings value) (some "latest") =
            .ok (some ⟨"task", "latest", some 7⟩) ↔
        (none : Option String) ≠ none ∨ ∃ schema', last_write (writes number_bindings number_json false
          [.register "task" 9 "1.9.0"]) "task" "latest" = some schema' ∧ Accepts number_bindings schema' value) :=
  rechecked_iff (fun _ _ => rfl) [.register "task" 9 "1.9.0"] rfl

end SchemaRegistry

end Aqap.Kernel
