import Aqap.Plugin.Scorer

/-!
# The validator

`ValidatorPlugin` looks for its required fields at the top of the context. In the stage of the Judge that is the
evidence, which has a task and a result there, and not the fields of the result.

* `execute_lacking`: it never reports a context as passed that lacks a required field.
-/

namespace Aqap

open Py Aqap.Core

/-- The plugin; without `initialize` it has no required fields to look at. -/
structure ValidatorPlugin where
  required_fields : Option Json
  /-- `str(v)` -/
  text : Json → String

namespace ValidatorPlugin

def default_required : Json := .arr [.str "task_id", .str "passed"]

def initialized (text : Json → String) (required_fields : Option Json) : ValidatorPlugin where
  required_fields := some (required_fields.getD default_required)
  text

variable (self : ValidatorPlugin)

/-- `for field in self.required_fields` -/
def missing (context : Json) : List Json → Except String (List String)
  | [] => .ok []
  | field :: fields => do
    let found ← ScorerPlugin.filled context field
    let issues ← missing context fields
    pure (if found then issues else ("缺少必填字段: " ++ self.text field) :: issues)

/-- The type of `passed`, when it is there. -/
def mistyped : Json → List String
  | .obj fields =>
    match fields.lookup "passed" with
    | none => []
    | some (.bool _) => []
    | some _ => ["'passed' 字段必须为布尔值"]
  | _ => []

/-- `pr[key]` -/
def item (pr : Json) (key : String) : Except String Json :=
  match pr with
  | .obj fields =>
    match fields.lookup key with
    | some v => .ok v
    | none => .error ("'" ++ key ++ "'")
  | v => .error ("'" ++ v.type_name ++ "' object is not subscriptable")

/-- `for pr in plugin_results` -/
def plugin_errors : List Json → Except String (List String)
  | [] => .ok []
  | pr :: plugin_results => do
    let error ← Payload.get pr "error" .null
    if error.truthy then
      let plugin ← item pr "plugin"
      let issues ← plugin_errors plugin_results
      pure (("插件执行错误: " ++ self.text plugin ++ " — " ++ self.text error) :: issues)
    else plugin_errors plugin_results

/-- What the plugin finds wrong with a result. -/
def issues (context : Json) : Except String (List String) := do
  let required ← match self.required_fields with
    | none => throw "'ValidatorPlugin' object has no attribute 'required_fields'"
    | some required_fields => elements required_fields
  let missing ← self.missing context required
  let plugin_results ← Payload.get context "plugin_results" (.arr [])
  let errors ← (elements plugin_results).bind self.plugin_errors
  pure (missing ++ mistyped context ++ errors)

/-- `execute`: the result passes if nothing is wrong with it. -/
def execute (now : String) (context : Json) : Except String (List (String × Json)) := do
  let issues ← self.issues context
  let field_count ← len context
  pure [
    ("passed", .bool issues.isEmpty),
    ("issues", .arr (issues.map .str)),
    ("field_count", .int field_count),
    ("validated_at", .str now)]

/-! ## What it reports -/

variable {self} {now : String} {context : Json} {report : List (String × Json)}

/-- A field that `missing` looked for and did not find is an issue. -/
theorem missing_ne_nil {fields : List Json} {issues : List String} {field : Json}
    (h : self.missing context fields = .ok issues) (hmem : field ∈ fields)
    (hlacks : ScorerPlugin.filled context field = .ok false) : issues ≠ [] := by
  induction fields generalizing issues with
  | nil => cases hmem
  | cons first fields ih =>
    obtain ⟨found, hfound, h⟩ := bind_ok h
    obtain ⟨rest, hrest, h⟩ := bind_ok h
    cases h
    rcases List.mem_cons.mp hmem with rfl | hmem
    · obtain rfl := Except.ok.inj (hlacks.symm.trans hfound)
      exact List.cons_ne_nil _ _
    · have hne := ih hrest hmem
      cases found with
      | true => exact hne
      | false => exact List.cons_ne_nil _ _

/-- The plugin looks for a field that the context does not have, or was not initialised. -/
def Lacking (self : ValidatorPlugin) (context : Json) : Prop :=
  ∀ required_fields, self.required_fields = some required_fields →
    ∃ required field, elements required_fields = .ok required ∧ field ∈ required ∧
      ScorerPlugin.filled context field = .ok false

theorem issues_ne_nil {issues : List String} (hlacking : self.Lacking context)
    (h : self.issues context = .ok issues) : issues ≠ [] := by
  unfold ValidatorPlugin.issues at h
  cases hrequired : self.required_fields with
  | none =>
    rw [hrequired] at h
    cases h
  | some required_fields =>
    obtain ⟨required, field, helements, hmem, hlacks⟩ := hlacking required_fields hrequired
    rw [hrequired] at h
    obtain ⟨required', hrequired', h⟩ := bind_ok h
    obtain rfl := Except.ok.inj (helements.symm.trans hrequired')
    obtain ⟨missing, hmissing, h⟩ := bind_ok h
    obtain ⟨plugin_results, -, h⟩ := bind_ok h
    obtain ⟨errors, -, h⟩ := bind_ok h
    cases h
    have hne := missing_ne_nil hmissing hmem hlacks
    simp [hne]

/-- A context that lacks a required field is not reported as passed, whatever else is in it. -/
theorem execute_lacking (hlacking : self.Lacking context) (h : self.execute now context = .ok report) :
    report.lookup "passed" = some (.bool false) := by
  obtain ⟨issues, hissues, h⟩ := bind_ok h
  obtain ⟨field_count, -, h⟩ := bind_ok h
  cases h
  rw [List.isEmpty_eq_false_iff.mpr (issues_ne_nil hlacking hissues)]
  rfl

end ValidatorPlugin

end Aqap
