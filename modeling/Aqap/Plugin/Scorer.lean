import Aqap.Agent.Stages
import Aqap.Plugin.Registry
import Mathlib.Algebra.Order.Field.Rat
import Mathlib.Tactic.Linarith
import Mathlib.Tactic.NormNum
import Mathlib.Tactic.Positivity

/-!
# The scorer

`ScorerPlugin` scores the results of the probe's plugins. It takes the result of each plugin for a
dictionary, but `execute_all` puts `None` where a plugin raised. Numbers are exact here, and the rounding of
the report is a parameter.

* `produced_execute_all`: the entries of `execute_all`.
* `assess_eq`, `assess_raises`: what the scorer computes, and where it raises.
* `scored_iff`: the score is the weighted sum exactly if no plugin raised and every required field can be
  looked up.
-/

namespace Aqap

open Py Aqap.Core

/-! ## What the scorer reads -/

/-- An entry of `execute_all`: what the plugin returned, or the text of its exception. -/
def PluginResult.of_execution : String × Except String Json → PluginResult
  | (name, .ok result) => ⟨name, result, none⟩
  | (name, .error e) => ⟨name, .null, some e⟩

/-- The entry of a plugin that returned a dictionary, or of one that raised. -/
def PluginResult.Produced (r : PluginResult) : Prop :=
  (∃ fields, r.result = .obj fields ∧ r.error = none) ∨ (r.result = .null ∧ ∃ e, r.error = some e)

theorem produced_execute_all (registry : Plugins.PluginRegistry)
    (execute : Plugins.Plugin → Except String (List (String × Json))) (topic : String) :
    ∀ r ∈ (registry.execute_all (fun plugin => (execute plugin).map .obj) topic).map
      PluginResult.of_execution, r.Produced := by
  intro r hr
  obtain ⟨entry, hentry, rfl⟩ := List.mem_map.mp hr
  obtain ⟨plugin, -, rfl⟩ := List.mem_map.mp hentry
  dsimp only
  cases execute plugin with
  | error e => exact .inr ⟨rfl, e, rfl⟩
  | ok fields => exact .inl ⟨fields, rfl, rfl⟩

/-- The elements of a value in a `for`. -/
def elements : Json → Except String (List Json)
  | .arr items => .ok items
  | .obj fields => .ok (fields.map fun e => .str e.1)
  | .str s => .ok (s.toList.map fun c => .str (String.singleton c))
  | v => .error ("'" ++ v.type_name ++ "' object is not iterable")

/-- `len(v)` -/
def len (v : Json) : Except String Nat :=
  match elements v with
  | .ok items => .ok items.length
  | .error _ => .error ("object of type '" ++ v.type_name ++ "' has no len()")

/-- `sum(1 for a in items if p(a))` -/
def count_if {α : Type} (p : α → Except String Bool) : List α → Except String Nat
  | [] => .ok 0
  | a :: items => do
    let counted ← p a
    let n ← count_if p items
    pure (n + if counted then 1 else 0)

/-! ## The plugin -/

/-- What `execute` computes before it rounds. -/
structure Score where
  pass_rate : ℚ
  completeness : ℚ
  plugin_health : ℚ
  score : ℚ

structure ScoreDetails where
  pass_rate : ℚ
  completeness : ℚ
  plugin_health : ℚ
  weights_used : Dict String ℚ

structure ScoreReport where
  score : ℚ
  passed : Bool
  details : ScoreDetails

/-- The plugin, with its weights. -/
structure ScorerPlugin where
  weights : Dict String ℚ

namespace ScorerPlugin

def default_weights : Dict String ℚ where
  items := [("pass_rate", 1 / 2), ("field_completeness", 3 / 10), ("plugin_health", 1 / 5)]
  nodup := by decide

/-- `config.get("weights", {...})` -/
def initialized (weights : Option (Dict String ℚ)) : ScorerPlugin := ⟨weights.getD default_weights⟩

variable (scorer : ScorerPlugin)

/-- `pr.get("result", {}).get("passed", True)` -/
def plugin_passed (pr : Json) : Except String Bool := do
  let result ← Payload.get pr "result" (.obj [])
  let passed ← Payload.get result "passed" (.bool true)
  pure passed.truthy

/-- `pr["error"] is None`, for a dictionary `pr`. -/
def plugin_healthy : Json → Except String Bool
  | .obj fields =>
    match fields.lookup "error" with
    | some .null => .ok true
    | some _ => .ok false
    | none => .error "'error'"
  | v => .error ("'" ++ v.type_name ++ "' object is not subscriptable")

/-- `f in result`, for a dictionary `result`. -/
def filled (result f : Json) : Except String Bool :=
  match result with
  | .obj fields => f.key.map fun key =>
    match key with
    | .str s => (fields.lookup s).isSome
    | _ => false
  | v => .error ("argument of type '" ++ v.type_name ++ "' is not iterable")

/-- `n / total if total > 0 else 1.0` -/
def ratio (n total : Nat) : ℚ := if total > 0 then n / total else 1

/-- `self.weights[key]` -/
def weight (key : String) : Except String ℚ :=
  match scorer.weights.get? key with
  | some w => .ok w
  | none => .error ("'" ++ key ++ "'")

def default_required : Json := .arr [.str "task_id", .str "result"]

/-- What `execute` computes, before the rounding. -/
def assess (context : Json) : Except String Score := do
  let result ← Payload.get context "result" (.obj [])
  let plugin_results ← Payload.get result "plugin_results" (.arr [])
  let task ← Payload.get context "task" (.obj [])
  let total ← len plugin_results
  let passed_count ← (elements plugin_results).bind (count_if plugin_passed)
  let required ← Payload.get task "required_fields" default_required
  let filled_count ← (elements required).bind (count_if (filled result))
  -- An empty list of required fields is not truthy.
  let required_count ← len required
  let healthy ← (elements plugin_results).bind (count_if plugin_healthy)
  let pass_weight ← scorer.weight "pass_rate"
  let completeness_weight ← scorer.weight "field_completeness"
  let health_weight ← scorer.weight "plugin_health"
  pure {
    pass_rate := ratio passed_count total
    completeness := ratio filled_count required_count
    plugin_health := ratio healthy total
    score := pass_weight * ratio passed_count total +
      completeness_weight * ratio filled_count required_count + health_weight * ratio healthy total }

/-- `execute`: the score and its parts, rounded. -/
def execute (round : ℚ → ℚ) (context : Json) : Except String ScoreReport :=
  (scorer.assess context).map fun (s : Score) => {
    score := round s.score
    passed := decide (7 / 10 ≤ s.score)
    details := {
      pass_rate := round s.pass_rate
      completeness := round s.completeness
      plugin_health := round s.plugin_health
      weights_used := scorer.weights } }

/-! ## What it is to compute -/

/-- What the judge has: a task, a result with entries of `execute_all`, and a list of required fields. -/
structure Evidence where
  task : List (String × Json)
  result : List (String × Json)
  others : List (String × Json)
  plugin_results : List PluginResult
  required : List Json
  produced : ∀ r ∈ plugin_results, r.Produced
  has_results : result.lookup "plugin_results" = some (plugin_results_value plugin_results)
  has_required : (task.lookup "required_fields").getD default_required = .arr required

def Evidence.context (ev : Evidence) : Json :=
  .obj (("task", .obj ev.task) :: ("result", .obj ev.result) :: ev.others)

/-- The part of the elements that satisfy `p`; of no elements, all do. -/
def fraction {α : Type} (p : α → Bool) (items : List α) : ℚ :=
  if items = [] then 1 else items.countP p / items.length

/-- The plugin returned a dictionary that does not say that it failed. -/
def Passed (r : PluginResult) : Bool :=
  match r.error, r.result with
  | none, .obj fields => ((fields.lookup "passed").getD (.bool true)).truthy
  | _, _ => false

/-- The result has the field. -/
def Present (result : List (String × Json)) : Json → Bool
  | .str s => (result.lookup s).isSome
  | _ => false

/-- The three weights are not negative, and their sum is 1. -/
structure Convex (weights : Dict String ℚ) (a b c : ℚ) : Prop where
  pass_rate : weights.get? "pass_rate" = some a
  field_completeness : weights.get? "field_completeness" = some b
  plugin_health : weights.get? "plugin_health" = some c
  pass_rate_nonneg : 0 ≤ a
  field_completeness_nonneg : 0 ≤ b
  plugin_health_nonneg : 0 ≤ c
  sum_eq : a + b + c = 1

/-- `execute` returns the weighted sum, a number from 0 to 1, and sees the plugins that raised. -/
def Scored (scorer : ScorerPlugin) (a b c : ℚ) (ev : Evidence) : Prop :=
  ∃ s, scorer.assess ev.context = .ok s ∧ (∀ round, ∃ report, scorer.execute round ev.context = .ok report ∧
      report.score = round s.score) ∧
    0 ≤ s.score ∧ s.score ≤ 1 ∧
    s.score = a * fraction Passed ev.plugin_results + b * fraction (Present ev.result) ev.required +
      c * fraction (fun r => r.error.isNone) ev.plugin_results ∧
    ((∃ r ∈ ev.plugin_results, r.error ≠ none) → s.plugin_health < 1)

/-! ## Fractions -/

section

variable {α : Type} {p : α → Bool} {items : List α}

theorem ratio_eq_fraction (p : α → Bool) (items : List α) :
    ratio (items.countP p) items.length = fraction p items := by
  unfold ratio fraction
  cases items with
  | nil => rfl
  | cons a items =>
    rw [if_pos (by simp), if_neg (by simp)]

theorem fraction_bounds (p : α → Bool) (items : List α) : 0 ≤ fraction p items ∧ fraction p items ≤ 1 := by
  unfold fraction
  split
  · exact ⟨zero_le_one, le_refl 1⟩
  · rename_i hne
    have hpos : (0 : ℚ) < items.length := by exact_mod_cast List.length_pos_iff.mpr hne
    refine ⟨by positivity, ?_⟩
    rw [div_le_one hpos]
    exact_mod_cast List.countP_le_length

/-- A weighted sum of numbers from 0 to 1 is one. -/
theorem weighted_sum_bounds {a b c x y z : ℚ} (ha : 0 ≤ a) (hb : 0 ≤ b) (hc : 0 ≤ c) (hsum : a + b + c = 1)
    (hx : 0 ≤ x ∧ x ≤ 1) (hy : 0 ≤ y ∧ y ≤ 1) (hz : 0 ≤ z ∧ z ≤ 1) :
    0 ≤ a * x + b * y + c * z ∧ a * x + b * y + c * z ≤ 1 := by
  have hax := mul_le_mul_of_nonneg_left hx.2 ha
  have hby := mul_le_mul_of_nonneg_left hy.2 hb
  have hcz := mul_le_mul_of_nonneg_left hz.2 hc
  have hax0 := mul_nonneg ha hx.1
  have hby0 := mul_nonneg hb hy.1
  have hcz0 := mul_nonneg hc hz.1
  constructor
  · linarith
  · linarith

theorem count_if_map {β : Type} (f : β → Except String Bool) (g : α → β) :
    count_if f (items.map g) = count_if (fun a => f (g a)) items := by
  induction items with
  | nil => rfl
  | cons a items ih => rw [List.map_cons, count_if, count_if, ih]

/-- Counting with a test that does not raise. -/
theorem count_if_eq {f : α → Except String Bool} (h : ∀ a ∈ items, f a = .ok (p a)) :
    count_if f items = .ok (items.countP p) := by
  induction items with
  | nil => rfl
  | cons a items ih =>
    unfold count_if
    rw [h a List.mem_cons_self, ih fun b hb => h b (List.mem_cons_of_mem _ hb), List.countP_cons]
    rfl

/-- Counting with a test that raises on an element. -/
theorem count_if_raises {f : α → Except String Bool} {a : α} (ha : a ∈ items) {e : String}
    (h : f a = .error e) : ∃ e, count_if f items = .error e := by
  induction items with
  | nil => cases ha
  | cons b items ih =>
    unfold count_if
    cases hb : f b with
    | error e => exact ⟨e, rfl⟩
    | ok counted =>
      rcases List.mem_cons.mp ha with rfl | hmem
      · rw [h] at hb
        cases hb
      · obtain ⟨e, he⟩ := ih hmem
        rw [he]
        exact ⟨e, rfl⟩

end

/-! ## What it computes -/

theorem plugin_passed_eq {r : PluginResult} (hr : r.Produced) (hok : r.error = none) :
    plugin_passed (.obj r.to_dict) = .ok (Passed r) := by
  obtain ⟨fields, hresult, -⟩ | ⟨-, e, he⟩ := hr
  · simp [plugin_passed, Payload.get, PluginResult.to_dict, List.lookup_cons, hresult, Passed, hok]
    rfl
  · rw [hok] at he
    cases he

/-- The entry of a plugin that raised has no dictionary. -/
theorem plugin_passed_raises {r : PluginResult} (hr : r.Produced) (hraised : r.error ≠ none) :
    ∃ e, plugin_passed (.obj r.to_dict) = .error e := by
  obtain ⟨fields, -, hok⟩ | ⟨hresult, -⟩ := hr
  · exact absurd hok hraised
  · unfold plugin_passed PluginResult.to_dict
    rw [hresult]
    exact ⟨_, rfl⟩

theorem plugin_healthy_eq (r : PluginResult) :
    plugin_healthy (.obj r.to_dict) = .ok r.error.isNone := by
  obtain ⟨plugin, result, error⟩ := r
  cases error with
  | none => rfl
  | some e => rfl

theorem filled_eq (result : List (String × Json)) {f : Json} (hf : f.Hashable) :
    filled (.obj result) f = .ok (Present result f) := by
  cases f with
  | float x => cases x <;> rfl
  | arr items => cases hf
  | obj fields => cases hf
  | _ => rfl

theorem filled_raises (result : List (String × Json)) {f : Json} (hf : ¬ f.Hashable) :
    ∃ e, filled (.obj result) f = .error e := by
  cases f with
  | arr items => exact ⟨_, rfl⟩
  | obj fields => exact ⟨_, rfl⟩
  | _ => exact absurd trivial hf

/-- What `assess` does with its evidence, for weights that are there. -/
theorem assess_eq {scorer : ScorerPlugin} {a b c : ℚ} (h : Convex scorer.weights a b c) (ev : Evidence) :
    scorer.assess ev.context = (do
      let passed_count ← count_if plugin_passed (ev.plugin_results.map fun r => .obj r.to_dict)
      let filled_count ← count_if (filled (.obj ev.result)) ev.required
      let healthy ← count_if plugin_healthy (ev.plugin_results.map fun r => .obj r.to_dict)
      pure ⟨ratio passed_count ev.plugin_results.length, ratio filled_count ev.required.length,
        ratio healthy ev.plugin_results.length,
        a * ratio passed_count ev.plugin_results.length + b * ratio filled_count ev.required.length +
          c * ratio healthy ev.plugin_results.length⟩) := by
  have hresults : Payload.get (.obj ev.result) "plugin_results" (.arr []) =
      .ok (plugin_results_value ev.plugin_results) := by
    unfold Payload.get
    dsimp only
    rw [ev.has_results]
    rfl
  have hrequired : Payload.get (.obj ev.task) "required_fields" default_required = .ok (.arr ev.required) :=
    congrArg Except.ok ev.has_required
  have htask : Payload.get ev.context "task" (.obj []) = .ok (.obj ev.task) := rfl
  have hresult : Payload.get ev.context "result" (.obj []) = .ok (.obj ev.result) := rfl
  unfold assess
  rw [hresult, htask]
  simp only [bind, Except.bind, hresults, hrequired, plugin_results_value, len, elements, List.length_map,
    weight, h.pass_rate, h.field_completeness, h.plugin_health]

/-- **When plugin results are scored.** `execute` returns the weighted sum exactly if no plugin raised and no
required field is a list or a dictionary. -/
theorem scored_iff {scorer : ScorerPlugin} {a b c : ℚ} (h : Convex scorer.weights a b c) (ev : Evidence) :
    Scored scorer a b c ev ↔
      (∀ r ∈ ev.plugin_results, r.error = none) ∧ ∀ f ∈ ev.required, f.Hashable := by
  constructor
  · rintro ⟨s, hassess, -⟩
    rw [assess_eq h] at hassess
    obtain ⟨passed_count, hpassed, hassess⟩ := bind_ok hassess
    obtain ⟨filled_count, hfilled, -⟩ := bind_ok hassess
    rw [count_if_map] at hpassed
    constructor
    · intro r hr
      -- `None` has no `get`.
      by_contra hraised
      obtain ⟨e, he⟩ := plugin_passed_raises (ev.produced r hr) hraised
      obtain ⟨e', he'⟩ := count_if_raises (f := fun r => plugin_passed (.obj r.to_dict)) hr he
      rw [hpassed] at he'
      cases he'
    · intro f hf
      -- A field that cannot be looked up raises.
      by_contra hunhashable
      obtain ⟨e, he⟩ := filled_raises ev.result hunhashable
      obtain ⟨e', he'⟩ := count_if_raises hf he
      rw [hfilled] at he'
      cases he'
  · rintro ⟨hok, hhashable⟩
    have hpassed : count_if plugin_passed (ev.plugin_results.map fun r => .obj r.to_dict) =
        .ok (ev.plugin_results.countP Passed) := by
      rw [count_if_map]
      exact count_if_eq fun r hr => plugin_passed_eq (ev.produced r hr) (hok r hr)
    have hfilled : count_if (filled (.obj ev.result)) ev.required =
        .ok (ev.required.countP (Present ev.result)) :=
      count_if_eq fun f hf => filled_eq ev.result (hhashable f hf)
    have hhealthy : count_if plugin_healthy (ev.plugin_results.map fun r => .obj r.to_dict) =
        .ok (ev.plugin_results.countP fun r => r.error.isNone) := by
      rw [count_if_map]
      exact count_if_eq fun r _ => plugin_healthy_eq r
    have hassess := assess_eq h ev
    simp only [hpassed, hfilled, hhealthy, bind, Except.bind, ratio_eq_fraction] at hassess
    have hbounds := weighted_sum_bounds h.pass_rate_nonneg h.field_completeness_nonneg
      h.plugin_health_nonneg h.sum_eq (fraction_bounds Passed ev.plugin_results)
      (fraction_bounds (Present ev.result) ev.required)
      (fraction_bounds (fun r => r.error.isNone) ev.plugin_results)
    refine ⟨_, hassess, ?_, hbounds.1, hbounds.2, rfl, ?_⟩
    · intro round
      unfold execute
      rw [hassess]
      exact ⟨_, rfl, rfl⟩
    · rintro ⟨r, hr, hraised⟩
      exact absurd (hok r hr) hraised

/-- A result with one entry of `execute_all`, for a task with the required fields of the default. -/
def one_plugin (r : PluginResult) (h : r.Produced) : Evidence where
  task := [("task_id", .str "t-1")]
  result := [("task_id", .str "t-1"), ("plugin_results", plugin_results_value [r])]
  others := []
  plugin_results := [r]
  required := [.str "task_id", .str "result"]
  produced := List.forall_mem_singleton.mpr h
  has_results := rfl
  has_required := rfl

theorem convex_default : Convex (initialized none).weights (1 / 2) (3 / 10) (1 / 5) := by
  refine ⟨rfl, rfl, rfl, ?_, ?_, ?_, ?_⟩
  all_goals norm_num

/-- The validator passed, and one of the two fields is there. -/
theorem scored_one_plugin :
    Scored (initialized none) (1 / 2) (3 / 10) (1 / 5)
      (one_plugin ⟨"validator", .obj [("passed", .bool true)], none⟩ (.inl ⟨_, rfl, rfl⟩)) := by
  apply (scored_iff convex_default _).mpr
  refine ⟨List.forall_mem_singleton.mpr rfl, ?_⟩
  intro f hf
  rcases List.mem_pair.mp hf with rfl | rfl
  · trivial
  · trivial

/-- A plugin that raised makes the scorer raise. -/
theorem raised_not_scored :
    ¬ ∀ (scorer : ScorerPlugin) (a b c : ℚ) (ev : Evidence), Convex scorer.weights a b c →
      Scored scorer a b c ev := by
  intro h
  obtain ⟨s, hassess, -⟩ := h (initialized none) _ _ _
    (one_plugin ⟨"validator", .null, some "timeout"⟩ (.inr ⟨rfl, _, rfl⟩)) convex_default
  rw [assess_eq convex_default] at hassess
  cases hassess

end ScorerPlugin

end Aqap
