import Aqap.Py.Json
import Mathlib.Algebra.Order.Ring.Rat
import Mathlib.Data.List.Sort
import Mathlib.Data.String.Basic
import Mathlib.Data.Sum.Order
import Mathlib.Order.WithBot

/-!
# Sorting the keys of a dictionary

`sorted` compares numbers with numbers and strings with strings, by their characters; every other comparison
raises.

* `mem_take_iff`: the first elements of a strictly sorted list, by the number of smaller ones.
* `sorted_eq_some_iff`: when `sorted` raises nothing.
-/

namespace Py

section

variable {α : Type} [LinearOrder α] {l : List α}

/-- The first `n` elements are those with less than `n` smaller ones. -/
theorem mem_take_iff (h : l.Pairwise (· < ·)) {a : α} {n : Nat} :
    a ∈ l.take n ↔ a ∈ l ∧ l.countP (· < a) < n := by
  induction l generalizing n with
  | nil => simp
  | cons b l ih =>
    rw [List.pairwise_cons] at h
    cases n with
    | zero => simp
    | succ n =>
      rw [List.take_succ_cons, List.mem_cons, List.mem_cons, ih h.2]
      by_cases hab : a = b
      · have hcount : (b :: l).countP (· < a) = 0 := by
          rw [List.countP_eq_zero]
          intro c hc
          rw [hab, decide_eq_true_eq, not_lt]
          obtain rfl | hc := List.mem_cons.mp hc
          · exact le_rfl
          · exact (h.1 c hc).le
        rw [hcount]
        exact iff_of_true (.inl hab) ⟨.inl hab, n.succ_pos⟩
      · rw [or_iff_right hab, or_iff_right hab]
        refine and_congr_right fun ha => ?_
        rw [List.countP_cons_of_pos (by simpa using h.1 a ha), Nat.succ_lt_succ_iff]

end

/-! ## The order of the keys -/

/-- Numbers come before strings here; between them there is no comparison in Python. -/
def Key.position : Key → WithBot (WithTop ℚ) ⊕ₗ WithBot String
  | .inf true => Sum.inlₗ ⊥
  | .num q => Sum.inlₗ (q : WithTop ℚ)
  | .inf false => Sum.inlₗ (⊤ : WithTop ℚ)
  | .none => Sum.inrₗ ⊥
  | .str s => Sum.inrₗ s

theorem Key.position_injective : Function.Injective Key.position := by
  intro k k' h
  rcases k with _ | q | (_ | _) | s <;> rcases k' with _ | q' | (_ | _) | s' <;>
    simp_all [Key.position, -Sum.Lex.inl_bot]

instance : LinearOrder Key := LinearOrder.lift' Key.position Key.position_injective

/-- `k < k'` does not raise. -/
def Key.comparable : Key → Key → Bool
  | .str _, .str _ => true
  | .num _, .num _ => true
  | .num _, .inf _ => true
  | .inf _, .num _ => true
  | .inf _, .inf _ => true
  | _, _ => false

theorem Key.comparable_comm (k k' : Key) : k.comparable k' = k'.comparable k := by
  cases k <;> cases k' <;> rfl

/-- `sorted(keys)` for different keys; `none` is the `TypeError` of a comparison. -/
def sorted (keys : List Key) : Option (List Key) :=
  if keys.Pairwise (Key.comparable · ·) then some (keys.insertionSort (· ≤ ·)) else none

section

variable {keys ks : List Key}

theorem sorted_eq_some_iff :
    sorted keys = some ks ↔ keys.Pairwise (Key.comparable · ·) ∧ keys.insertionSort (· ≤ ·) = ks := by
  rw [sorted, Option.ite_none_right_eq_some, Option.some.injEq]

theorem sorted_perm (h : sorted keys = some ks) : ks.Perm keys := by
  rw [← (sorted_eq_some_iff.mp h).2]
  exact List.perm_insertionSort ..

/-- The first `n` keys are those with less than `n` smaller ones. -/
theorem mem_take_sorted (hnodup : keys.Nodup) (h : sorted keys = some ks) {k : Key} {n : Nat} :
    k ∈ ks.take n ↔ k ∈ keys ∧ keys.countP (· < k) < n := by
  have hperm := sorted_perm h
  have hle : ks.Pairwise (· ≤ ·) := by
    rw [← (sorted_eq_some_iff.mp h).2]
    exact List.pairwise_insertionSort ..
  have hlt : ks.Pairwise (· < ·) := by
    refine hle.imp₂ (fun _ _ hle hne => lt_of_le_of_ne hle hne) ?_
    exact hperm.nodup_iff.mpr hnodup
  rw [mem_take_iff hlt, hperm.mem_iff, hperm.countP_eq]

example : sorted [.num 2, .inf true, .num 1] = some [.inf true, .num 1, .num 2] := by decide +kernel
example : sorted [.str "b", .num 1] = none := by decide +kernel

end

end Py
