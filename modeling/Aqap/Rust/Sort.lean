import Mathlib.Data.List.Nodup
import Mathlib.Data.List.Sort

/-!
# Sorting by a key

`sort_by` on a `Vec` whose elements have keys in a linear order.

* `pairwise_lt_sort`: if no two elements have one key, the result is strictly sorted.
-/

namespace Rust

variable {α β : Type} [LinearOrder β]

/-- `v.sort_by(|a, b| key(a).cmp(&key(b)))` -/
def sort_by_key (key : α → β) (v : List α) : List α := v.insertionSort fun a b => key a ≤ key b

theorem sort_perm (key : α → β) (v : List α) : (sort_by_key key v).Perm v := List.perm_insertionSort ..

theorem mem_sort {key : α → β} {v : List α} {a : α} : a ∈ sort_by_key key v ↔ a ∈ v :=
  (sort_perm key v).mem_iff

theorem pairwise_le_sort (key : α → β) (v : List α) :
    (sort_by_key key v).Pairwise fun a b => key a ≤ key b := by
  have : Std.Total fun a b : α => key a ≤ key b := ⟨fun a b => le_total (key a) (key b)⟩
  have : IsTrans α fun a b => key a ≤ key b := ⟨fun _ _ _ => le_trans⟩
  exact List.pairwise_insertionSort ..

/-- Elements with different keys are strictly sorted. -/
theorem pairwise_lt_sort {key : α → β} {v : List α} (h : (v.map key).Nodup) :
    (sort_by_key key v).Pairwise fun a b => key a < key b := by
  have hnodup : ((sort_by_key key v).map key).Nodup := ((sort_perm key v).map key).nodup_iff.mpr h
  have hne : (sort_by_key key v).Pairwise fun a b => key a ≠ key b := List.pairwise_map.mp hnodup
  apply (pairwise_le_sort key v).imp₂ (S := fun a b => key a ≠ key b) _ hne
  intro a b hle hne
  exact lt_of_le_of_ne hle hne

end Rust
