import Mathlib.Data.List.Nodup

/-!
# Python dictionaries

A `Dict κ β` lists its items in the order in which their keys were inserted; a key occurs once. An
assignment to a key that is there keeps its place.

* `get?_set`, `get?_pop`, `get?_filter`, `get?_filterMap`: what a lookup gives after an update.
* `keys_set`: the keys after an update.
-/

namespace Py

/-- The items in insertion order; no key occurs twice. -/
structure Dict (κ β : Type) where
  items : List (κ × β)
  nodup : (items.map Prod.fst).Nodup

namespace Dict

variable {κ β : Type} [DecidableEq κ]

def empty : Dict κ β := ⟨[], List.nodup_nil⟩

/-- `d.get(k)`. -/
def get? (d : Dict κ β) (k : κ) : Option β := d.items.lookup k

/-- `len(d)`. -/
def size (d : Dict κ β) : Nat := d.items.length

/-- The items after `d[k] = v`. -/
def setItem (k : κ) (v : β) : List (κ × β) → List (κ × β)
  | [] => [(k, v)]
  | (k', v') :: items => if k' = k then (k', v) :: items else (k', v') :: setItem k v items

theorem mem_keys_setItem {k k' : κ} {v : β} {items : List (κ × β)} :
    k' ∈ (setItem k v items).map Prod.fst ↔ k' = k ∨ k' ∈ items.map Prod.fst := by
  induction items with
  | nil => simp [setItem]
  | cons e items ih =>
    rw [setItem]
    split
    · rename_i he
      simp only [List.map_cons, List.mem_cons]
      grind
    · simp only [List.map_cons, List.mem_cons, ih]
      grind

theorem nodup_setItem {k : κ} {v : β} {items : List (κ × β)} (h : (items.map Prod.fst).Nodup) :
    ((setItem k v items).map Prod.fst).Nodup := by
  induction items with
  | nil => simp [setItem]
  | cons e items ih =>
    rw [List.map_cons, List.nodup_cons] at h
    rw [setItem]
    split
    · rwa [List.map_cons, List.nodup_cons]
    · rename_i he
      rw [List.map_cons, List.nodup_cons, mem_keys_setItem]
      refine ⟨?_, ih h.2⟩
      rintro (heq | hmem)
      · exact he heq
      · exact h.1 hmem

/-- `d[k] = v`. -/
def set (d : Dict κ β) (k : κ) (v : β) : Dict κ β := ⟨setItem k v d.items, nodup_setItem d.nodup⟩

/-- The items that satisfy `p`. -/
def filter (d : Dict κ β) (p : κ → β → Bool) : Dict κ β where
  items := d.items.filter fun e => p e.1 e.2
  nodup := d.nodup.sublist (List.filter_sublist.map Prod.fst)

/-- `d.pop(k, None)`. -/
def pop (d : Dict κ β) (k : κ) : Dict κ β := d.filter fun k' _ => k' ≠ k

@[simp] theorem get?_empty (k : κ) : (empty : Dict κ β).get? k = none := rfl

theorem lookup_cons_eq (k : κ) (e : κ × β) (items : List (κ × β)) :
    (e :: items).lookup k = if k = e.1 then some e.2 else items.lookup k := by
  obtain ⟨k', v⟩ := e
  rw [List.lookup_cons]
  by_cases h : k = k'
  · rw [if_pos h, beq_iff_eq.mpr h]
  · rw [if_neg h, beq_false_of_ne h]

theorem lookup_setItem {k k' : κ} {v : β} {items : List (κ × β)} :
    (setItem k v items).lookup k' = if k' = k then some v else items.lookup k' := by
  induction items with
  | nil => rw [setItem, lookup_cons_eq]
  | cons e items ih =>
    rw [setItem]
    split
    · rename_i he
      rw [lookup_cons_eq, lookup_cons_eq, he]
      grind
    · rename_i he
      rw [lookup_cons_eq, lookup_cons_eq, ih]
      grind

@[simp] theorem get?_set (d : Dict κ β) (k k' : κ) (v : β) :
    (d.set k v).get? k' = if k' = k then some v else d.get? k' := lookup_setItem

theorem lookup_eq_none {k : κ} {items : List (κ × β)} (h : k ∉ items.map Prod.fst) :
    items.lookup k = none := by
  rw [List.lookup_eq_none_iff]
  intro e he
  rw [bne_iff_ne]
  rintro rfl
  exact h (List.mem_map_of_mem he)

/-- The items are what the keys give. -/
theorem mem_items_iff {d : Dict κ β} {k : κ} {v : β} : (k, v) ∈ d.items ↔ d.get? k = some v := by
  obtain ⟨items, nodup⟩ := d
  show (k, v) ∈ items ↔ items.lookup k = some v
  induction items with
  | nil => simp
  | cons e items ih =>
    rw [List.map_cons, List.nodup_cons] at nodup
    rw [List.mem_cons, lookup_cons_eq]
    by_cases hk : k = e.1
    · subst hk
      rw [if_pos rfl, Option.some.injEq]
      constructor
      · rintro (heq | hmem)
        · rw [← heq]
        · exact absurd (List.mem_map_of_mem hmem) nodup.1
      · rintro rfl
        exact .inl rfl
    · rw [if_neg hk, ← ih nodup.2]
      refine or_iff_right ?_
      rintro rfl
      exact hk rfl

/-- A lookup in the items that satisfy `p`. -/
theorem get?_filter (d : Dict κ β) (p : κ → β → Bool) (k : κ) :
    (d.filter p).get? k = (d.get? k).filter (p k) := by
  obtain ⟨items, nodup⟩ := d
  show (items.filter _).lookup k = (items.lookup k).filter (p k)
  induction items with
  | nil => rfl
  | cons e items ih =>
    rw [List.map_cons, List.nodup_cons] at nodup
    by_cases hk : k = e.1
    · subst hk
      have hnone : (items.filter fun e => p e.1 e.2).lookup e.1 = none := by
        refine lookup_eq_none fun hmem => nodup.1 ?_
        exact (List.filter_sublist.map Prod.fst).subset hmem
      by_cases hp : p e.1 e.2 <;> simp [lookup_cons_eq, Option.filter, hp, hnone]
    · by_cases hp : p e.1 e.2 <;> simp [lookup_cons_eq, hp, hk, ih nodup.2]

@[simp] theorem get?_pop (d : Dict κ β) (k k' : κ) :
    (d.pop k).get? k' = if k' = k then none else d.get? k' := by
  rw [pop, get?_filter]
  by_cases h : k' = k <;> cases d.get? k' <;> simp [h]

/-! ## Rewriting the values -/

section

variable {γ : Type}

/-- The items with the values that `f` gives; an item that has none is deleted. -/
def filterMap (d : Dict κ β) (f : κ → β → Option γ) : Dict κ γ where
  items := d.items.filterMap fun e => (f e.1 e.2).map (e.1, ·)
  nodup := by
    refine d.nodup.sublist ?_
    induction d.items with
    | nil => exact .slnil
    | cons e items ih =>
      rw [List.filterMap_cons]
      cases f e.1 e.2 with
      | none => exact ih.cons e.1
      | some v => exact ih.cons_cons e.1

/-- A lookup after the values were rewritten. -/
theorem get?_filterMap (d : Dict κ β) (f : κ → β → Option γ) (k : κ) :
    (d.filterMap f).get? k = (d.get? k).bind (f k) := by
  obtain ⟨items, nodup⟩ := d
  show (items.filterMap _).lookup k = (items.lookup k).bind (f k)
  induction items with
  | nil => rfl
  | cons e items ih =>
    rw [List.map_cons, List.nodup_cons] at nodup
    rw [List.filterMap_cons, lookup_cons_eq]
    by_cases hk : k = e.1
    · subst hk
      rw [if_pos rfl]
      have hnone : items.lookup e.1 = none := lookup_eq_none nodup.1
      cases hf : f e.1 e.2 with
      | none => simpa [hnone, hf] using ih nodup.2
      | some v => simp [lookup_cons_eq, hf]
    · rw [if_neg hk]
      cases f e.1 e.2 with
      | none => exact ih nodup.2
      | some v =>
        rw [Option.map_some]
        simpa [lookup_cons_eq, hk] using ih nodup.2

end

/-! ## The keys -/

def keys (d : Dict κ β) : List κ := d.items.map Prod.fst

omit [DecidableEq κ] in
@[simp] theorem length_keys (d : Dict κ β) : d.keys.length = d.size := List.length_map ..

theorem mem_keys_iff {d : Dict κ β} {k : κ} : k ∈ d.keys ↔ (d.get? k).isSome := by
  rw [Option.isSome_iff_exists, keys, List.mem_map]
  constructor
  · rintro ⟨e, he, rfl⟩
    exact ⟨e.2, mem_items_iff.mp he⟩
  · rintro ⟨v, hv⟩
    exact ⟨(k, v), mem_items_iff.mpr hv, rfl⟩

theorem keys_set (d : Dict κ β) (k : κ) (v : β) :
    (d.set k v).keys = if k ∈ d.keys then d.keys else d.keys ++ [k] := by
  show (setItem k v d.items).map Prod.fst =
    if k ∈ d.items.map Prod.fst then d.items.map Prod.fst else d.items.map Prod.fst ++ [k]
  induction d.items with
  | nil => rfl
  | cons e items ih =>
    rw [setItem, List.map_cons]
    by_cases hk : e.1 = k
    · rw [if_pos hk, if_pos (hk ▸ List.mem_cons_self), List.map_cons]
    · rw [if_neg hk, List.map_cons, ih]
      simp only [List.mem_cons, Ne.symm hk, false_or]
      split <;> rfl

theorem keys_pop (d : Dict κ β) (k : κ) : (d.pop k).keys = d.keys.filter (· ≠ k) := by
  show (d.items.filter _).map Prod.fst = (d.items.map Prod.fst).filter _
  rw [List.filter_map]
  rfl

/-- `for k in ks: del d[k]`, for keys that are there. -/
def pop_all (d : Dict κ β) (ks : List κ) : Dict κ β := ks.foldl pop d

theorem get?_pop_all (d : Dict κ β) (ks : List κ) (k : κ) :
    (d.pop_all ks).get? k = if k ∈ ks then none else d.get? k := by
  induction ks generalizing d with
  | nil => rfl
  | cons k' ks ih =>
    rw [pop_all, List.foldl_cons]
    refine (ih (d.pop k')).trans ?_
    rw [get?_pop]
    by_cases hks : k ∈ ks
    · simp [hks]
    · by_cases hk : k = k' <;> simp [hk, hks]

theorem size_pop {d : Dict κ β} {k : κ} (h : k ∈ d.keys) : (d.pop k).size = d.size - 1 := by
  have herase : d.keys.erase k = d.keys.filter (· ≠ k) := by
    refine (List.Nodup.erase_eq_filter d.nodup k).trans (List.filter_congr fun k' _ => ?_)
    simp [bne, beq_eq_decide]
  rw [← length_keys, keys_pop, ← herase, List.length_erase_of_mem h, length_keys]

theorem size_pop_all {d : Dict κ β} {ks : List κ} (hnodup : ks.Nodup) (h : ∀ k ∈ ks, k ∈ d.keys) :
    (d.pop_all ks).size = d.size - ks.length := by
  induction ks generalizing d with
  | nil => rfl
  | cons k ks ih =>
    rw [List.nodup_cons] at hnodup
    obtain ⟨hk, hks⟩ := List.forall_mem_cons.mp h
    rw [pop_all, List.foldl_cons]
    refine (ih hnodup.2 fun k' hk' => ?_).trans ?_
    · rw [keys_pop, List.mem_filter]
      refine ⟨hks k' hk', ?_⟩
      simp only [decide_eq_true_eq]
      rintro rfl
      exact hnodup.1 hk'
    · rw [size_pop hk, List.length_cons]
      omega

end Dict

end Py
