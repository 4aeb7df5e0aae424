import Aqap.Py.Graph

/-!
# Assignments along paths

What an assignment does to every path of a graph, other names of its place included.

* `Assigned`, `Created`: the two changes, of an item and of a dictionary that is missing.
* `Writes`: an assignment at the end of a path on which dictionaries are created (`Writes.wrote`).
* `Allowed`, `WritesAll`: several of them (`WritesAll.after`).
-/

namespace Py.Graph

variable {N κ S : Type} {g : Graph N κ S} {n m l : N} {a b : Access κ} {k : κ} {path p q : List (Access κ)}
  {t : Place N κ} {s : S}

/-! ## An item is assigned -/

variable [DecidableEq N] [DecidableEq κ]

/-- The item of a dictionary under a key becomes an immutable value. -/
structure Assigned (g : Graph N κ S) (n : N) (k : κ) (s : S) (g' : Graph N κ S) : Prop where
  dict_self : g.dict n = true
  child : ∀ m a, g'.child m a = if m = n ∧ a = .key k then some (.atom s) else g.child m a
  dict : ∀ m, g'.dict m = g.dict m

namespace Assigned

variable {g' : Graph N κ S} (h : Assigned g n k s g')

include h

theorem child_self : g'.child n (.key k) = some (.atom s) := by
  rw [h.child, if_pos ⟨rfl, rfl⟩]

theorem child_other (hne : ¬ (m = n ∧ a = .key k)) : g'.child m a = g.child m a := by
  rw [h.child, if_neg hne]

theorem see (i : Link N S) : g'.see i = g.see i := by
  cases i with
  | atom s => rfl
  | node m => simp only [Graph.see, h.dict]

/-- Below of the item there are no places any more. -/
theorem slot_below (hbelow : g.Below m (n, [.key k]) p) : g'.slot m p = none := by
  induction p generalizing m with
  | nil => exact absurd hbelow not_below_nil
  | cons a p ih =>
    obtain rfl | ⟨hp, hcases⟩ := g.slot_cases m a p
    · exact absurd hbelow not_below_singleton
    by_cases hself : m = n ∧ a = .key k
    · obtain ⟨rfl, rfl⟩ := hself
      exact slot_cons_of_atom h.child_self hp
    have hother := h.child_other hself
    obtain ⟨l, hchild⟩ | ⟨s', hchild⟩ | hchild := hcases
    · rw [slot_cons_of_node (hother.trans hchild) hp]
      refine ih (((below_cons hchild hp).mp hbelow).resolve_left fun heq => hself ?_)
      rw [Prod.mk.injEq, List.cons.injEq] at heq
      exact ⟨heq.1.symm, heq.2.1.symm⟩
    · exact slot_cons_of_atom (hother.trans hchild) hp
    · obtain ⟨q, -, -, heq⟩ := below_cons_of_none hchild hbelow
      rw [Prod.mk.injEq, List.cons.injEq] at heq
      exact absurd ⟨heq.1.symm, heq.2.1.symm⟩ hself

/-- The other places stay. -/
theorem slot_other (hbelow : ¬ g.Below m (n, [.key k]) p) : g'.slot m p = g.slot m p := by
  induction p generalizing m with
  | nil => rfl
  | cons a p ih =>
    by_cases hself : m = n ∧ a = .key k
    · obtain ⟨rfl, rfl⟩ := hself
      have hslot := slot_singleton_of_dict h.dict_self k
      cases p with
      | nil => rw [hslot, slot_singleton_of_child h.child_self]
      | cons b p =>
        refine absurd ⟨[.key k], ?_, ?_, hslot⟩ hbelow
        · exact List.cons_prefix_cons.mpr ⟨rfl, List.nil_prefix⟩
        · exact fun heq => List.cons_ne_nil b p (List.cons.inj heq).2.symm
    have hother := h.child_other hself
    obtain rfl | ⟨hp, ⟨l, hchild⟩ | ⟨s', hchild⟩ | hchild⟩ := g.slot_cases m a p
    · rw [slot_singleton, slot_singleton, hother, h.dict]
    · rw [slot_cons_of_node (hother.trans hchild) hp, slot_cons_of_node hchild hp]
      exact ih fun hnot => hbelow ((below_cons hchild hp).mpr (.inr hnot))
    · rw [slot_cons_of_atom (hother.trans hchild) hp, slot_cons_of_atom hchild hp]
    · rw [slot_cons_of_none (hother.trans hchild), slot_cons_of_none hchild, h.dict]

theorem look_self (hbelow : ¬ g.Below m (n, [.key k]) p) (hslot : g.slot m p = some (n, [.key k])) :
    g'.look (.node m) p = some (.atom s) := by
  rw [look_of_slot ((h.slot_other hbelow).trans hslot), h.child_self]

theorem look_other (hbelow : ¬ g.Below m (n, [.key k]) p) (hslot : g.slot m p ≠ some (n, [.key k])) :
    g'.look (.node m) p = g.look (.node m) p := by
  by_cases hp : p = []
  · rw [hp, look_nil, look_nil]
  have hsame := h.slot_other hbelow
  cases hplace : g.slot m p with
  | none => rw [look_of_slot_none hp hplace, look_of_slot_none hp (hsame.trans hplace)]
  | some t =>
    obtain ⟨l, q⟩ := t
    cases q with
    | nil => exact absurd hplace slot_ne_nil
    | cons a q =>
      cases q with
      | nil =>
        rw [look_of_slot hplace, look_of_slot (hsame.trans hplace)]
        refine h.child_other ?_
        rintro ⟨rfl, rfl⟩
        exact hslot hplace
      | cons b q => rw [look_of_slot_missing hplace, look_of_slot_missing (hsame.trans hplace)]

end Assigned

/-! ## A dictionary is created -/

/-- A dictionary gets an empty dictionary under a key that it lacks. -/
structure Created (g : Graph N κ S) (n : N) (k : κ) (m : N) (g' : Graph N κ S) : Prop where
  dict_self : g.dict n = true
  missing : g.child n (.key k) = none
  fresh : g.Fresh m
  child : ∀ l a, g'.child l a = if l = n ∧ a = .key k then some (.node m) else g.child l a
  dict : ∀ l, g'.dict l = (decide (l = m) || g.dict l)

/-- The place that was `t`, when the first of its missing keys has got a dictionary. -/
def moved (n : N) (k : κ) (m : N) : Place N κ → Place N κ
  | (l, a :: b :: path) => if l = n ∧ a = .key k then (m, b :: path) else (l, a :: b :: path)
  | t => t

namespace Created

variable {g' : Graph N κ S} (h : Created g n k m g')

include h

theorem ne_self : n ≠ m := by
  rintro rfl
  exact not_has_of_fresh h.fresh (.inl h.dict_self)

theorem child_self : g'.child n (.key k) = some (.node m) := by
  rw [h.child, if_pos ⟨rfl, rfl⟩]

theorem child_other (hne : ¬ (l = n ∧ a = .key k)) : g'.child l a = g.child l a := by
  rw [h.child, if_neg hne]

theorem child_new (a : Access κ) : g'.child m a = none := by
  rw [h.child_other fun heq => h.ne_self heq.1.symm, h.fresh.child]

theorem dict_new : g'.dict m = true := by
  simp [h.dict]

theorem dict_other (hl : l ≠ m) : g'.dict l = g.dict l := by
  simp [h.dict, hl]

theorem has (hl : g.Has l) : g'.Has l := by
  obtain hdict | ⟨l', a, hchild⟩ := hl
  · exact .inl (by rw [h.dict, hdict, Bool.or_true])
  · refine .inr ⟨l', a, ?_⟩
    rw [h.child_other, hchild]
    rintro ⟨rfl, rfl⟩
    rw [h.missing] at hchild
    cases hchild

theorem has_new : g'.Has m := .inl h.dict_new

theorem has_moved (ht : g.Has t.1) : g'.Has (moved n k m t).1 := by
  obtain ⟨l, q⟩ := t
  match q with
  | [] | [_] => exact h.has ht
  | a :: b :: path =>
    rw [moved]
    split
    · exact h.has_new
    · exact h.has ht

/-- Different places stay different. -/
theorem moved_injective {t' : Place N κ} (ht : g.Has t.1) (ht' : g.Has t'.1)
    (heq : moved n k m t = moved n k m t') : t = t' := by
  have hne : ∀ {l : N}, g.Has l → l ≠ m := by
    rintro l hl rfl
    exact not_has_of_fresh h.fresh hl
  obtain ⟨l, q⟩ := t
  obtain ⟨l', q'⟩ := t'
  match q, q' with
  | [], [] | [], [_] | [_], [] | [_], [_] => exact heq
  | [], a :: b :: p | [_], a :: b :: p =>
    rw [moved, moved] at heq
    split at heq
    · exact absurd (congrArg Prod.fst heq) (hne ht)
    · exact heq
    · nofun
  | a :: b :: p, [] | a :: b :: p, [_] =>
    rw [moved, moved] at heq
    split at heq
    · exact absurd (congrArg Prod.fst heq).symm (hne ht')
    · exact heq
    · nofun
  | a :: b :: p, a' :: b' :: p' =>
    rw [moved, moved] at heq
    split at heq
    · rename_i hself
      split at heq
      · rename_i hself'
        rw [Prod.mk.injEq] at heq
        rw [hself.1, hself.2, hself'.1, hself'.2, heq.2]
      · exact absurd (congrArg Prod.fst heq).symm (hne ht')
    · split at heq
      · exact absurd (congrArg Prod.fst heq) (hne ht)
      · exact heq

/-- The places of the new dictionary. -/
theorem slot_new (p : List (Access κ)) :
    g'.slot m p = if p ≠ [] ∧ p.all Access.isKey then some (m, p) else none := by
  cases p with
  | nil => rfl
  | cons a p =>
    rw [slot_cons_of_none (h.child_new a), h.dict_new]
    simp

/-- The places of the others are moved. -/
theorem slot (hl : l ≠ m) : g'.slot l p = (g.slot l p).map (moved n k m) := by
  induction p generalizing l with
  | nil => rfl
  | cons a p ih =>
    by_cases hself : l = n ∧ a = .key k
    · obtain ⟨rfl, rfl⟩ := hself
      by_cases hp : p = []
      · subst hp
        rw [slot_singleton_of_child h.child_self, slot_singleton_of_dict h.dict_self]
        rfl
      · rw [slot_cons_of_node h.child_self hp, h.slot_new, slot_cons_of_none h.missing, h.dict_self]
        cases p with
        | nil => exact absurd rfl hp
        | cons b p =>
          by_cases hkeys : (b :: p).all Access.isKey = true
          · have hall : (.key k :: b :: p : List (Access κ)).all Access.isKey = true := by
              rw [List.all_cons, hkeys]
              rfl
            rw [if_pos ⟨hp, hkeys⟩, hall, Bool.and_self, if_pos rfl, Option.map_some, moved, if_pos ⟨rfl, rfl⟩]
          · have hall : (.key k :: b :: p : List (Access κ)).all Access.isKey = false := by
              rw [List.all_cons, Bool.eq_false_iff.mpr hkeys, Bool.and_false]
            rw [if_neg fun hand => hkeys hand.2, hall, Bool.and_false, if_neg Bool.false_ne_true, Option.map_none]
    have hother := h.child_other hself
    obtain rfl | ⟨hp, ⟨l', hchild⟩ | ⟨s', hchild⟩ | hchild⟩ := g.slot_cases l a p
    · rw [slot_singleton, slot_singleton, hother, h.dict_other hl]
      split <;> rfl
    · rw [slot_cons_of_node (hother.trans hchild) hp, slot_cons_of_node hchild hp]
      refine ih ?_
      rintro rfl
      exact h.fresh.unused l a hchild
    · rw [slot_cons_of_atom (hother.trans hchild) hp, slot_cons_of_atom hchild hp]
      rfl
    · rw [slot_cons_of_none (hother.trans hchild), slot_cons_of_none hchild, h.dict_other hl]
      cases p with
      | nil => exact absurd rfl hp
      | cons b p =>
        split
        · rw [Option.map_some, moved, if_neg hself]
        · rfl

/-- The new dictionary is found at the place of the missing item. -/
theorem look_self (hl : l ≠ m) (hslot : g.slot l p = some (n, [.key k])) :
    g'.look (.node l) p = some (.node m) := by
  have hslot' : g'.slot l p = some (n, [.key k]) := by
    rw [h.slot hl, hslot]
    rfl
  rw [look_of_slot hslot', h.child_self]

/-- Nothing else is found anywhere. -/
theorem look_other (hl : l ≠ m) (hslot : g.slot l p ≠ some (n, [.key k])) :
    g'.look (.node l) p = g.look (.node l) p := by
  induction p generalizing l with
  | nil => rw [look_nil, look_nil]
  | cons a p ih =>
    by_cases hself : l = n ∧ a = .key k
    · obtain ⟨rfl, rfl⟩ := hself
      rw [look_cons, look_cons, h.child_self, h.missing, Option.bind_some, Option.bind_none]
      cases p with
      | nil => exact absurd (slot_singleton_of_dict h.dict_self k) hslot
      | cons b p => rw [look_cons, h.child_new, Option.bind_none]
    · rw [look_cons, look_cons, h.child_other hself]
      cases hchild : g.child l a with
      | none => rfl
      | some i =>
        cases i with
        | atom s => cases p <;> rfl
        | node l' =>
          by_cases hp : p = []
          · rw [hp, Option.bind_some, Option.bind_some, look_nil, look_nil]
          · refine ih ?_ ?_
            · rintro rfl
              exact h.fresh.unused l a hchild
            · rwa [slot_cons_of_node hchild hp] at hslot

theorem seen_self (hl : l ≠ m) (hslot : g.slot l p = some (n, [.key k])) : g'.seen (.node l) p = some .dict := by
  rw [seen, h.look_self hl hslot, Option.map_some, see, if_pos h.dict_new]

theorem seen_other (hl : l ≠ m) (hslot : g.slot l p ≠ some (n, [.key k])) :
    g'.seen (.node l) p = g.seen (.node l) p := by
  rw [seen, seen, h.look_other hl hslot]
  cases hlook : g.look (.node l) p with
  | none => rfl
  | some i =>
    cases i with
    | atom s => rfl
    | node l' =>
      have hne : l' ≠ m := by
        rintro rfl
        exact look_ne_fresh h.fresh hl hlook
      rw [Option.map_some, Option.map_some, see, see, h.dict_other hne]

end Created

/-! ## An assignment along a path -/

/-- `s` is assigned to the item at the end of a path of keys; the dictionaries that are missing on the way are
created. -/
inductive Writes (s : S) : Graph N κ S → N → List κ → Graph N κ S → Prop
  | last {g g' : Graph N κ S} {n : N} {k : κ} : Assigned g n k s g' → Writes s g n [k] g'
  | down {g g' : Graph N κ S} {n m : N} {k : κ} {path : List κ} : g.child n (.key k) = some (.node m) →
      path ≠ [] → Writes s g m path g' → Writes s g n (k :: path) g'
  | create {g g₁ g' : Graph N κ S} {n m : N} {k : κ} {path : List κ} : Created g n k m g₁ → path ≠ [] →
      Writes s g₁ m path g' → Writes s g n (k :: path) g'

/-- What an assignment at the place `t` does to every path; `passed` are the places on its way, and `f` is where
the places are afterwards. -/
structure Wrote (g : Graph N κ S) (t : Place N κ) (passed : Place N κ → Prop) (s : S) (g' : Graph N κ S)
    (f : Place N κ → Place N κ) : Prop where
  dict : ∀ l, g.dict l = true → g'.dict l = true
  injective : ∀ u u', g.Has u.1 → g.Has u'.1 → f u = f u' → u = u'
  slot_below : ∀ l p, g.Has l → g.Below l t p → g'.slot l p = none
  slot_other : ∀ l p, g.Has l → ¬ g.Below l t p → g'.slot l p = (g.slot l p).map f
  seen_self : ∀ l p, g.Has l → ¬ g.Below l t p → g.slot l p = some t → g'.seen (.node l) p = some (.atom s)
  seen_passed : ∀ l p u, g.Has l → ¬ g.Below l t p → g.slot l p = some u → u ≠ t → passed u →
    g'.seen (.node l) p = some .dict
  seen_other : ∀ l p, g.Has l → ¬ g.Below l t p → g.slot l p ≠ some t → (∀ u, g.slot l p = some u → ¬ passed u) →
    g'.seen (.node l) p = g.seen (.node l) p

theorem Assigned.wrote {g' : Graph N κ S} (h : Assigned g n k s g') {passed : Place N κ → Prop}
    (hpassed : ∀ u, ¬ passed u) : Wrote g (n, [.key k]) passed s g' id where
  dict l hl := (h.dict l).trans hl
  injective _ _ _ _ heq := heq
  slot_below l p _ hbelow := h.slot_below hbelow
  slot_other l p _ hbelow := by
    rw [h.slot_other hbelow, Option.map_id, id]
  seen_self l p _ hbelow hslot := by
    rw [seen, h.look_self hbelow hslot]
    rfl
  seen_passed l p u _ _ _ _ hu := absurd hu (hpassed u)
  seen_other l p _ hbelow hslot _ := by
    rw [seen, seen, h.look_other hbelow hslot]
    cases g.look (.node l) p with
    | none => rfl
    | some i => exact congrArg some (h.see i)

omit [DecidableEq N] [DecidableEq κ] in
/-- One step further from the place. -/
theorem Wrote.down {g' : Graph N κ S} {f : Place N κ → Place N κ} (hchild : g.child n a = some (.node m))
    (hdict : g.dict m = true) (hp : p ≠ []) (h : Wrote g t (g.Below m · p) s g' f) :
    Wrote g t (g.Below n · (a :: p)) s g' f where
  dict := h.dict
  injective := h.injective
  slot_below := h.slot_below
  slot_other := h.slot_other
  seen_self := h.seen_self
  seen_passed l q u hl hbelow hslot hne hpassed := by
    obtain rfl | hpassed := (below_cons hchild hp).mp hpassed
    · by_cases hpassed' : g.Below m (n, [a]) p
      · exact h.seen_passed l q _ hl hbelow hslot hne hpassed'
      · rw [h.seen_other l q hl hbelow (fun heq => hne (Option.some.inj (hslot.symm.trans heq)))
          fun u hu => (Option.some.inj (hslot.symm.trans hu)) ▸ hpassed']
        rw [seen, look_of_slot hslot, hchild, Option.map_some, see, if_pos hdict]
    · exact h.seen_passed l q u hl hbelow hslot hne hpassed
  seen_other l q hl hbelow hslot hpassed :=
    h.seen_other l q hl hbelow hslot fun u hu hpassed' =>
      hpassed u hu ((below_cons hchild hp).mpr (.inr hpassed'))

omit [DecidableEq N] [DecidableEq κ] in
theorem all_isKey_of_prefix {path : List κ} (h : q <+: keyed path) : q.all Access.isKey = true := by
  refine List.all_eq_true.mpr fun a ha => ?_
  obtain ⟨k, -, rfl⟩ := List.mem_map.mp (h.subset ha)
  rfl

omit [DecidableEq N] [DecidableEq κ] in
/-- The places on the way below of a missing item. -/
theorem below_cons_of_none_iff (hdict : g.dict n = true) (hchild : g.child n (.key k) = none) {path : List κ} :
    g.Below n t (keyed (k :: path)) ↔ ∃ q, q <+: keyed path ∧ q ≠ keyed path ∧ t = (n, .key k :: q) := by
  refine ⟨below_cons_of_none hchild, ?_⟩
  rintro ⟨q, hq, hne, rfl⟩
  refine ⟨.key k :: q, List.cons_prefix_cons.mpr ⟨rfl, hq⟩, fun heq => hne (List.cons.inj heq).2, ?_⟩
  rw [slot_cons_of_none hchild, hdict, List.all_cons, all_isKey_of_prefix hq]
  rfl

theorem moved_of_missing (hp : p ≠ []) : moved n k m (n, .key k :: p) = (m, p) := by
  cases p with
  | nil => exact absurd rfl hp
  | cons b p => rw [moved, if_pos ⟨rfl, rfl⟩]

namespace Created

variable {g₁ : Graph N κ S} (h : Created g n k m g₁)

include h

theorem ne_new (hl : g.Has l) : l ≠ m := by
  rintro rfl
  exact not_has_of_fresh h.fresh hl

theorem slot_eq_iff (hl : g.Has l) (ht : g.Has t.1) :
    g₁.slot l p = some (moved n k m t) ↔ g.slot l p = some t := by
  rw [h.slot (h.ne_new hl)]
  cases hslot : g.slot l p with
  | none => exact ⟨nofun, nofun⟩
  | some u =>
    rw [Option.map_some, Option.some.injEq, Option.some.injEq]
    exact ⟨h.moved_injective (has_of_slot hl hslot) ht, fun heq => heq ▸ rfl⟩

theorem below_iff (hl : g.Has l) (ht : g.Has t.1) : g₁.Below l (moved n k m t) p ↔ g.Below l t p :=
  exists_congr fun _ => and_congr_right fun _ => and_congr_right fun _ => h.slot_eq_iff hl ht

/-- What is on the way below of the new dictionary. -/
theorem below_new_iff {path : List κ} (ht : g.Has t.1) (hmoved : t ≠ (n, [.key k])) :
    g₁.Below m (moved n k m t) (keyed path) ↔ g.Below n t (keyed (k :: path)) := by
  have hself : g.Has n := .inl h.dict_self
  have hplace : ∀ q : List (Access κ), q ≠ [] → (moved n k m t = (m, q) ↔ t = (n, .key k :: q)) := by
    intro q hq
    rw [← moved_of_missing (n := n) (k := k) hq]
    exact ⟨h.moved_injective ht hself, fun heq => heq ▸ rfl⟩
  rw [below_cons_of_none_iff h.dict_self h.missing]
  constructor
  · rintro ⟨q, hq, hne, hslot⟩
    have hnil := ne_nil_of_slot hslot
    rw [h.slot_new] at hslot
    split at hslot
    · exact ⟨q, hq, hne, (hplace q hnil).mp (Option.some.inj hslot).symm⟩
    · cases hslot
  · rintro ⟨q, hq, hne, rfl⟩
    have hnil : q ≠ [] := by
      rintro rfl
      exact hmoved rfl
    refine ⟨q, hq, hne, ?_⟩
    rw [h.slot_new, if_pos ⟨hnil, all_isKey_of_prefix hq⟩, moved_of_missing hnil]

/-- The first dictionary on the way is created. -/
theorem wrote {g' : Graph N κ S} {f : Place N κ → Place N κ} {path : List κ} (hpath : path ≠ [])
    (hw : Wrote g₁ (m, keyed path) (g₁.Below m · (keyed path)) s g' f) :
    Wrote g (n, keyed (k :: path)) (g.Below n · (keyed (k :: path))) s g' (f ∘ moved n k m) := by
  have hkeyed : keyed path ≠ [] := by simpa using hpath
  have hself : g.Has n := .inl h.dict_self
  have ht : moved n k m (n, keyed (k :: path)) = (m, keyed path) := moved_of_missing hkeyed
  have hbelow {l : N} {p : List (Access κ)} (hl : g.Has l) :
      g₁.Below l (m, keyed path) p ↔ g.Below l (n, keyed (k :: path)) p := by
    rw [← ht]
    exact h.below_iff hl hself
  have hslot {l : N} {p : List (Access κ)} (hl : g.Has l) :
      g₁.slot l p = some (m, keyed path) ↔ g.slot l p = some (n, keyed (k :: path)) := by
    rw [← ht]
    exact h.slot_eq_iff hl hself
  have hne : (n, [.key k]) ≠ (n, keyed (k :: path)) := by
    intro heq
    exact hkeyed (List.cons.inj (Prod.mk.inj heq).2).2.symm
  have hfirst : g.Below n (n, [.key k]) (keyed (k :: path)) :=
    (below_cons_of_none_iff h.dict_self h.missing).mpr ⟨[], List.nil_prefix, hkeyed.symm, rfl⟩
  refine ⟨fun l hl => hw.dict l (by simp [h.dict, hl]), fun u u' hu hu' heq => ?_, fun l p hl hb => ?_,
    fun l p hl hb => ?_, fun l p hl hb heq => ?_, fun l p u hl hb heq hu hpassed => ?_,
    fun l p hl hb heq hpassed => ?_⟩
  · exact h.moved_injective hu hu' (hw.injective _ _ (h.has_moved hu) (h.has_moved hu') heq)
  · exact hw.slot_below l p (h.has hl) ((hbelow hl).mpr hb)
  · rw [hw.slot_other l p (h.has hl) (mt (hbelow hl).mp hb), h.slot (h.ne_new hl), Option.map_map]
  · exact hw.seen_self l p (h.has hl) (mt (hbelow hl).mp hb) ((hslot hl).mpr heq)
  · have hu' : g.Has u.1 := has_of_slot hl heq
    have heq' : g₁.slot l p = some (moved n k m u) := (h.slot_eq_iff hl hu').mpr heq
    have hut : moved n k m u ≠ (m, keyed path) := fun hmoved =>
      hu (h.moved_injective hu' hself (hmoved.trans ht.symm))
    by_cases hnew : u = (n, [.key k])
    · subst hnew
      by_cases hpassed' : g₁.Below m (n, [.key k]) (keyed path)
      · exact hw.seen_passed l p _ (h.has hl) (mt (hbelow hl).mp hb) heq' hut hpassed'
      · rw [hw.seen_other l p (h.has hl) (mt (hbelow hl).mp hb) (mt (hslot hl).mp fun he => hu ?_)
          fun u' hu'' => ?_, h.seen_self (h.ne_new hl) heq]
        · exact Option.some.inj (heq.symm.trans he)
        · rwa [← Option.some.inj (heq'.symm.trans hu'')]
    · exact hw.seen_passed l p _ (h.has hl) (mt (hbelow hl).mp hb) heq' hut
        ((h.below_new_iff hu' hnew).mpr hpassed)
  · rw [hw.seen_other l p (h.has hl) (mt (hbelow hl).mp hb) (mt (hslot hl).mp heq), h.seen_other (h.ne_new hl)]
    · exact fun hnew => hpassed _ hnew hfirst
    · intro u₁ hu₁ hpassed₁
      rw [h.slot (h.ne_new hl)] at hu₁
      obtain ⟨u, hu, rfl⟩ := Option.map_eq_some_iff.mp hu₁
      have hnew : u ≠ (n, [.key k]) := by
        rintro rfl
        exact hpassed _ hu hfirst
      exact hpassed u hu ((h.below_new_iff (has_of_slot hl hu) hnew).mp hpassed₁)

end Created

/-- **What an assignment along a path does.** -/
theorem Writes.wrote {g' : Graph N κ S} {path : List κ} (h : Writes s g n path g') (hn : g.Has n) :
    ∃ t f, g.slot n (keyed path) = some t ∧ Wrote g t (g.Below n · (keyed path)) s g' f := by
  induction h with
  | last h =>
    exact ⟨_, id, slot_singleton_of_dict h.dict_self _, h.wrote fun u => not_below_singleton⟩
  | @down g g' n m k path hchild hpath h ih =>
    have hkeyed : keyed path ≠ [] := by simpa using hpath
    obtain ⟨t, f, ht, hw⟩ := ih (.inr ⟨n, _, hchild⟩)
    refine ⟨t, f, (slot_cons_of_node hchild hkeyed).trans ht, hw.down hchild ?_ hkeyed⟩
    cases path with
    | nil => exact absurd rfl hpath
    | cons k' path => exact dict_of_slot_key ht
  | @create g g₁ g' n m k path hc hpath h ih =>
    have hkeyed : keyed path ≠ [] := by simpa using hpath
    obtain ⟨t, f, ht, hw⟩ := ih hc.has_new
    have hall : (keyed path).all Access.isKey = true := by simp [Access.isKey]
    rw [hc.slot_new, if_pos ⟨hkeyed, hall⟩] at ht
    obtain rfl := Option.some.inj ht
    refine ⟨(n, keyed (k :: path)), _, ?_, hc.wrote hpath hw⟩
    show g.slot n (.key k :: keyed path) = _
    rw [slot_cons_of_none hc.missing, hc.dict_self, List.all_cons, hall]
    rfl

/-! ### Names of one item -/

omit [DecidableEq N] [DecidableEq κ]

namespace Wrote

variable {passed : Place N κ → Prop} {g' : Graph N κ S} {f : Place N κ → Place N κ} (h : Wrote g t passed s g' f)
  (hn : g.Has n)

include h hn

theorem isSome_slot_iff : (g'.slot n p).isSome ↔ (g.slot n p).isSome ∧ ¬ g.Below n t p := by
  by_cases hbelow : g.Below n t p
  · rw [h.slot_below n p hn hbelow]
    exact iff_of_false Bool.false_ne_true fun hand => hand.2 hbelow
  · rw [h.slot_other n p hn hbelow, Option.isSome_map]
    exact (and_iff_left hbelow).symm

/-- Names of one item remain so. -/
theorem same_iff (hp : ¬ g.Below n t p) (hq : ¬ g.Below n t q) : g'.Same n p q ↔ g.Same n p q := by
  rw [Same, Same, h.slot_other n p hn hp, h.slot_other n q hn hq, Option.isSome_map]
  refine and_congr_right fun hsome => ?_
  obtain ⟨u, hu⟩ := Option.isSome_iff_exists.mp hsome
  rw [hu]
  cases hslot : g.slot n q with
  | none => simp
  | some u' =>
    rw [Option.map_some, Option.map_some, Option.some.injEq, Option.some.injEq]
    exact ⟨h.injective u u' (has_of_slot hn hu) (has_of_slot hn hslot), fun heq => congrArg f heq⟩

theorem above_iff (hp : ¬ g.Below n t p) (hq : ¬ g.Below n t q) : g'.Above n p q ↔ g.Above n p q :=
  exists_congr fun _ => and_congr_right fun hr => and_congr_right fun _ =>
    h.same_iff hn hp fun hbelow => hq (hbelow.longer hr)

end Wrote

/-! ## Assignments one after the other -/

/-- One of the paths leads to the place of `p`. -/
def Led (g : Graph N κ S) (n : N) (paths : List (List κ)) (p : List (Access κ)) : Prop :=
  ∃ path ∈ paths, g.Same n (keyed path) p

/-- One of the paths leads to a place above of `p`. -/
def Hidden (g : Graph N κ S) (n : N) (paths : List (List κ)) (p : List (Access κ)) : Prop :=
  ∃ path ∈ paths, g.Above n (keyed path) p

section

variable {paths : List (List κ)}

theorem Led.hidden (h : g.Led n paths p) (hp : p <+: q) (hne : p ≠ q) : g.Hidden n paths q := by
  obtain ⟨path, hpath, hsame⟩ := h
  exact ⟨path, hpath, p, hp, hne, hsame⟩

theorem Hidden.exists_led (h : g.Hidden n paths q) : ∃ p, p <+: q ∧ p ≠ q ∧ g.Led n paths p := by
  obtain ⟨path, hpath, p, hp, hne, hsame⟩ := h
  exact ⟨p, hp, hne, path, hpath, hsame⟩

/-- The first place on the way that is led to. -/
theorem Led.first (h : g.Led n paths p) : ∃ q, q <+: p ∧ g.Led n paths q ∧ ¬ g.Hidden n paths q := by
  induction hlength : p.length using Nat.strong_induction_on generalizing p with
  | _ length ih =>
    subst hlength
    by_cases hhidden : g.Hidden n paths p
    · obtain ⟨q, hq, hne, hled⟩ := hhidden.exists_led
      have hlt : q.length < p.length := by
        by_contra hnot
        exact hne (hq.eq_of_length_le (Nat.not_lt.mp hnot))
      obtain ⟨q', hq', hfirst⟩ := ih q.length hlt hled rfl
      exact ⟨q', hq'.trans hq, hfirst⟩
    · exact ⟨p, List.prefix_refl p, h, hhidden⟩

end

/-- Assignments along the paths can be made one after the other: each path has a place, and no one leads through
the place of one before it. -/
structure Allowed (g : Graph N κ S) (n : N) (paths : List (List κ)) : Prop where
  slots : ∀ path ∈ paths, (g.slot n (keyed path)).isSome
  apart : paths.Pairwise fun path path' => ¬ g.Above n (keyed path) (keyed path')

theorem Allowed.nil : g.Allowed n [] := ⟨nofun, .nil⟩

theorem allowed_cons {path : List κ} {paths : List (List κ)} :
    g.Allowed n (path :: paths) ↔
      (g.slot n (keyed path)).isSome ∧ (∀ path' ∈ paths, ¬ g.Above n (keyed path) (keyed path')) ∧
        g.Allowed n paths := by
  constructor
  · rintro ⟨hslots, hapart⟩
    obtain ⟨hslot, hslots⟩ := List.forall_mem_cons.mp hslots
    obtain ⟨hbehind, hapart⟩ := List.pairwise_cons.mp hapart
    exact ⟨hslot, hbehind, hslots, hapart⟩
  · rintro ⟨hslot, hbehind, hslots, hapart⟩
    exact ⟨List.forall_mem_cons.mpr ⟨hslot, hslots⟩, List.pairwise_cons.mpr ⟨hbehind, hapart⟩⟩

/-- After the first of them. -/
theorem Wrote.allowed_iff {passed : Place N κ → Prop} {g' : Graph N κ S} {f : Place N κ → Place N κ}
    {paths : List (List κ)} (h : Wrote g t passed s g' f) (hn : g.Has n) :
    g'.Allowed n paths ↔ g.Allowed n paths ∧ ∀ path ∈ paths, ¬ g.Below n t (keyed path) := by
  have habove {path path' : List κ} (hpath : ¬ g.Below n t (keyed path)) (hpath' : ¬ g.Below n t (keyed path')) :
      ¬ g'.Above n (keyed path) (keyed path') ↔ ¬ g.Above n (keyed path) (keyed path') :=
    not_congr (h.above_iff hn hpath hpath')
  constructor
  · rintro ⟨hslots, hapart⟩
    have hbefore path hpath := (h.isSome_slot_iff hn).mp (hslots path hpath)
    refine ⟨⟨fun path hpath => (hbefore path hpath).1, ?_⟩, fun path hpath => (hbefore path hpath).2⟩
    exact hapart.imp_of_mem fun {p q} hp hq => (habove (hbefore p hp).2 (hbefore q hq).2).mp
  · rintro ⟨⟨hslots, hapart⟩, hbelow⟩
    refine ⟨fun path hpath => (h.isSome_slot_iff hn).mpr ⟨hslots path hpath, hbelow path hpath⟩, ?_⟩
    exact hapart.imp_of_mem fun {p q} hp hq => (habove (hbelow p hp) (hbelow q hq)).mpr

theorem Writes.allowed_cons_iff [DecidableEq N] [DecidableEq κ] {g' : Graph N κ S} {path : List κ}
    {paths : List (List κ)} (h : Writes s g n path g') (hn : g.Has n) :
    g.Allowed n (path :: paths) ↔ g'.Allowed n paths := by
  obtain ⟨t, f, ht, hw⟩ := h.wrote hn
  rw [allowed_cons, hw.allowed_iff hn, ht]
  simp only [above_iff ht]
  exact ⟨fun hand => ⟨hand.2.2, hand.2.1⟩, fun hand => ⟨rfl, hand.2, hand.1⟩⟩

/-- Assignments along paths from one container. -/
inductive WritesAll [DecidableEq N] [DecidableEq κ] (n : N) : Graph N κ S → List (List κ × S) → Graph N κ S → Prop
  | nil {g : Graph N κ S} : WritesAll n g [] g
  | cons {g g₁ g' : Graph N κ S} {path : List κ} {s : S} {es : List (List κ × S)} : Writes s g n path g₁ →
      WritesAll n g₁ es g' → WritesAll n g ((path, s) :: es) g'

/-- What is seen under a path after assignments, as far as the paths say it. -/
structure After (g : Graph N κ S) (n : N) (es : List (List κ × S)) (p : List (Access κ))
    (after : Option (Seen S)) : Prop where
  above : (∃ e ∈ es, g.Above n (keyed e.1) p) → after = none
  last : (∀ e ∈ es, ¬ g.Above n (keyed e.1) p) → ∀ es₁ e es₂, es = es₁ ++ e :: es₂ → g.Same n (keyed e.1) p →
    (∀ e' ∈ es₂, ¬ g.Same n (keyed e'.1) p) → after = some (.atom e.2)
  passed : (∀ e ∈ es, ¬ g.Above n (keyed e.1) p ∧ ¬ g.Same n (keyed e.1) p) →
    (∃ e ∈ es, g.Above n p (keyed e.1)) → after = some .dict
  other : (∀ e ∈ es, ¬ g.Above n (keyed e.1) p ∧ ¬ g.Same n (keyed e.1) p ∧ ¬ g.Above n p (keyed e.1)) →
    after = g.seen (.node n) p

/-- Below of what was assigned there is nothing afterwards. -/
theorem After.of_below {es : List (List κ × S)} {e : List κ × S} {g₁ : Graph N κ S} {after : Option (Seen S)}
    (habove : g.Above n (keyed e.1) p) (h : After g₁ n es p after) (hslot : g₁.slot n p = none) (hp : p ≠ []) :
    After g n (e :: es) p after := by
  have hnone : after = none := by
    by_cases hmeets : ∃ e ∈ es, g₁.Above n (keyed e.1) p
    · exact h.above hmeets
    · rw [h.other fun e he => ⟨fun hmeets' => hmeets ⟨e, he, hmeets'⟩, fun hsame => ?_, fun hmeets' => ?_⟩, seen,
        look_of_slot_none hp hslot, Option.map_none]
      · have hsome := hsame.1
        rw [hsame.2, hslot] at hsome
        cases hsome
      · obtain ⟨r, -, -, hsome, -⟩ := hmeets'
        rw [hslot] at hsome
        cases hsome
  refine ⟨fun _ => hnone, fun hnot => ?_, fun hnot => ?_, fun hnot => ?_⟩
  · exact absurd habove (hnot e List.mem_cons_self)
  · exact absurd habove (hnot e List.mem_cons_self).1
  · exact absurd habove (hnot e List.mem_cons_self).1

/-! ### A first assignment, and others after it -/

section

variable {path : List κ} {es : List (List κ × S)} {g₁ : Graph N κ S} {f : Place N κ → Place N κ}
  {after : Option (Seen S)} (hw : Wrote g t (g.Below n · (keyed path)) s g₁ f) (hn : g.Has n)
  (ht : g.slot n (keyed path) = some t) (hbefore : ∀ e ∈ es, ¬ g.Below n t (keyed e.1)) (hbelow : ¬ g.Below n t p)
  (hnext : After g₁ n es p after)

include hw hn hbefore hbelow

theorem Wrote.above_iff_of_mem {e : List κ × S} (he : e ∈ es) :
    g₁.Above n (keyed e.1) p ↔ g.Above n (keyed e.1) p :=
  hw.above_iff hn (hbefore e he) hbelow

theorem Wrote.same_iff_of_mem {e : List κ × S} (he : e ∈ es) : g₁.Same n (keyed e.1) p ↔ g.Same n (keyed e.1) p :=
  hw.same_iff hn (hbefore e he) hbelow

theorem Wrote.passes_iff_of_mem {e : List κ × S} (he : e ∈ es) :
    g₁.Above n p (keyed e.1) ↔ g.Above n p (keyed e.1) :=
  hw.above_iff hn hbelow (hbefore e he)

include ht hnext

/-- The last assignment to the place is the first one, or one of the others. -/
theorem Wrote.after_last {es₁ es₂ : List (List κ × S)} {e : List κ × S}
    (hnot : ∀ e ∈ es, ¬ g.Above n (keyed e.1) p) (heq : (path, s) :: es = es₁ ++ e :: es₂)
    (hlast : g.Same n (keyed e.1) p) (hlater : ∀ e' ∈ es₂, ¬ g.Same n (keyed e'.1) p) : after = some (.atom e.2) := by
  cases es₁ with
  | nil =>
    obtain ⟨rfl, rfl⟩ := List.cons.inj heq
    have hslot := (Graph.same_iff ht).mp hlast
    -- A later assignment does not lead through the value.
    have hkeeps : ∀ e ∈ es, ¬ g₁.Above n p (keyed e.1) := fun e he hmeets =>
      hbefore e he ((Graph.above_iff hslot).mp ((hw.passes_iff_of_mem hn hbefore hbelow he).mp hmeets))
    rw [hnext.other fun e he => ⟨mt (hw.above_iff_of_mem hn hbefore hbelow he).mp (hnot e he),
      mt (hw.same_iff_of_mem hn hbefore hbelow he).mp (hlater e he), hkeeps e he⟩]
    exact hw.seen_self n p hn hbelow hslot
  | cons e' es₁ =>
    obtain ⟨rfl, rfl⟩ := List.cons.inj heq
    have hmem : ∀ e' ∈ e :: es₂, e' ∈ es₁ ++ e :: es₂ := fun e' he' => List.mem_append_right _ he'
    refine hnext.last (fun e' he' => mt (hw.above_iff_of_mem hn hbefore hbelow he').mp (hnot e' he')) es₁ e es₂ rfl
      ((hw.same_iff_of_mem hn hbefore hbelow (hmem e List.mem_cons_self)).mpr hlast) fun e' he' => ?_
    exact mt (hw.same_iff_of_mem hn hbefore hbelow (hmem e' (List.mem_cons_of_mem _ he'))).mp (hlater e' he')

/-- An assignment that goes on from the place is the first one, or one of the others. -/
theorem Wrote.after_passed (hnot₀ : ¬ g.Same n (keyed path) p)
    (hnot : ∀ e ∈ es, ¬ g.Above n (keyed e.1) p ∧ ¬ g.Same n (keyed e.1) p)
    (hpassed : ∃ e ∈ (path, s) :: es, g.Above n p (keyed e.1)) : after = some .dict := by
  have hnot₁ : ∀ e ∈ es, ¬ g₁.Above n (keyed e.1) p ∧ ¬ g₁.Same n (keyed e.1) p := fun e he =>
    ⟨mt (hw.above_iff_of_mem hn hbefore hbelow he).mp (hnot e he).1,
      mt (hw.same_iff_of_mem hn hbefore hbelow he).mp (hnot e he).2⟩
  by_cases hlater : ∃ e ∈ es, g₁.Above n p (keyed e.1)
  · exact hnext.passed hnot₁ hlater
  · obtain ⟨e, he, hmeets⟩ := hpassed
    obtain rfl | he := List.mem_cons.mp he
    · rw [hnext.other fun e he => ⟨(hnot₁ e he).1, (hnot₁ e he).2, fun hmeets => hlater ⟨e, he, hmeets⟩⟩]
      obtain ⟨r, hr, hne, hsome, -⟩ := id hmeets
      obtain ⟨u, hu⟩ := Option.isSome_iff_exists.mp hsome
      refine hw.seen_passed n p u hn hbelow hu ?_ ((Graph.above_iff hu).mp hmeets)
      rintro rfl
      exact hnot₀ ((Graph.same_iff ht).mpr hu)
    · exact absurd ⟨e, he, (hw.passes_iff_of_mem hn hbefore hbelow he).mpr hmeets⟩ hlater

/-- Where none of them has to do with the place, it stays. -/
theorem Wrote.after_other (hsame : ¬ g.Same n (keyed path) p) (hpasses : ¬ g.Above n p (keyed path))
    (hnot : ∀ e ∈ es, ¬ g.Above n (keyed e.1) p ∧ ¬ g.Same n (keyed e.1) p ∧ ¬ g.Above n p (keyed e.1)) :
    after = g.seen (.node n) p := by
  rw [hnext.other fun e he => ⟨mt (hw.above_iff_of_mem hn hbefore hbelow he).mp (hnot e he).1,
    mt (hw.same_iff_of_mem hn hbefore hbelow he).mp (hnot e he).2.1,
    mt (hw.passes_iff_of_mem hn hbefore hbelow he).mp (hnot e he).2.2⟩]
  refine hw.seen_other n p hn hbelow (mt (Graph.same_iff ht).mpr hsame) fun u hu hpassed => ?_
  exact hpasses ((Graph.above_iff hu).mpr hpassed)

theorem Wrote.after_cons : After g n ((path, s) :: es) p after := by
  refine ⟨?_, fun hnot es₁ e es₂ => ?_, fun hnot => ?_, fun hnot => ?_⟩
  · rintro ⟨e, he, hmeets⟩
    obtain rfl | he := List.mem_cons.mp he
    · exact absurd ((Graph.above_iff ht).mp hmeets) hbelow
    · exact hnext.above ⟨e, he, (hw.above_iff_of_mem hn hbefore hbelow he).mpr hmeets⟩
  · exact hw.after_last hn ht hbefore hbelow hnext (List.forall_mem_cons.mp hnot).2
  · obtain ⟨hnot₀, hnot⟩ := List.forall_mem_cons.mp hnot
    exact hw.after_passed hn ht hbefore hbelow hnext hnot₀.2 hnot
  · obtain ⟨hnot₀, hnot⟩ := List.forall_mem_cons.mp hnot
    exact hw.after_other hn ht hbefore hbelow hnext hnot₀.2.1 hnot₀.2.2 hnot

end

section

variable [DecidableEq N] [DecidableEq κ] {es : List (List κ × S)} {g' : Graph N κ S}

theorem Writes.dict_of_dict {g' : Graph N κ S} {path : List κ} (h : Writes s g n path g') (hn : g.dict n = true) :
    g'.dict n = true := by
  obtain ⟨t, f, -, hw⟩ := h.wrote (.inl hn)
  exact hw.dict n hn

theorem WritesAll.allowed (h : WritesAll n g es g') (hn : g.dict n = true) : g.Allowed n (es.map Prod.fst) := by
  induction h with
  | nil => exact .nil
  | cons hwrites h ih => exact (hwrites.allowed_cons_iff (.inl hn)).mpr (ih (hwrites.dict_of_dict hn))

/-- **What is seen after all of them.** -/
theorem WritesAll.after (h : WritesAll n g es g') (hn : g.dict n = true) (hp : p ≠ []) :
    After g n es p (g'.seen (.node n) p) := by
  induction h with
  | nil =>
    refine ⟨?_, fun _ es₁ e es₂ heq => ?_, fun _ => ?_, fun _ => rfl⟩
    · rintro ⟨e, he, -⟩
      cases he
    · cases es₁ <;> cases heq
    · rintro ⟨e, he, -⟩
      cases he
  | @cons g g₁ g' path s es hwrites h ih =>
    obtain ⟨t, f, ht, hw⟩ := hwrites.wrote (.inl hn)
    have hbefore : ∀ e ∈ es, ¬ g.Below n t (keyed e.1) := fun e he =>
      ((hw.allowed_iff (.inl hn)).mp (h.allowed (hw.dict n hn))).2 e.1 (List.mem_map_of_mem he)
    have hnext := ih (hw.dict n hn)
    by_cases hbelow : g.Below n t p
    · exact .of_below (above_iff ht |>.mpr hbelow) hnext (hw.slot_below n p (.inl hn) hbelow) hp
    · exact hw.after_cons (.inl hn) ht hbefore hbelow hnext

end

end Py.Graph
