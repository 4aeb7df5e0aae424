import Aqap.Py.Writes

/-!
# One graph laid over another one

* `Maps`: a graph inside of another one; its paths lead to the same there (`Maps.same_iff`, `Maps.seen`).
* `overlay`: where both graphs have a dictionary, the items of both are found; else those of the upper one.
* `Sets`, `maps_of_updated`: the assignments that lay a graph over a tree, in its own containers.
-/

namespace Py

/-- A container where one graph is laid over another one: of one of them, or of both. -/
inductive Laid (N M : Type) where
  | both (b : N) (v : M)
  | lower (b : N)
  | upper (v : M)

namespace Laid

variable {N M N' M' : Type}

def map (f : N → N') (f' : M → M') : Laid N M → Laid N' M'
  | both b v => both (f b) (f' v)
  | lower b => lower (f b)
  | upper v => upper (f' v)

/-- The container itself, if those of the lower graph are kept. -/
def place : Laid N N → N
  | both b _ => b
  | lower b => b
  | upper v => v

end Laid

namespace Graph

variable {N M κ S : Type}

/-- The containers that are found from `r` are containers of `g'`, with the same items. -/
structure Maps (f : N → M) (g : Graph N κ S) (r : N) (g' : Graph M κ S) : Prop where
  child : ∀ n, g.Reach r n → ∀ a, g'.child (f n) a = (g.child n a).map (Link.map f)
  dict : ∀ n, g.Reach r n → g'.dict (f n) = g.dict n
  injective : ∀ n m, g.Reach r n → g.Reach r m → f n = f m → n = m

variable {g : Graph N κ S} {n m r : N} {a : Access κ} {p q : List (Access κ)}

namespace Maps

variable {f : N → M} {g' : Graph M κ S} (h : Maps f g r g')

include h

theorem look (hn : g.Reach r n) (p : List (Access κ)) :
    g'.look (.node (f n)) p = (g.look (.node n) p).map (Link.map f) := by
  induction p generalizing n with
  | nil => rfl
  | cons a p ih =>
    rw [look_cons, look_cons, h.child n hn]
    cases hchild : g.child n a with
    | none => rfl
    | some l =>
      cases l with
      | atom s => cases p <;> rfl
      | node m => exact ih (hn.child hchild)

theorem seen (hn : g.Reach r n) (p : List (Access κ)) : g'.seen (.node (f n)) p = g.seen (.node n) p := by
  rw [Graph.seen, Graph.seen, h.look hn]
  cases hlook : g.look (.node n) p with
  | none => rfl
  | some l =>
    cases l with
    | atom s => rfl
    | node m =>
      obtain ⟨q, hq⟩ := hn
      have hm : g.Reach r m := ⟨q ++ p, by rw [look_append, hq]; exact hlook⟩
      rw [Option.map_some, Option.map_some, Option.map_some, see, Link.map, see, h.dict m hm]

theorem slot (hn : g.Reach r n) (p : List (Access κ)) :
    g'.slot (f n) p = (g.slot n p).map fun t => (f t.1, t.2) := by
  induction p generalizing n with
  | nil => rfl
  | cons a p ih =>
    have hchild' := h.child n hn a
    obtain rfl | ⟨hp, ⟨m, hchild⟩ | ⟨s, hchild⟩ | hchild⟩ := g.slot_cases n a p
    · rw [slot_singleton, slot_singleton, hchild', h.dict n hn, Option.isSome_map]
      split <;> rfl
    · rw [hchild] at hchild'
      rw [slot_cons_of_node hchild' hp, slot_cons_of_node hchild hp]
      exact ih (hn.child hchild)
    · rw [hchild] at hchild'
      rw [slot_cons_of_atom hchild' hp, slot_cons_of_atom hchild hp]
      rfl
    · rw [hchild] at hchild'
      rw [slot_cons_of_none hchild', slot_cons_of_none hchild, h.dict n hn]
      split <;> rfl

theorem isSome_slot (p : List (Access κ)) : (g'.slot (f r) p).isSome = (g.slot r p).isSome := by
  rw [h.slot (.refl g r), Option.isSome_map]

/-- The names of an item are the same. -/
theorem same_iff : g'.Same (f r) p q ↔ g.Same r p q := by
  rw [Same, Same, h.isSome_slot, h.slot (.refl g r), h.slot (.refl g r)]
  refine and_congr_right fun hsome => ?_
  obtain ⟨t, ht⟩ := Option.isSome_iff_exists.mp hsome
  rw [ht]
  cases hq : g.slot r q with
  | none => simp
  | some u =>
    rw [Option.map_some, Option.map_some, Option.some.injEq, Option.some.injEq]
    refine ⟨fun heq => ?_, fun heq => heq ▸ rfl⟩
    rw [Prod.mk.injEq] at heq
    exact Prod.ext (h.injective _ _ (reach_of_slot (.refl g r) ht) (reach_of_slot (.refl g r) hq) heq.1) heq.2

theorem above_iff : g'.Above (f r) p q ↔ g.Above r p q :=
  exists_congr fun _ => and_congr_right fun _ => and_congr_right fun _ => h.same_iff

theorem allowed_iff {paths : List (List κ)} : g'.Allowed (f r) paths ↔ g.Allowed r paths := by
  have hslots : (∀ path ∈ paths, (g'.slot (f r) (keyed path)).isSome) ↔
      ∀ path ∈ paths, (g.slot r (keyed path)).isSome := by
    simp only [h.isSome_slot]
  have hapart : (paths.Pairwise fun path path' => ¬ g'.Above (f r) (keyed path) (keyed path')) ↔
      paths.Pairwise fun path path' => ¬ g.Above r (keyed path) (keyed path') := by
    simp only [h.above_iff]
  exact ⟨fun hall => ⟨hslots.mp hall.slots, hapart.mp hall.apart⟩,
    fun hall => ⟨hslots.mpr hall.slots, hapart.mpr hall.apart⟩⟩

/-- The paths say the same in both graphs. -/
theorem after_iff {es : List (List κ × S)} {after : Option (Seen S)} :
    After g' (f r) es p after ↔ After g r es p after := by
  have hseen := h.seen (.refl g r) p
  constructor
  · rintro ⟨habove, hlast, hpassed, hother⟩
    simp only [h.above_iff, h.same_iff, hseen] at habove hlast hpassed hother
    exact ⟨habove, hlast, hpassed, hother⟩
  · rintro ⟨habove, hlast, hpassed, hother⟩
    constructor <;> simp only [h.above_iff, h.same_iff, hseen] <;> assumption

theorem reach (hn : g.Reach r n) : g'.Reach (f r) (f n) := by
  obtain ⟨p, hp⟩ := hn
  exact ⟨p, by rw [h.look (.refl g r), hp]; rfl⟩

/-- Nothing else is found there. -/
theorem exists_of_look {l : M} (hl : g'.look (.node (f r)) p = some (.node l)) :
    ∃ n, g.look (.node r) p = some (.node n) ∧ l = f n := by
  rw [h.look (.refl g r)] at hl
  obtain ⟨i, hi, heq⟩ := Option.map_eq_some_iff.mp hl
  cases i with
  | atom s => cases heq
  | node n =>
    cases heq
    exact ⟨n, hi, rfl⟩

theorem exists_of_reach {l : M} (hl : g'.Reach (f r) l) : ∃ n, g.Reach r n ∧ l = f n := by
  obtain ⟨p, hp⟩ := hl
  obtain ⟨n, hn, heq⟩ := h.exists_of_look hp
  exact ⟨n, ⟨p, hn⟩, heq⟩

theorem trans {L : Type} {f' : M → L} {g'' : Graph L κ S} (h' : Maps f' g' (f r) g'') : Maps (f' ∘ f) g r g'' where
  child n hn a := by
    rw [Function.comp_apply, h'.child _ (h.reach hn), h.child n hn, Link.map_map]
  dict n hn := (h'.dict _ (h.reach hn)).trans (h.dict n hn)
  injective n m hn hm heq := h.injective n m hn hm (h'.injective _ _ (h.reach hn) (h.reach hm) heq)

end Maps

/-! ## Laying over -/

variable {o : Graph M κ S}

/-- An item of `o`, where `g` has the old one. -/
def onto (g : Graph N κ S) (o : Graph M κ S) (old : Option (Link N S)) : Link M S → Link (Laid N M) S
  | .atom s => .atom s
  | .node v =>
    match old with
    | some (.node b) => .node (if g.dict b && o.dict v then .both b v else .upper v)
    | _ => .node (.upper v)

/-- `o` laid over `g`: two dictionaries in one place are one dictionary, with the items of both. -/
def overlay (g : Graph N κ S) (o : Graph M κ S) : Graph (Laid N M) κ S where
  child
    | .both b v, .key k =>
      ((o.child v (.key k)).map (onto g o (g.child b (.key k)))).or ((g.child b (.key k)).map (Link.map .lower))
    | .both _ _, .index _ => none
    | .lower b, a => (g.child b a).map (Link.map .lower)
    | .upper v, a => (o.child v a).map (Link.map .upper)
  dict
    | .both _ _ => true
    | .lower b => g.dict b
    | .upper v => o.dict v
  isKey_of_child n a hsome := by
    cases n with
    | both b v =>
      cases a with
      | key k => rfl
      | index i => cases hsome
    | lower b => exact g.isKey_of_child b a (by rwa [Option.isSome_map] at hsome)
    | upper v => exact o.isKey_of_child v a (by rwa [Option.isSome_map] at hsome)

section

variable {b : N} {v : M} {k : κ}

theorem overlay_both (b : N) (v : M) (k : κ) :
    (overlay g o).child (.both b v) (.key k) =
      ((o.child v (.key k)).map (onto g o (g.child b (.key k)))).or
        ((g.child b (.key k)).map (Link.map .lower)) := rfl

theorem overlay_both_of_none (h : o.child v (.key k) = none) :
    (overlay g o).child (.both b v) (.key k) = (g.child b (.key k)).map (Link.map .lower) := by
  rw [overlay_both, h]
  rfl

theorem overlay_both_of_some {l : Link M S} (h : o.child v (.key k) = some l) :
    (overlay g o).child (.both b v) (.key k) = some (onto g o (g.child b (.key k)) l) := by
  rw [overlay_both, h]
  rfl

theorem onto_node_cases (old : Option (Link N S)) (v : M) :
    (∃ b, old = some (.node b) ∧ g.dict b = true ∧ o.dict v = true ∧ onto g o old (.node v) = .node (.both b v)) ∨
      (∀ b, old = some (.node b) → ¬ (g.dict b = true ∧ o.dict v = true)) ∧
        onto g o old (.node v) = .node (.upper v) := by
  match old with
  | none => exact .inr ⟨nofun, rfl⟩
  | some (.atom s) => exact .inr ⟨nofun, rfl⟩
  | some (.node b) =>
    by_cases hdicts : g.dict b = true ∧ o.dict v = true
    · exact .inl ⟨b, rfl, hdicts.1, hdicts.2, by rw [onto, hdicts.1, hdicts.2]; rfl⟩
    · refine .inr ⟨fun b' hb' => ?_, ?_⟩
      · cases hb'
        exact hdicts
      · rw [onto, if_neg]
        rwa [Bool.and_eq_true]

theorem overlay_both_eq_both {b' : N} {v' : M} (h : (overlay g o).child (.both b v) a = some (.node (.both b' v'))) :
    ∃ k, a = .key k ∧ g.child b (.key k) = some (.node b') ∧ o.child v (.key k) = some (.node v') ∧
      g.dict b' = true ∧ o.dict v' = true := by
  cases a with
  | index i => cases h
  | key k =>
    cases ho : o.child v (.key k) with
    | none =>
      rw [overlay_both_of_none ho] at h
      obtain ⟨l, -, heq⟩ := Option.map_eq_some_iff.mp h
      cases l <;> cases heq
    | some l =>
      rw [overlay_both_of_some ho, Option.some.injEq] at h
      cases l with
      | atom s => cases h
      | node w =>
        obtain ⟨b'', hb'', hbdict, hvdict, heq⟩ | ⟨-, heq⟩ := onto_node_cases (g := g) (o := o) (g.child b (.key k)) w
        · rw [heq] at h
          cases h
          exact ⟨k, rfl, hb'', ho, hbdict, hvdict⟩
        · rw [heq] at h
          cases h

/-- Below of one graph alone there is nothing of both. -/
theorem look_lower_ne {b' : N} {v' : M} : (overlay g o).look (.node (.lower b)) p ≠ some (.node (.both b' v')) := by
  induction p generalizing b with
  | nil => nofun
  | cons a p ih =>
    intro h
    rw [look_cons] at h
    obtain ⟨i, hi, h⟩ := Option.bind_eq_some_iff.mp h
    obtain ⟨l, -, rfl⟩ := Option.map_eq_some_iff.mp hi
    cases l with
    | atom s => cases p <;> cases h
    | node b'' => exact ih h

theorem look_upper_ne {b' : N} {v' : M} : (overlay g o).look (.node (.upper v)) p ≠ some (.node (.both b' v')) := by
  induction p generalizing v with
  | nil => nofun
  | cons a p ih =>
    intro h
    rw [look_cons] at h
    obtain ⟨i, hi, h⟩ := Option.bind_eq_some_iff.mp h
    obtain ⟨l, -, rfl⟩ := Option.map_eq_some_iff.mp hi
    cases l with
    | atom s => cases p <;> cases h
    | node v'' => exact ih h

/-- Where a container lies that is found under a path from two dictionaries of which one is laid over the
other. -/
def Lies (g : Graph N κ S) (o : Graph M κ S) (r : N) (r' : M) (p : List (Access κ)) : Laid N M → Prop
  | .both b v => g.look (.node r) p = some (.node b) ∧ o.look (.node r') p = some (.node v) ∧ g.dict b = true ∧
    o.dict v = true
  | .lower b => g.look (.node r) p = some (.node b) ∧ o.look (.node r') p = none
  | .upper v => o.look (.node r') p = some (.node v)

/-- One step further. -/
theorem Lies.child {r : N} {r' : M} {n n' : Laid N M} (h : Lies g o r r' p n)
    (hchild : (overlay g o).child n a = some (.node n')) : Lies g o r r' (p ++ [a]) n' := by
  cases n with
  | both b v =>
    obtain ⟨hb, hv, -, -⟩ := h
    cases a with
    | index i => cases hchild
    | key k =>
      cases ho : o.child v (.key k) with
      | none =>
        rw [overlay_both_of_none ho] at hchild
        obtain ⟨l, hl, heq⟩ := Option.map_eq_some_iff.mp hchild
        cases l with
        | atom s => cases heq
        | node b' =>
          cases heq
          exact ⟨(look_concat _ p _ hb).trans hl, (look_concat _ p _ hv).trans ho⟩
      | some l =>
        rw [overlay_both_of_some ho, Option.some.injEq] at hchild
        cases l with
        | atom s => cases hchild
        | node v' =>
          have hv' := (look_concat _ p _ hv).trans ho
          obtain ⟨b', hb', hbdict, hvdict, heq⟩ | ⟨-, heq⟩ := onto_node_cases (g := g) (o := o) (g.child b (.key k)) v'
          · rw [heq] at hchild
            cases hchild
            exact ⟨(look_concat _ p _ hb).trans hb', hv', hbdict, hvdict⟩
          · rw [heq] at hchild
            cases hchild
            exact hv'
  | lower b =>
    obtain ⟨l, hl, heq⟩ := Option.map_eq_some_iff.mp hchild
    cases l with
    | atom s => cases heq
    | node b' =>
      cases heq
      exact ⟨(look_concat _ p _ h.1).trans hl, look_concat_of_none _ p _ h.2⟩
  | upper v =>
    obtain ⟨l, hl, heq⟩ := Option.map_eq_some_iff.mp hchild
    cases l with
    | atom s => cases heq
    | node v' =>
      cases heq
      exact (look_concat _ p _ h).trans hl

theorem lies_of_look {r : N} {r' : M} {n : Laid N M} (hr : g.dict r = true) (hr' : o.dict r' = true)
    (h : (overlay g o).look (.node (.both r r')) p = some (.node n)) : Lies g o r r' p n := by
  induction p using List.reverseRecOn generalizing n with
  | nil =>
    cases h
    exact ⟨rfl, rfl, hr, hr'⟩
  | append_singleton p a ih =>
    obtain ⟨m, hm, hchild⟩ := look_concat_eq_node h
    exact (ih hm).child hchild

theorem Lies.reach {r : N} {r' : M} {n : Laid N M} (h : Lies g o r r' p n) :
    match n with
    | .both b v => g.Reach r b ∧ o.Reach r' v
    | .lower b => g.Reach r b
    | .upper v => o.Reach r' v := by
  cases n with
  | both b v => exact ⟨⟨p, h.1⟩, p, h.2.1⟩
  | lower b => exact ⟨p, h.1⟩
  | upper v => exact ⟨p, h⟩

end

/-! ### Paths -/

section

variable {b : N} {v : M}

/-- Below of one graph alone it is that graph. -/
theorem maps_lower (b : N) : Maps .lower g b (overlay g o) where
  child _ _ _ := rfl
  dict _ _ := rfl
  injective _ _ _ _ heq := Laid.lower.inj heq

theorem maps_upper (v : M) : Maps .upper o v (overlay g o) where
  child _ _ _ := rfl
  dict _ _ := rfl
  injective _ _ _ _ heq := Laid.upper.inj heq

theorem seen_map_lower (l : Link N S) (p : List (Access κ)) : (overlay g o).seen (l.map .lower) p = g.seen l p := by
  cases l with
  | atom s => cases p <;> rfl
  | node b => exact (maps_lower b).seen (.refl g b) p

theorem seen_map_upper (l : Link M S) (p : List (Access κ)) : (overlay g o).seen (l.map .upper) p = o.seen l p := by
  cases l with
  | atom s => cases p <;> rfl
  | node v => exact (maps_upper v).seen (.refl o v) p

theorem onto_none (l : Link M S) : onto g o none l = l.map .upper := by
  cases l <;> rfl

/-- What the upper graph has is found. -/
theorem look_overlay_of_upper {l : Link M S} {path : List κ} (h : o.look (.node v) (keyed path) = some l) :
    (∃ v' b', l = .node v' ∧ (overlay g o).look (.node (.both b v)) (keyed path) = some (.node (.both b' v'))) ∨
      (overlay g o).look (.node (.both b v)) (keyed path) = some (l.map .upper) := by
  induction path generalizing b v with
  | nil =>
    cases h
    exact .inl ⟨v, b, rfl, rfl⟩
  | cons k path ih =>
    rw [keyed_cons, look_cons] at h
    obtain ⟨i, hi, h⟩ := Option.bind_eq_some_iff.mp h
    rw [keyed_cons, look_cons, overlay_both_of_some hi, Option.bind_some]
    cases i with
    | atom s =>
      cases path with
      | nil =>
        cases h
        exact .inr rfl
      | cons k' path => cases h
    | node w =>
      obtain ⟨b', -, -, -, heq⟩ | ⟨-, heq⟩ := onto_node_cases (g := g) (o := o) (g.child b (.key k)) w
      · rw [heq]
        exact ih h
      · rw [heq, (maps_upper w).look (.refl o w), h]
        exact .inr rfl

/-- What only the lower graph has is found, or there is no place for it. -/
theorem look_overlay_of_lower {l : Link N S} {path : List κ} (hg : g.look (.node b) (keyed path) = some l)
    (ho : o.look (.node v) (keyed path) = none) :
    (overlay g o).look (.node (.both b v)) (keyed path) = some (l.map .lower) ∨
      (overlay g o).look (.node (.both b v)) (keyed path) = none ∧
        (overlay g o).slot (.both b v) (keyed path) = none := by
  induction path generalizing b v with
  | nil => cases ho
  | cons k path ih =>
    rw [keyed_cons, look_cons] at hg ho ⊢
    obtain ⟨i, hi, hg⟩ := Option.bind_eq_some_iff.mp hg
    cases hv : o.child v (.key k) with
    | none =>
      rw [overlay_both_of_none hv, hi]
      cases i with
      | atom s =>
        cases path with
        | nil =>
          cases hg
          exact .inl rfl
        | cons k' path => cases hg
      | node b' =>
        left
        rw [Option.map_some, Option.bind_some, Link.map, (maps_lower b').look (.refl g b'), hg]
        rfl
    | some j =>
      rw [hv, Option.bind_some] at ho
      have hnil : path ≠ [] := by
        rintro rfl
        cases ho
      have hkeyed : keyed path ≠ [] := by simpa using hnil
      have hover := overlay_both_of_some (g := g) (b := b) hv
      rw [hover, Option.bind_some]
      cases j with
      | atom s =>
        refine .inr ⟨?_, slot_cons_of_atom hover hkeyed⟩
        obtain ⟨k', path, rfl⟩ := List.exists_cons_of_ne_nil hnil
        rfl
      | node w =>
        obtain ⟨b', hb', -, -, heq⟩ | ⟨hnot, heq⟩ := onto_node_cases (g := g) (o := o) (g.child b (.key k)) w
        · rw [heq] at hover ⊢
          rw [hb', Option.some.injEq] at hi
          subst hi
          rw [slot_cons_of_node hover hkeyed]
          exact ih hg ho
        · rw [heq] at hover ⊢
          obtain ⟨k', path, rfl⟩ := List.exists_cons_of_ne_nil hnil
          -- The lower graph goes on here, so the upper one has no dictionary.
          have hlist : ¬ o.dict w = true := by
            intro hdict
            cases i with
            | atom s => cases hg
            | node b' =>
              rw [keyed_cons, look_cons] at hg
              obtain ⟨i', hi', -⟩ := Option.bind_eq_some_iff.mp hg
              refine hnot b' hi ⟨?_, hdict⟩
              exact (g.isKey_of_child b' (.key k') (by rw [hi']; rfl)).symm
          have hslot : (overlay g o).slot (.upper w) (keyed (k' :: path)) = none := by
            cases ht : (overlay g o).slot (.upper w) (keyed (k' :: path)) with
            | none => rfl
            | some t => exact absurd (dict_of_slot_key ht) hlist
          rw [slot_cons_of_node hover hkeyed]
          exact .inr ⟨look_of_slot_none hkeyed hslot, hslot⟩

end

/-! ### In other graphs -/

variable {N' M' : Type} {f : N → N'} {f' : M → M'} {g' : Graph N' κ S} {o' : Graph M' κ S} {r' : M}

theorem onto_map {g : Graph N κ S} {o : Graph M κ S} {old : Option (Link N S)} {l : Link M S}
    (hg : ∀ b, old = some (.node b) → g'.dict (f b) = g.dict b) (ho : ∀ v, l = .node v → o'.dict (f' v) = o.dict v) :
    onto g' o' (old.map (Link.map f)) (l.map f') = (onto g o old l).map (Laid.map f f') := by
  cases l with
  | atom s => rfl
  | node v =>
    match old with
    | none => rfl
    | some (.atom s) => rfl
    | some (.node b) =>
      rw [Option.map_some, Link.map, Link.map, onto, onto, hg b rfl, ho v rfl]
      split <;> rfl

/-- Both graphs inside of others. -/
theorem Maps.overlay (h : Maps f g r g') (h' : Maps f' o r' o') (hr : g.dict r = true) (hr' : o.dict r' = true) :
    Maps (Laid.map f f') (Graph.overlay g o) (.both r r') (Graph.overlay g' o') where
  child n hn a := by
    obtain ⟨p, hp⟩ := hn
    have hreach := (lies_of_look hr hr' hp).reach
    cases n with
    | lower b =>
      show (g'.child (f b) a).map _ = ((g.child b a).map _).map _
      rw [h.child b hreach, Link.map_map, Link.map_map]
      rfl
    | upper v =>
      show (o'.child (f' v) a).map _ = ((o.child v a).map _).map _
      rw [h'.child v hreach, Link.map_map, Link.map_map]
      rfl
    | both b v =>
      cases a with
      | index i => rfl
      | key k =>
        obtain ⟨hb, hv⟩ := hreach
        rw [Laid.map, overlay_both, overlay_both, h.child b hb, h'.child v hv]
        cases hchild : o.child v (.key k) with
        | none =>
          rw [Option.map_none, Option.map_none, Option.map_none, Option.none_or, Option.none_or, Link.map_map,
            Link.map_map]
          rfl
        | some l =>
          rw [Option.map_some, Option.map_some, Option.map_some, Option.some_or, Option.some_or, Option.map_some]
          refine congrArg some (onto_map (fun b' hb' => ?_) fun v' hv' => ?_)
          · exact h.dict b' (hb.child hb')
          · exact h'.dict v' (hv.child (hv' ▸ hchild))
  dict n hn := by
    obtain ⟨p, hp⟩ := hn
    have hreach := (lies_of_look hr hr' hp).reach
    cases n with
    | both b v => rfl
    | lower b => exact h.dict b hreach
    | upper v => exact h'.dict v hreach
  injective n m hn hm heq := by
    obtain ⟨p, hp⟩ := hn
    obtain ⟨q, hq⟩ := hm
    have hn := (lies_of_look hr hr' hp).reach
    have hm := (lies_of_look hr hr' hq).reach
    cases n with
    | both b v =>
      cases m with
      | both b' v' =>
        obtain ⟨hb, hv⟩ := Laid.both.inj heq
        rw [h.injective b b' hn.1 hm.1 hb, h'.injective v v' hn.2 hm.2 hv]
      | lower b' => cases heq
      | upper v' => cases heq
    | lower b =>
      cases m with
      | both b' v' => cases heq
      | lower b' => rw [h.injective b b' hn hm (Laid.lower.inj heq)]
      | upper v' => cases heq
    | upper v =>
      cases m with
      | both b' v' => cases heq
      | lower b' => cases heq
      | upper v' => rw [h'.injective v v' hn hm (Laid.upper.inj heq)]

/-! ## Laying over in place -/

/-- No container is found from `r` under two paths. -/
def Tree (g : Graph N κ S) (r : N) : Prop :=
  ∀ p q n, g.look (.node r) p = some (.node n) → g.look (.node r) q = some (.node n) → p = q

/-- Each container is an item in one place at most, and the root in none. -/
theorem tree_of_parent {r : N} (hroot : ∀ n a, g.child n a ≠ some (.node r))
    (hparent : ∀ n n' a a' m, g.child n a = some (.node m) → g.child n' a' = some (.node m) → n = n' ∧ a = a') :
    g.Tree r := by
  intro p
  induction p using List.reverseRecOn with
  | nil =>
    intro q n hp hq
    cases hp
    induction q using List.reverseRecOn with
    | nil => rfl
    | append_singleton q a _ =>
      obtain ⟨m, -, hchild⟩ := look_concat_eq_node hq
      exact absurd hchild (hroot m a)
  | append_singleton p a ih =>
    intro q n hp hq
    obtain ⟨m, hm, hchild⟩ := look_concat_eq_node hp
    induction q using List.reverseRecOn with
    | nil =>
      cases hq
      exact absurd hchild (hroot m a)
    | append_singleton q a' _ =>
      obtain ⟨m', hm', hchild'⟩ := look_concat_eq_node hq
      obtain ⟨rfl, rfl⟩ := hparent m m' a a' n hchild hchild'
      rw [ih q m hm hm']

/-- A tree inside of another graph is one there. -/
theorem Maps.tree {r : N} {f : N → M} {g' : Graph M κ S} (h : Maps f g r g') (htree : g.Tree r) :
    g'.Tree (f r) := by
  intro p q n hp hq
  obtain ⟨m, hm, rfl⟩ := h.exists_of_look hp
  obtain ⟨m', hm', heq⟩ := h.exists_of_look hq
  rw [h.injective m m' ⟨p, hm⟩ ⟨q, hm'⟩ heq] at hm
  exact htree p q m' hm hm'

/-- Two dictionaries, under one key, that are merged. -/
def Merges (g : Graph N κ S) (b : N) (k : κ) (l : Link N S) : Prop :=
  ∃ b' o', g.child b (.key k) = some (.node b') ∧ l = .node o' ∧ g.dict b' = true ∧ g.dict o' = true

/-- Laying `o` over `b` sets the item of `n` under `k` to `l`. -/
inductive Sets (g : Graph N κ S) : N → N → N → κ → Link N S → Prop
  | here {b o : N} {k : κ} {l : Link N S} : g.child o (.key k) = some l → ¬ g.Merges b k l → Sets g b o b k l
  | down {b o b' o' n : N} {k k' : κ} {l : Link N S} : g.child b (.key k) = some (.node b') →
      g.child o (.key k) = some (.node o') → g.dict b' = true → g.dict o' = true → Sets g b' o' n k' l →
      Sets g b o n k' l

/-- The items of a set of assignments, and no others, are changed. -/
structure Updated (g : Graph N κ S) (P : N → κ → Link N S → Prop) (g' : Graph N κ S) : Prop where
  sets : ∀ n k l, P n k l → g'.child n (.key k) = some l
  keeps : ∀ n a, (∀ k l, a = .key k → ¬ P n k l) → g'.child n a = g.child n a
  dict : ∀ n, g'.dict n = g.dict n

namespace Updated

variable {P Q : N → κ → Link N S → Prop} {g₁ g' : Graph N κ S}

theorem refl (g : Graph N κ S) : Updated g (fun _ _ _ => False) g where
  sets _ _ _ h := h.elim
  keeps _ _ _ := rfl
  dict _ := rfl

theorem congr (h : Updated g P g') (hPQ : ∀ n k l, P n k l ↔ Q n k l) : Updated g Q g' := by
  have heq : P = Q := funext fun n => funext fun k => funext fun l => propext (hPQ n k l)
  exact heq ▸ h

/-- One after the other, where no item is assigned to twice. -/
theorem trans (h : Updated g P g₁) (h' : Updated g₁ Q g') (hdisjoint : ∀ n k l l', P n k l → ¬ Q n k l') :
    Updated g (fun n k l => P n k l ∨ Q n k l) g' where
  sets n k l hPQ := by
    obtain hP | hQ := hPQ
    · rw [h'.keeps n (.key k), h.sets n k l hP]
      rintro k' l' ⟨⟩
      exact hdisjoint n k l l' hP
    · exact h'.sets n k l hQ
  keeps n a hnot := by
    rw [h'.keeps n a fun k l ha hQ => hnot k l ha (.inr hQ), h.keeps n a fun k l ha hP => hnot k l ha (.inl hP)]
  dict n := (h'.dict n).trans (h.dict n)

end Updated

section

variable {b o n : N} {k : κ} {l : Link N S}

/-- Only what is found from `b` is changed. -/
theorem Sets.reach {g : Graph N κ S} (h : Sets g b o n k l) : g.Reach b n := by
  induction h with
  | here => exact .refl g _
  | down hb _ _ _ _ ih => exact ih.head hb

/-- The assignments are made in the containers of both. -/
theorem sets_iff {g : Graph N κ S} (hb : g.dict b = true) (ho : g.dict o = true) :
    Sets g b o n k l ↔ ∃ p v, (overlay g g).look (.node (.both b o)) p = some (.node (.both n v)) ∧
      g.child v (.key k) = some l ∧ ¬ g.Merges n k l := by
  constructor
  · intro h
    induction h with
    | here hitem hnot => exact ⟨[], _, rfl, hitem, hnot⟩
    | @down b o b' o' n k k' l hb' ho' hbdict hodict _ ih =>
      obtain ⟨p, v, hlook, hv⟩ := ih hbdict hodict
      refine ⟨.key k :: p, v, ?_, hv⟩
      rw [look_cons, overlay_both_of_some ho', hb', onto, hbdict, hodict]
      exact hlook
  · rintro ⟨p, v, hlook, hitem, hnot⟩
    induction p generalizing b o with
    | nil =>
      cases hlook
      exact .here hitem hnot
    | cons a p ih =>
      rw [look_cons] at hlook
      obtain ⟨i, hi, hrest⟩ := Option.bind_eq_some_iff.mp hlook
      cases i with
      | atom s => cases p <;> cases hrest
      | node m =>
        cases m with
        | lower b' => exact absurd hrest look_lower_ne
        | upper v' => exact absurd hrest look_upper_ne
        | both b' o' =>
          obtain ⟨k', rfl, hb', ho', hbdict, hodict⟩ := overlay_both_eq_both hi
          exact .down hb' ho' hbdict hodict (ih hbdict hodict hrest)

end

/-! ### A tree and another graph -/

section

variable {b o n : N} {k : κ} {l : Link N S} {g g' : Graph N κ S}

/-- The containers of a tree, and of a graph that has none of them, are told apart by their places. -/
theorem Lies.eq_of_place (htree : g.Tree b) (hapart : ∀ n, g.Reach b n → ¬ g.Reach o n) {x y : Laid N N}
    (hx : Lies g g b o p x) (hy : Lies g g b o q y) (heq : x.place = y.place) : x = y := by
  cases x with
  | both n v =>
    cases y with
    | both n' v' =>
      obtain rfl : n = n' := heq
      rw [htree p q n hx.1 hy.1] at hx
      cases hx.2.1.symm.trans hy.2.1
      rfl
    | lower n' =>
      obtain rfl : n = n' := heq
      rw [htree p q n hx.1 hy.1] at hx
      cases hx.2.1.symm.trans hy.2
    | upper v' =>
      obtain rfl : n = v' := heq
      exact absurd ⟨q, hy⟩ (hapart n ⟨p, hx.1⟩)
  | lower n =>
    cases y with
    | both n' v' =>
      obtain rfl : n = n' := heq
      rw [htree p q n hx.1 hy.1] at hx
      cases hx.2.symm.trans hy.2.1
    | lower n' => exact congrArg Laid.lower heq
    | upper v' =>
      obtain rfl : n = v' := heq
      exact absurd ⟨q, hy⟩ (hapart n ⟨p, hx.1⟩)
  | upper v =>
    cases y with
    | both n' v' =>
      obtain rfl : v = n' := heq
      exact absurd ⟨p, hx⟩ (hapart v ⟨q, hy.1⟩)
    | lower n' =>
      obtain rfl : v = n' := heq
      exact absurd ⟨p, hx⟩ (hapart v ⟨q, hy.1⟩)
    | upper v' => exact congrArg Laid.upper heq

variable (hb : g.dict b = true) (ho : g.dict o = true) (htree : g.Tree b)

include hb ho htree

/-- The tree has no other path to it, and the other graph has nothing under this one. -/
theorem Lies.not_sets_lower (hlies : Lies g g b o p (.lower n)) : ¬ Sets g b o n k l := by
  intro hsets
  obtain ⟨q, v, hq, -⟩ := (sets_iff hb ho).mp hsets
  obtain ⟨hn, hv, -⟩ := lies_of_look hb ho hq
  rw [htree p q n hlies.1 hn] at hlies
  cases hlies.2.symm.trans hv

/-- The container of the other graph that lies on it is unique, since its path is. -/
theorem sets_both_iff {v : N} (hp : (overlay g g).look (.node (.both b o)) p = some (.node (.both n v))) :
    Sets g b o n k l ↔ g.child v (.key k) = some l ∧ ¬ g.Merges n k l := by
  obtain ⟨hn, hv, -⟩ := lies_of_look hb ho hp
  rw [sets_iff hb ho]
  constructor
  · rintro ⟨q, v', hq, hitem⟩
    obtain ⟨hn', hv', -⟩ := lies_of_look hb ho hq
    rw [htree p q n hn hn'] at hv
    cases hv.symm.trans hv'
    exact hitem
  · exact fun hitem => ⟨p, v, hp, hitem⟩

variable (h : Updated g (Sets g b o) g')

include h

/-- The items of a container that both have. -/
theorem child_both_of_updated {v : N} (a : Access κ)
    (hp : (overlay g g).look (.node (.both b o)) p = some (.node (.both n v))) :
    g'.child n a = ((overlay g g).child (.both n v) a).map (Link.map Laid.place) := by
  have hsets {k : κ} {l : Link N S} := sets_both_iff (k := k) (l := l) hb ho htree hp
  cases a with
  | index i =>
    rw [h.keeps n _ (by rintro k l ⟨⟩)]
    cases hchild : g.child n (.index i) with
    | none => rfl
    | some l =>
      have hlist := g.isKey_of_child n (.index i) (by rw [hchild]; rfl)
      cases hlist.trans (lies_of_look hb ho hp).2.2.1
  | key k =>
    cases hitem : g.child v (.key k) with
    | none =>
      rw [overlay_both_of_none hitem, h.keeps n (.key k), Link.map_map]
      · exact (Link.map_id _).symm
      · rintro k' l ⟨⟩ hset
        cases hitem.symm.trans (hsets.mp hset).1
    | some l =>
      rw [overlay_both_of_some hitem, Option.map_some]
      cases l with
      | atom s => exact h.sets n k _ (hsets.mpr ⟨hitem, by rintro ⟨-, -, -, ⟨⟩, -⟩⟩)
      | node w =>
        obtain ⟨b', hb', hbdict, hwdict, heq⟩ | ⟨hnot, heq⟩ :=
          onto_node_cases (g := g) (o := g) (g.child n (.key k)) w
        · rw [heq, h.keeps n (.key k), hb']
          · rfl
          · rintro k' l ⟨⟩ hset
            obtain ⟨hl, hnot⟩ := hsets.mp hset
            cases hitem.symm.trans hl
            exact hnot ⟨b', w, hb', rfl, hbdict, hwdict⟩
        · rw [heq]
          refine h.sets n k _ (hsets.mpr ⟨hitem, ?_⟩)
          rintro ⟨b', w', hb', ⟨⟩, hbdict, hwdict⟩
          exact hnot b' hb' ⟨hbdict, hwdict⟩

/-- A tree whose containers the other graph does not have, after the assignments. -/
theorem maps_of_updated (hapart : ∀ n, g.Reach b n → ¬ g.Reach o n) :
    Maps Laid.place (overlay g g) (.both b o) g' where
  child x hx a := by
    obtain ⟨p, hp⟩ := hx
    have hlies := lies_of_look hb ho hp
    cases x with
    | both n v => exact child_both_of_updated hb ho htree h a hp
    | lower n =>
      have hkept : g'.child n a = g.child n a := h.keeps n a fun k l _ => hlies.not_sets_lower hb ho htree
      rw [Laid.place, hkept]
      show _ = ((g.child n a).map _).map _
      rw [Link.map_map]
      exact (Link.map_id _).symm
    | upper v =>
      have hkept : g'.child v a = g.child v a :=
        h.keeps v a fun k l _ hsets => hapart v hsets.reach ⟨p, hlies⟩
      rw [Laid.place, hkept]
      show _ = ((g.child v a).map _).map _
      rw [Link.map_map]
      exact (Link.map_id _).symm
  dict x hx := by
    obtain ⟨p, hp⟩ := hx
    have hlies := lies_of_look hb ho hp
    cases x with
    | both n v => exact (h.dict n).trans hlies.2.2.1
    | lower n => exact h.dict n
    | upper v => exact h.dict v
  injective x y hx hy heq := by
    obtain ⟨p, hp⟩ := hx
    obtain ⟨q, hq⟩ := hy
    exact (lies_of_look hb ho hp).eq_of_place htree hapart (lies_of_look hb ho hq) heq

end

end Graph

end Py
