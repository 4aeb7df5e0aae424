import Mathlib.Data.List.Infix

/-!
# Containers that refer to each other

Mutable containers are the nodes of a graph: an item of a container is an immutable value or a container,
which may be an item of others as well, and of itself. A path is followed from a container, item by item.

* `slot`: the place that a path leads to; two paths with the same place are two names of one item (`Same`).
* `look_of_slot`: what is found under a path is the item at its place.
-/

namespace Py

/-- How an item is reached: by a key of a dictionary, or by an index of a list. -/
inductive Access (κ : Type) where
  | key (k : κ)
  | index (i : Nat)
  deriving DecidableEq

def Access.isKey {κ : Type} : Access κ → Bool
  | key _ => true
  | index _ => false

/-- The accesses by the keys of a path. -/
abbrev keyed {κ : Type} (path : List κ) : List (Access κ) := path.map .key

theorem keyed_cons {κ : Type} (k : κ) (path : List κ) : keyed (k :: path) = .key k :: keyed path := rfl

/-- What an item is: an immutable value, or a container. -/
inductive Link (N S : Type) where
  | atom (s : S)
  | node (n : N)
  deriving DecidableEq

namespace Link

variable {N S : Type}

/-- The value that an item is. -/
def atom? : Link N S → Option S
  | atom s => some s
  | node _ => none

/-- The container that an item is. -/
def node? : Link N S → Option N
  | atom _ => none
  | node n => some n

def map {M : Type} (f : N → M) : Link N S → Link M S
  | atom s => atom s
  | node n => node (f n)

theorem map_map {M L : Type} (f : N → M) (f' : M → L) (o : Option (Link N S)) :
    (o.map (map f)).map (map f') = o.map (map (f' ∘ f)) := by
  rw [Option.map_map]
  refine congrArg (Option.map · o) (funext fun l => ?_)
  cases l <;> rfl

theorem map_id (o : Option (Link N S)) : o.map (map id) = o := by
  match o with
  | none => rfl
  | some (atom s) => rfl
  | some (node n) => rfl

end Link

/-- What is seen of an item itself. -/
inductive Seen (S : Type) where
  | atom (s : S)
  | dict
  | list
  deriving DecidableEq

/-- The containers with their items. -/
structure Graph (N κ S : Type) where
  child : N → Access κ → Option (Link N S)
  /-- It is a dictionary, so items can be added to it. -/
  dict : N → Bool
  /-- The items of a dictionary have keys, those of a list indices. -/
  isKey_of_child : ∀ n a, (child n a).isSome → a.isKey = dict n

namespace Graph

variable {N κ S : Type} (g : Graph N κ S)

/-- What is found under a path. -/
def look : Link N S → List (Access κ) → Option (Link N S)
  | l, [] => some l
  | .atom _, _ :: _ => none
  | .node n, a :: path => (g.child n a).bind fun l => look l path

def see : Link N S → Seen S
  | .atom s => .atom s
  | .node n => if g.dict n then .dict else .list

/-- What is seen under a path. -/
def seen (l : Link N S) (path : List (Access κ)) : Option (Seen S) := (g.look l path).map g.see

/-- A place: a container, and the path from it to the item. If the path is longer than one step, the container
lacks its first key. -/
abbrev Place (N κ : Type) := N × List (Access κ)

/-- The place that a path leads to from a container: that of an item that is there, or that of one which can be
added to a dictionary, with the dictionaries above it. -/
def slot (n : N) : List (Access κ) → Option (Place N κ)
  | [] => none
  | [a] => if (g.child n a).isSome || g.dict n && a.isKey then some (n, [a]) else none
  | a :: b :: path =>
    match g.child n a with
    | some (.node m) => slot m (b :: path)
    | some (.atom _) => none
    | none => if g.dict n && (a :: b :: path).all Access.isKey then some (n, a :: b :: path) else none

/-- The path leads through the place, to what is below of it. -/
def Below (n : N) (t : Place N κ) (path : List (Access κ)) : Prop :=
  ∃ q, q <+: path ∧ q ≠ path ∧ g.slot n q = some t

/-- The container is one of the graph: it is a dictionary, or an item. -/
def Has (n : N) : Prop := g.dict n = true ∨ ∃ m a, g.child m a = some (.node n)

variable {g} {n m l : N} {a b : Access κ} {k : κ} {path p q : List (Access κ)} {t : Place N κ} {s : S}

/-! ## What is found -/

@[simp] theorem look_nil (i : Link N S) : g.look i [] = some i := by
  cases i <;> rfl

theorem look_cons : g.look (.node n) (a :: path) = (g.child n a).bind fun i => g.look i path := rfl

theorem look_append (i : Link N S) (p q : List (Access κ)) :
    g.look i (p ++ q) = (g.look i p).bind fun j => g.look j q := by
  induction p generalizing i with
  | nil => simp
  | cons a p ih =>
    cases i with
    | atom s => rfl
    | node n =>
      rw [List.cons_append, look_cons, look_cons]
      cases g.child n a with
      | none => rfl
      | some j => exact ih j

/-- What is seen behind an item. -/
theorem seen_append {i : Link N S} (h : g.look (.node n) p = some i) : g.seen (.node n) (p ++ q) = g.seen i q := by
  rw [seen, look_append, h, Option.bind_some, seen]

theorem look_concat (l : Link N S) (p : List (Access κ)) (a : Access κ) (h : g.look l p = some (.node n)) :
    g.look l (p ++ [a]) = g.child n a := by
  rw [look_append, h, Option.bind_some, look_cons]
  cases g.child n a with
  | none => rfl
  | some i => exact look_nil (g := g) i

theorem look_concat_of_none (l : Link N S) (p q : List (Access κ)) (h : g.look l p = none) :
    g.look l (p ++ q) = none := by
  rw [look_append, h, Option.bind_none]

/-- An immutable value has no items. -/
theorem look_of_seen_atom {l : Link N S} (h : g.seen l p = some (.atom s)) (hq : q ≠ []) :
    g.look l (p ++ q) = none := by
  obtain ⟨i, hi, hsee⟩ := Option.map_eq_some_iff.mp h
  obtain ⟨a, q, rfl⟩ := List.exists_cons_of_ne_nil hq
  rw [look_append, hi, Option.bind_some]
  cases i with
  | atom s' => rfl
  | node m =>
    rw [see] at hsee
    split at hsee <;> cases hsee

/-- The last step of a path to a container. -/
theorem look_concat_eq_node {i : Link N S} (h : g.look i (p ++ [a]) = some (.node n)) :
    ∃ m, g.look i p = some (.node m) ∧ g.child m a = some (.node n) := by
  rw [look_append] at h
  obtain ⟨j, hj, h⟩ := Option.bind_eq_some_iff.mp h
  cases j with
  | atom s => cases h
  | node m => exact ⟨m, hj, by rwa [← look_concat _ [] a rfl]⟩

/-! ## Places -/

theorem slot_singleton :
    g.slot n [a] = if (g.child n a).isSome || g.dict n && a.isKey then some (n, [a]) else none := rfl

theorem slot_singleton_of_child {i : Link N S} (h : g.child n a = some i) : g.slot n [a] = some (n, [a]) := by
  rw [slot_singleton, h]
  rfl

theorem slot_singleton_of_dict (h : g.dict n = true) (k : κ) : g.slot n [.key k] = some (n, [.key k]) := by
  simp [slot_singleton, h, Access.isKey]

theorem slot_cons_of_node (h : g.child n a = some (.node m)) (hp : p ≠ []) : g.slot n (a :: p) = g.slot m p := by
  cases p with
  | nil => exact absurd rfl hp
  | cons b p => simp only [slot, h]

theorem slot_cons_of_atom (h : g.child n a = some (.atom s)) (hp : p ≠ []) : g.slot n (a :: p) = none := by
  cases p with
  | nil => exact absurd rfl hp
  | cons b p => simp only [slot, h]

theorem slot_cons_of_none (h : g.child n a = none) :
    g.slot n (a :: p) = if g.dict n && (a :: p).all Access.isKey then some (n, a :: p) else none := by
  cases p with
  | nil => simp [slot_singleton, h]
  | cons b p => simp only [slot, h]

/-- Induction on a path, along the containers. -/
theorem slot_cases (n : N) (a : Access κ) (p : List (Access κ)) :
    p = [] ∨ p ≠ [] ∧
      ((∃ m, g.child n a = some (.node m)) ∨ (∃ s, g.child n a = some (.atom s)) ∨ g.child n a = none) := by
  by_cases hp : p = []
  · exact .inl hp
  · refine .inr ⟨hp, ?_⟩
    cases g.child n a with
    | none => exact .inr (.inr rfl)
    | some i =>
      cases i with
      | atom s => exact .inr (.inl ⟨s, rfl⟩)
      | node m => exact .inl ⟨m, rfl⟩

/-- A place at the end of one step is where that step leads. -/
theorem eq_of_slot_singleton (h : g.slot n [a] = some t) : t = (n, [a]) := by
  rw [slot_singleton] at h
  split at h
  · exact (Option.some.inj h).symm
  · cases h

theorem ne_nil_of_slot (h : g.slot n p = some t) : p ≠ [] := by
  rintro rfl
  cases h

/-- A place is a step away from its container at least. -/
theorem slot_ne_nil : g.slot n p ≠ some (m, []) := by
  intro h
  induction p generalizing n with
  | nil => cases h
  | cons a p ih =>
    obtain rfl | ⟨hp, ⟨l, hchild⟩ | ⟨s, hchild⟩ | hchild⟩ := g.slot_cases n a p
    · cases eq_of_slot_singleton h
    · rw [slot_cons_of_node hchild hp] at h
      exact ih h
    · rw [slot_cons_of_atom hchild hp] at h
      cases h
    · rw [slot_cons_of_none hchild] at h
      split at h
      · cases h
      · cases h

/-- A place is in a container of the graph. -/
theorem has_of_slot (hn : g.Has n) (h : g.slot n p = some t) : g.Has t.1 := by
  induction p generalizing n with
  | nil => cases h
  | cons a p ih =>
    obtain rfl | ⟨hp, ⟨m, hchild⟩ | ⟨s, hchild⟩ | hchild⟩ := g.slot_cases n a p
    · rw [eq_of_slot_singleton h]
      exact hn
    · rw [slot_cons_of_node hchild hp] at h
      exact ih (.inr ⟨n, a, hchild⟩) h
    · rw [slot_cons_of_atom hchild hp] at h
      cases h
    · rw [slot_cons_of_none hchild] at h
      split at h
      · rw [← Option.some.inj h]
        exact hn
      · cases h

/-- The containers that are found from `n`. -/
def Reach (g : Graph N κ S) (n m : N) : Prop := ∃ p, g.look (.node n) p = some (.node m)

theorem Reach.refl (g : Graph N κ S) (n : N) : g.Reach n n := ⟨[], rfl⟩

theorem Reach.child {r : N} (h : g.Reach r n) (hchild : g.child n a = some (.node m)) : g.Reach r m := by
  obtain ⟨p, hp⟩ := h
  refine ⟨p ++ [a], ?_⟩
  rw [look_append, hp, Option.bind_some, look_cons, hchild]
  rfl

theorem Reach.head {r : N} (hchild : g.child r a = some (.node n)) (h : g.Reach n m) : g.Reach r m := by
  obtain ⟨p, hp⟩ := h
  exact ⟨a :: p, by rw [look_cons, hchild]; exact hp⟩

/-- What holds of a container and of the items of those it holds of. -/
theorem Reach.induct {r : N} {P : N → Prop} (h : g.Reach r n) (hr : P r)
    (hitem : ∀ m a n, g.Reach r m → P m → g.child m a = some (.node n) → P n) : P n := by
  obtain ⟨p, hp⟩ := h
  induction p using List.reverseRecOn generalizing n with
  | nil =>
    cases hp
    exact hr
  | append_singleton p a ih =>
    obtain ⟨m, hm, hchild⟩ := look_concat_eq_node hp
    exact hitem m a n ⟨p, hm⟩ (ih hm) hchild

/-- The container of a place is found from where the path begins. -/
theorem reach_of_slot {r : N} (hn : g.Reach r n) (h : g.slot n p = some t) : g.Reach r t.1 := by
  induction p generalizing n with
  | nil => cases h
  | cons a p ih =>
    obtain rfl | ⟨hp, ⟨m, hchild⟩ | ⟨s, hchild⟩ | hchild⟩ := g.slot_cases n a p
    · rw [eq_of_slot_singleton h]
      exact hn
    · rw [slot_cons_of_node hchild hp] at h
      exact ih (hn.child hchild) h
    · rw [slot_cons_of_atom hchild hp] at h
      cases h
    · rw [slot_cons_of_none hchild] at h
      split at h
      · rw [← Option.some.inj h]
        exact hn
      · cases h

/-- A path that begins with a key begins at a dictionary. -/
theorem dict_of_slot_key (h : g.slot n (.key k :: p) = some t) : g.dict n = true := by
  cases hchild : g.child n (.key k) with
  | some i => exact (g.isKey_of_child n (.key k) (by rw [hchild]; rfl)).symm
  | none =>
    rw [slot_cons_of_none hchild] at h
    split at h
    · rename_i hdict
      exact ((Bool.and_eq_true ..).mp hdict).1
    · cases h

/-- What is found under a path is the item at its place. -/
theorem look_of_slot (h : g.slot n p = some (m, [a])) : g.look (.node n) p = g.child m a := by
  induction p generalizing n with
  | nil => cases h
  | cons b p ih =>
    obtain rfl | ⟨hp, ⟨m', hchild⟩ | ⟨s, hchild⟩ | hchild⟩ := g.slot_cases n b p
    · cases eq_of_slot_singleton h
      rw [look_cons]
      cases g.child m a with
      | none => rfl
      | some i => exact look_nil (g := g) i
    · rw [slot_cons_of_node hchild hp] at h
      rw [look_cons, hchild]
      exact ih h
    · rw [slot_cons_of_atom hchild hp] at h
      cases h
    · rw [slot_cons_of_none hchild] at h
      split at h
      · rw [Option.some.injEq, Prod.mk.injEq, List.cons.injEq] at h
        exact absurd h.2.2 hp
      · cases h

/-- Under a place at the end of missing keys there is nothing. -/
theorem look_of_slot_missing (h : g.slot n p = some (m, a :: b :: q)) : g.look (.node n) p = none := by
  induction p generalizing n with
  | nil => cases h
  | cons c p ih =>
    obtain rfl | ⟨hp, ⟨m', hchild⟩ | ⟨s, hchild⟩ | hchild⟩ := g.slot_cases n c p
    · cases eq_of_slot_singleton h
    · rw [slot_cons_of_node hchild hp] at h
      rw [look_cons, hchild]
      exact ih h
    · rw [slot_cons_of_atom hchild hp] at h
      cases h
    · rw [look_cons, hchild, Option.bind_none]

/-- Without a place there is nothing. -/
theorem look_of_slot_none (hp : p ≠ []) (h : g.slot n p = none) : g.look (.node n) p = none := by
  induction p generalizing n with
  | nil => exact absurd rfl hp
  | cons a p ih =>
    obtain rfl | ⟨hp', ⟨m, hchild⟩ | ⟨s, hchild⟩ | hchild⟩ := g.slot_cases n a p
    · rw [slot_singleton] at h
      split at h
      · cases h
      · rename_i hnone
        rw [Bool.or_eq_true, not_or, Option.not_isSome_iff_eq_none] at hnone
        rw [look_cons, hnone.1, Option.bind_none]
    · rw [slot_cons_of_node hchild hp'] at h
      rw [look_cons, hchild]
      exact ih hp' h
    · rw [look_cons, hchild, Option.bind_some]
      cases p with
      | nil => exact absurd rfl hp'
      | cons b p => rfl
    · rw [look_cons, hchild, Option.bind_none]

theorem not_below_nil : ¬ g.Below n t [] := by
  rintro ⟨q, hq, hne, -⟩
  exact hne (List.prefix_nil.mp hq)

theorem not_below_singleton : ¬ g.Below n t [a] := by
  rintro ⟨q, hq, hne, hslot⟩
  cases q with
  | nil => cases hslot
  | cons b q =>
    obtain ⟨rfl, hrest⟩ := List.cons_prefix_cons.mp hq
    exact hne (by rw [List.prefix_nil.mp hrest])

theorem Below.longer (h : g.Below n t q) (hq : q <+: p) : g.Below n t p := by
  obtain ⟨q', hq', hne, hslot⟩ := h
  refine ⟨q', hq'.trans hq, ?_, hslot⟩
  rintro rfl
  exact hne (hq'.eq_of_length_le hq.length_le)

theorem below_cons (h : g.child n a = some (.node m)) (hp : p ≠ []) :
    g.Below n t (a :: p) ↔ t = (n, [a]) ∨ g.Below m t p := by
  constructor
  · rintro ⟨q, hq, hne, hslot⟩
    cases q with
    | nil => cases hslot
    | cons b q =>
      obtain ⟨rfl, hrest⟩ := List.cons_prefix_cons.mp hq
      by_cases hnil : q = []
      · subst hnil
        exact .inl (eq_of_slot_singleton hslot)
      · rw [slot_cons_of_node h hnil] at hslot
        exact .inr ⟨q, hrest, fun heq => hne (by rw [heq]), hslot⟩
  · rintro (rfl | ⟨q, hq, hne, hslot⟩)
    · refine ⟨[a], List.cons_prefix_cons.mpr ⟨rfl, List.nil_prefix⟩, fun heq => hp ?_, slot_singleton_of_child h⟩
      exact (List.cons.inj heq).2.symm
    · refine ⟨a :: q, List.cons_prefix_cons.mpr ⟨rfl, hq⟩, fun heq => hne (List.cons.inj heq).2, ?_⟩
      rw [slot_cons_of_node h (ne_nil_of_slot hslot), hslot]

/-- Where an item is missing, only places of missing items are on the way. -/
theorem below_cons_of_none (h : g.child n a = none) (hbelow : g.Below n t (a :: p)) :
    ∃ q, q <+: p ∧ q ≠ p ∧ t = (n, a :: q) := by
  obtain ⟨q, hq, hne, hslot⟩ := hbelow
  cases q with
  | nil => cases hslot
  | cons b q =>
    obtain ⟨rfl, hrest⟩ := List.cons_prefix_cons.mp hq
    refine ⟨q, hrest, fun heq => hne (by rw [heq]), ?_⟩
    rw [slot_cons_of_none h] at hslot
    split at hslot
    · exact (Option.some.inj hslot).symm
    · cases hslot

/-- The container is no one yet. -/
structure Fresh (g : Graph N κ S) (m : N) : Prop where
  dict : g.dict m = false
  child : ∀ a, g.child m a = none
  unused : ∀ n a, g.child n a ≠ some (.node m)

theorem not_has_of_fresh (h : g.Fresh m) : ¬ g.Has m := by
  rintro (hdict | ⟨n, a, hchild⟩)
  · rw [h.dict] at hdict
    cases hdict
  · exact h.unused n a hchild

theorem look_ne_fresh (h : g.Fresh m) (hl : l ≠ m) : g.look (.node l) p ≠ some (.node m) := by
  induction p generalizing l with
  | nil =>
    rw [look_nil]
    rintro ⟨⟩
    exact hl rfl
  | cons a p ih =>
    rw [look_cons]
    cases hchild : g.child l a with
    | none => nofun
    | some i =>
      cases i with
      | atom s => cases p <;> nofun
      | node l' =>
        refine ih ?_
        rintro rfl
        exact h.unused l a hchild

/-! ## Longer paths -/

theorem slot_append_of_node (h : g.look (.node n) p = some (.node m)) (hq : q ≠ []) :
    g.slot n (p ++ q) = g.slot m q := by
  induction p generalizing n with
  | nil =>
    cases h
    rfl
  | cons a p ih =>
    rw [look_cons] at h
    obtain ⟨i, hi, h⟩ := Option.bind_eq_some_iff.mp h
    cases i with
    | atom s => cases p <;> cases h
    | node l =>
      rw [List.cons_append, slot_cons_of_node hi (List.append_ne_nil_of_right_ne_nil p hq)]
      exact ih h

theorem slot_append_of_atom (h : g.look (.node n) p = some (.atom s)) (hq : q ≠ []) : g.slot n (p ++ q) = none := by
  induction p generalizing n with
  | nil => cases h
  | cons a p ih =>
    rw [look_cons] at h
    obtain ⟨i, hi, h⟩ := Option.bind_eq_some_iff.mp h
    cases i with
    | atom s' => exact slot_cons_of_atom hi (List.append_ne_nil_of_right_ne_nil p hq)
    | node l =>
      rw [List.cons_append, slot_cons_of_node hi (List.append_ne_nil_of_right_ne_nil p hq)]
      exact ih h

/-- Where an item can not be added, none can be added below of it. -/
theorem slot_append_of_none (hp : p ≠ []) (h : g.slot n p = none) (q : List (Access κ)) : g.slot n (p ++ q) = none := by
  induction p generalizing n with
  | nil => exact absurd rfl hp
  | cons a p ih =>
    cases hchild : g.child n a with
    | none =>
      rw [slot_cons_of_none hchild] at h
      rw [List.cons_append, slot_cons_of_none hchild, if_neg]
      intro hkeys
      rw [if_pos] at h
      · cases h
      · rw [← List.cons_append, List.all_append] at hkeys
        simp only [Bool.and_eq_true] at hkeys ⊢
        exact ⟨hkeys.1, hkeys.2.1⟩
    | some i =>
      by_cases hnil : p = []
      · subst hnil
        rw [slot_singleton_of_child hchild] at h
        cases h
      · cases i with
        | atom s => exact slot_cons_of_atom hchild (List.append_ne_nil_of_left_ne_nil hnil q)
        | node m =>
          rw [slot_cons_of_node hchild hnil] at h
          rw [List.cons_append, slot_cons_of_node hchild (List.append_ne_nil_of_left_ne_nil hnil q)]
          exact ih hnil h

/-- The dictionaries that are missing on the way can be added with the item. -/
theorem slot_append_of_missing (hlook : g.look (.node n) p = none) (h : g.slot n p = some (m, path))
    (q : List (Access κ)) : g.slot n (p ++ q) = if q.all Access.isKey then some (m, path ++ q) else none := by
  induction p generalizing n with
  | nil => cases h
  | cons a p ih =>
    rw [look_cons] at hlook
    cases hchild : g.child n a with
    | none =>
      rw [slot_cons_of_none hchild] at h
      split at h
      · rename_i hkeys
        cases h
        rw [List.cons_append, slot_cons_of_none hchild, ← List.cons_append, List.all_append]
        simp only [Bool.and_eq_true] at hkeys
        simp [hkeys]
      · cases h
    | some i =>
      rw [hchild, Option.bind_some] at hlook
      by_cases hnil : p = []
      · subst hnil
        rw [look_nil] at hlook
        cases hlook
      · cases i with
        | atom s =>
          rw [slot_cons_of_atom hchild hnil] at h
          cases h
        | node l =>
          rw [slot_cons_of_node hchild hnil] at h
          rw [List.cons_append, slot_cons_of_node hchild (List.append_ne_nil_of_left_ne_nil hnil q)]
          exact ih hlook h

/-! ## Names of one item -/

/-- Two paths lead to one place. -/
def Same (g : Graph N κ S) (n : N) (p q : List (Access κ)) : Prop := (g.slot n p).isSome ∧ g.slot n p = g.slot n q

/-- A path leads through the place of another one, to what is below of it. -/
def Above (g : Graph N κ S) (n : N) (p q : List (Access κ)) : Prop := ∃ r, r <+: q ∧ r ≠ q ∧ g.Same n p r

instance [DecidableEq N] [DecidableEq κ] (g : Graph N κ S) (n : N) (p q : List (Access κ)) :
    Decidable (g.Same n p q) :=
  inferInstanceAs (Decidable (_ ∧ _))

theorem same_iff (ht : g.slot n p = some t) : g.Same n p q ↔ g.slot n q = some t := by
  rw [Same, ht]
  exact ⟨fun h => h.2.symm, fun h => ⟨rfl, h.symm⟩⟩

theorem above_iff (ht : g.slot n p = some t) : g.Above n p q ↔ g.Below n t q :=
  exists_congr fun _ => and_congr_right fun _ => and_congr_right fun _ => same_iff ht

namespace Same

variable {r : List (Access κ)}

/-- The names of an item lead to it. -/
theorem look_eq (h : g.Same n p q) : g.look (.node n) p = g.look (.node n) q := by
  obtain ⟨⟨m, path⟩, ht⟩ := Option.isSome_iff_exists.mp h.1
  have ht' := h.2.symm.trans ht
  match path with
  | [] => exact absurd ht slot_ne_nil
  | [a] => rw [look_of_slot ht, look_of_slot ht']
  | a :: b :: path => rw [look_of_slot_missing ht, look_of_slot_missing ht']

/-- What is below of an item has the names of the item. -/
theorem append (h : g.Same n p q) (hsome : (g.slot n (p ++ r)).isSome) : g.Same n (p ++ r) (q ++ r) := by
  by_cases hr : r = []
  · rwa [hr, List.append_nil, List.append_nil]
  refine ⟨hsome, ?_⟩
  obtain ⟨⟨m, path⟩, ht⟩ := Option.isSome_iff_exists.mp h.1
  have ht' := h.2.symm.trans ht
  cases hlook : g.look (.node n) p with
  | none => rw [slot_append_of_missing hlook ht, slot_append_of_missing (h.look_eq ▸ hlook) ht']
  | some i =>
    cases i with
    | atom s => rw [slot_append_of_atom hlook hr, slot_append_of_atom (h.look_eq ▸ hlook) hr]
    | node l => rw [slot_append_of_node hlook hr, slot_append_of_node (h.look_eq ▸ hlook) hr]

theorem symm (h : g.Same n p q) : g.Same n q p := ⟨h.2 ▸ h.1, h.2.symm⟩

end Same

theorem Above.append (h : g.Above n p q) (r : List (Access κ)) : g.Above n p (q ++ r) := by
  obtain ⟨q', hq', hne, hsame⟩ := h
  refine ⟨q', hq'.trans (List.prefix_append q r), ?_, hsame⟩
  rintro rfl
  exact hne (hq'.eq_of_length_le (by simp))

/-- An item that a path of keys leads through is a dictionary. -/
theorem Above.seen_eq_dict {keys : List κ} {i : Link N S} (h : g.Above n p (keyed keys))
    (hsome : (g.slot n (keyed keys)).isSome) (hlook : g.look (.node n) p = some i) : g.see i = .dict := by
  obtain ⟨r, ⟨s, heq⟩, hne, hsame⟩ := h
  have hs : s ≠ [] := by
    rintro rfl
    exact hne (by rw [← heq, List.append_nil])
  rw [hsame.look_eq] at hlook
  rw [← heq] at hsome
  cases i with
  | atom a =>
    rw [slot_append_of_atom hlook hs] at hsome
    cases hsome
  | node m =>
    rw [slot_append_of_node hlook hs] at hsome
    obtain ⟨t, ht⟩ := Option.isSome_iff_exists.mp hsome
    obtain ⟨a, s, rfl⟩ := List.exists_cons_of_ne_nil hs
    have hmem : a ∈ keyed keys := heq ▸ List.mem_append_right r List.mem_cons_self
    obtain ⟨k, -, rfl⟩ := List.mem_map.mp hmem
    rw [see, if_pos (dict_of_slot_key ht)]

end Graph

end Py
