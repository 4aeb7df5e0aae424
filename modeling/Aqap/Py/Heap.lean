import Aqap.Py.Overlay
import Aqap.Py.Dict

/-!
# Objects with addresses

The dictionaries and lists of a program as objects with addresses; an item is an immutable value or an address.

* `Heap.graph`: what the objects are to paths; `assigned`, `created`: an assignment and an allocation as the
  changes of that graph.
* `maps_append`, `maps_copy`: objects that are added keep their paths.
-/

namespace Py

/-- A dictionary or a list. -/
inductive Container (κ S : Type) where
  | dict (items : List (κ × Link Nat S))
  | list (items : List (Link Nat S))

/-- The objects by their addresses. -/
abbrev Heap (κ S : Type) := List (Container κ S)

namespace Container

variable {κ S : Type}

def isDict : Container κ S → Bool
  | dict _ => true
  | list _ => false

def child [DecidableEq κ] : Container κ S → Access κ → Option (Link Nat S)
  | dict items, .key k => items.lookup k
  | list items, .index i => items[i]?
  | _, _ => none

/-- The items without their keys. -/
def links : Container κ S → List (Link Nat S)
  | dict items => items.map Prod.snd
  | list items => items

theorem mem_links [DecidableEq κ] {o : Container κ S} {a : Access κ} {l : Link Nat S} (h : o.child a = some l) :
    l ∈ o.links := by
  cases o with
  | dict items =>
    cases a with
    | index i => cases h
    | key k =>
      obtain ⟨before, after, rfl, -⟩ := List.lookup_eq_some_iff.mp h
      exact List.mem_map_of_mem (List.mem_append_right _ List.mem_cons_self)
  | list items =>
    cases a with
    | key k => cases h
    | index i => exact List.mem_of_getElem? h

/-- `len(o) != 0` -/
def truthy : Container κ S → Bool
  | dict items => !items.isEmpty
  | list items => !items.isEmpty

end Container

namespace Heap

variable {κ S : Type} [DecidableEq κ] (h : Heap κ S)

/-- The objects as a graph. -/
def graph : Graph Nat κ S where
  child n a := (h[n]?).bind fun o => o.child a
  dict n := (h[n]?).any Container.isDict
  isKey_of_child n a hsome := by
    cases ho : h[n]? with
    | none =>
      rw [ho] at hsome
      cases hsome
    | some o =>
      rw [ho] at hsome
      cases o <;> cases a <;> first | rfl | cases hsome

/-- The items of a dictionary. -/
def items (n : Nat) : List (κ × Link Nat S) :=
  match h[n]? with
  | some (.dict items) => items
  | _ => []

/-- `o[k] = l`, of the dictionary at the address. -/
def assign (n : Nat) (k : κ) (l : Link Nat S) : Heap κ S := h.set n (.dict (Dict.setItem k l (h.items n)))

/-- No key occurs twice in a dictionary. -/
def Distinct : Prop := ∀ n, ((h.items n).map Prod.fst).Nodup

/-- No item is an address without an object. -/
def Closed : Prop := ∀ n a m, h.graph.child n a = some (.node m) → m < h.length

variable {h} {n m : Nat} {k : κ} {a : Access κ} {l : Link Nat S} {s : S}

omit [DecidableEq κ] in
theorem items_eq {items : List (κ × Link Nat S)} (ho : h[n]? = some (.dict items)) : h.items n = items := by
  rw [Heap.items, ho]

theorem dict_iff : h.graph.dict n = true ↔ h[n]? = some (.dict (h.items n)) := by
  unfold Heap.items
  show (h[n]?).any Container.isDict = true ↔ _
  cases h[n]? with
  | none => exact ⟨nofun, nofun⟩
  | some o => cases o <;> simp [Container.isDict]

theorem closed_of_links (hc : ∀ o ∈ h, ∀ l ∈ o.links, ∀ m ∈ l.node?, m < h.length) : h.Closed := by
  intro n a m hchild
  obtain ⟨o, ho, hchild⟩ := Option.bind_eq_some_iff.mp hchild
  exact hc o (List.mem_of_getElem? ho) _ (Container.mem_links hchild) m rfl

theorem lt_of_dict (hn : h.graph.dict n = true) : n < h.length :=
  (List.getElem?_eq_some_iff.mp (dict_iff.mp hn)).1

theorem child_key (hn : h.graph.dict n = true) (k : κ) : h.graph.child n (.key k) = (h.items n).lookup k := by
  show (h[n]?).bind _ = _
  rw [dict_iff.mp hn]
  rfl

theorem child_index (hn : h.graph.dict n = true) (i : Nat) : h.graph.child n (.index i) = none := by
  show (h[n]?).bind _ = _
  rw [dict_iff.mp hn]
  rfl

omit [DecidableEq κ] in
@[simp] theorem length_assign [DecidableEq κ] : (h.assign n k l).length = h.length := List.length_set

theorem getElem?_assign_of_ne (hne : m ≠ n) : (h.assign n k l)[m]? = h[m]? :=
  List.getElem?_set_ne (Ne.symm hne)

theorem getElem?_assign_self (hn : h.graph.dict n = true) :
    (h.assign n k l)[n]? = some (.dict (Dict.setItem k l (h.items n))) :=
  List.getElem?_set_self (lt_of_dict hn)

/-- An item of a dictionary is in the list of its items. -/
theorem mem_items (hn : h.graph.dict n = true) (hchild : h.graph.child n a = some l) :
    ∃ k, a = .key k ∧ (k, l) ∈ h.items n := by
  cases a with
  | index i =>
    rw [child_index hn] at hchild
    cases hchild
  | key k =>
    rw [child_key hn] at hchild
    obtain ⟨before, after, heq, -⟩ := List.lookup_eq_some_iff.mp hchild
    exact ⟨k, rfl, heq ▸ List.mem_append_right _ List.mem_cons_self⟩

/-- Objects that are the same have the same items. -/
theorem child_congr {h h' : Heap κ S} (heq : h'[m]? = h[n]?) (a : Access κ) :
    h'.graph.child m a = h.graph.child n a := by
  show (h'[m]?).bind _ = (h[n]?).bind _
  rw [heq]

theorem dict_congr {h h' : Heap κ S} (heq : h'[m]? = h[n]?) : h'.graph.dict m = h.graph.dict n := by
  show (h'[m]?).any _ = (h[n]?).any _
  rw [heq]

theorem child_assign (hn : h.graph.dict n = true) :
    (h.assign n k l).graph.child m a = if m = n ∧ a = .key k then some l else h.graph.child m a := by
  by_cases hm : m = n
  · subst hm
    have hdict : (h.assign m k l).graph.dict m = true := by
      show ((h.assign m k l)[m]?).any _ = true
      rw [getElem?_assign_self hn]
      rfl
    cases a with
    | index i => rw [child_index hdict, child_index hn, if_neg nofun]
    | key k' =>
      rw [child_key hdict, child_key hn, items_eq (getElem?_assign_self hn), Dict.lookup_setItem]
      simp
  · rw [if_neg fun hand => hm hand.1]
    exact child_congr (getElem?_assign_of_ne hm) a

theorem dict_assign (hn : h.graph.dict n = true) : (h.assign n k l).graph.dict m = h.graph.dict m := by
  by_cases hm : m = n
  · subst hm
    rw [hn]
    show ((h.assign m k l)[m]?).any _ = true
    rw [getElem?_assign_self hn]
    rfl
  · exact dict_congr (getElem?_assign_of_ne hm)

theorem assigned (hn : h.graph.dict n = true) (k : κ) (s : S) :
    Graph.Assigned h.graph n k s (h.assign n k (.atom s)).graph where
  dict_self := hn
  child _ _ := child_assign hn
  dict _ := dict_assign hn

theorem Closed.assign (hc : h.Closed) (hn : h.graph.dict n = true) (hl : ∀ m, l = .node m → m < h.length) :
    (h.assign n k l).Closed := by
  intro m a m' hchild
  rw [length_assign]
  rw [child_assign hn] at hchild
  split at hchild
  · exact hl m' (Option.some.inj hchild)
  · exact hc m a m' hchild

omit [DecidableEq κ] in
theorem items_congr {h h' : Heap κ S} (heq : h'[m]? = h[n]?) : h'.items m = h.items n := by
  rw [items, items, heq]

omit [DecidableEq κ] in
theorem distinct_of_lt (hd : ∀ n < h.length, ((h.items n).map Prod.fst).Nodup) : h.Distinct := by
  intro n
  by_cases hn : n < h.length
  · exact hd n hn
  · rw [items, List.getElem?_eq_none (Nat.not_lt.mp hn)]
    exact .nil

theorem Distinct.assign (hd : h.Distinct) (hn : h.graph.dict n = true) : (h.assign n k l).Distinct := by
  intro m
  by_cases hm : m = n
  · rw [hm, items_eq (getElem?_assign_self hn)]
    exact Dict.nodup_setItem (hd n)
  · rw [items_congr (getElem?_assign_of_ne hm)]
    exact hd m

/-- An item of a dictionary is found under its key. -/
theorem Distinct.mem_items_iff (hd : h.Distinct) (hn : h.graph.dict n = true) :
    (k, l) ∈ h.items n ↔ h.graph.child n (.key k) = some l := by
  rw [child_key hn]
  exact Dict.mem_items_iff (d := ⟨h.items n, hd n⟩)

/-! ## An allocation -/

variable (h) in
/-- `{}`, at the next address. -/
def alloc : Heap κ S := h ++ [.dict []]

omit [DecidableEq κ] in
theorem length_alloc : h.alloc.length = h.length + 1 := by
  rw [alloc, List.length_append, List.length_singleton]

theorem child_alloc : h.alloc.graph.child m a = h.graph.child m a := by
  show ((h ++ [_])[m]?).bind _ = (h[m]?).bind _
  by_cases hm : m < h.length
  · rw [List.getElem?_append_left hm]
  · rw [List.getElem?_append_right (Nat.not_lt.mp hm), List.getElem?_eq_none (Nat.not_lt.mp hm)]
    cases m - h.length with
    | zero => cases a <;> rfl
    | succ i => rfl

theorem dict_alloc : h.alloc.graph.dict m = (decide (m = h.length) || h.graph.dict m) := by
  show ((h ++ [_])[m]?).any _ = (_ || (h[m]?).any _)
  by_cases hm : m < h.length
  · rw [List.getElem?_append_left hm, decide_eq_false (Nat.ne_of_lt hm), Bool.false_or]
  · rw [List.getElem?_append_right (Nat.not_lt.mp hm), List.getElem?_eq_none (Nat.not_lt.mp hm)]
    by_cases heq : m = h.length
    · simp [heq, Container.isDict]
    · have hpos : m - h.length ≠ 0 := by omega
      obtain ⟨i, hi⟩ := Nat.exists_eq_succ_of_ne_zero hpos
      simp [hi, heq]

/-- The next address is no one's. -/
theorem Closed.fresh (hc : h.Closed) : h.graph.Fresh h.length where
  dict := by
    show (h[h.length]?).any _ = false
    rw [List.getElem?_eq_none (Nat.le_refl _)]
    rfl
  child a := by
    show (h[h.length]?).bind _ = none
    rw [List.getElem?_eq_none (Nat.le_refl _)]
    rfl
  unused n a hchild := Nat.lt_irrefl _ (hc n a h.length hchild)

theorem created (hc : h.Closed) (hn : h.graph.dict n = true) (hmissing : h.graph.child n (.key k) = none) :
    Graph.Created h.graph n k h.length (h.alloc.assign n k (.node h.length)).graph where
  dict_self := hn
  missing := hmissing
  fresh := hc.fresh
  child l a := by
    rw [child_assign (by rw [dict_alloc, hn, Bool.or_true]), child_alloc]
  dict l := by
    rw [dict_assign (by rw [dict_alloc, hn, Bool.or_true]), dict_alloc]

theorem Closed.create (hc : h.Closed) (hn : h.graph.dict n = true) :
    (h.alloc.assign n k (.node h.length)).Closed := by
  have hclosed : h.alloc.Closed := by
    intro m a m' hchild
    rw [child_alloc] at hchild
    rw [length_alloc]
    exact Nat.lt_succ_of_lt (hc m a m' hchild)
  refine hclosed.assign (by rw [dict_alloc, hn, Bool.or_true]) ?_
  rintro m ⟨⟩
  rw [length_alloc]
  exact Nat.lt_succ_self _

/-! ## Objects of another heap -/

end Heap

def Container.map {κ S : Type} (f : Nat → Nat) : Container κ S → Container κ S
  | .dict items => .dict (items.map fun e => (e.1, e.2.map f))
  | .list items => .list (items.map (Link.map f))

namespace Container

variable {κ S : Type} {f : Nat → Nat}

theorem child_map [DecidableEq κ] (o : Container κ S) (a : Access κ) :
    (o.map f).child a = (o.child a).map (Link.map f) := by
  cases o with
  | dict items =>
    cases a with
    | index i => rfl
    | key k =>
      show (items.map _).lookup k = (items.lookup k).map _
      induction items with
      | nil => rfl
      | cons e items ih =>
        rw [List.map_cons, Dict.lookup_cons_eq, Dict.lookup_cons_eq, ih]
        split <;> rfl
  | list items =>
    cases a with
    | key k => rfl
    | index i => exact List.getElem?_map ..

theorem isDict_map (o : Container κ S) : (o.map f).isDict = o.isDict := by
  cases o <;> rfl

end Container

namespace Heap

variable {κ S : Type}

/-- The objects of another heap, at the next addresses. -/
def append (h o : Heap κ S) : Heap κ S := h ++ o.map (Container.map (h.length + ·))

variable [DecidableEq κ] {h o : Heap κ S} {n m : Nat} {a : Access κ}

omit [DecidableEq κ] in
theorem getElem?_append (n : Nat) : (h.append o)[h.length + n]? = o[n]?.map (Container.map (h.length + ·)) := by
  rw [append, List.getElem?_append_right (Nat.le_add_right ..), Nat.add_sub_cancel_left, List.getElem?_map]

theorem child_append (n : Nat) (a : Access κ) :
    (h.append o).graph.child (h.length + n) a = (o.graph.child n a).map (Link.map (h.length + ·)) := by
  show ((h.append o)[h.length + n]?).bind _ = ((o[n]?).bind _).map _
  rw [getElem?_append]
  cases o[n]? with
  | none => rfl
  | some c => exact c.child_map a

theorem dict_append (n : Nat) : (h.append o).graph.dict (h.length + n) = o.graph.dict n := by
  show ((h.append o)[h.length + n]?).any _ = (o[n]?).any _
  rw [getElem?_append]
  cases o[n]? with
  | none => rfl
  | some c => exact c.isDict_map

theorem maps_append (r : Nat) : Graph.Maps (h.length + ·) o.graph r (h.append o).graph where
  child n _ a := child_append n a
  dict n _ := dict_append n
  injective _ _ _ _ heq := Nat.add_left_cancel heq

omit [DecidableEq κ] in
theorem items_append (n : Nat) :
    (h.append o).items (h.length + n) = (o.items n).map fun e => (e.1, e.2.map (h.length + ·)) := by
  rw [items, items, getElem?_append]
  cases o[n]? with
  | none => rfl
  | some c => cases c <;> rfl

omit [DecidableEq κ] in
/-- The objects that were there. -/
theorem getElem?_append_lt (hn : n < h.length) : (h.append o)[n]? = h[n]? := List.getElem?_append_left hn

theorem Closed.reach_lt (hc : h.Closed) (hn : n < h.length) (hreach : h.graph.Reach n m) : m < h.length := by
  exact hreach.induct hn fun n a m _ _ hchild => hc n a m hchild

theorem maps_append_left (hc : h.Closed) {r : Nat} (hr : r < h.length) :
    Graph.Maps id h.graph r (h.append o).graph where
  child n hn a := by
    rw [id, child_congr (getElem?_append_lt (hc.reach_lt hr hn))]
    cases h.graph.child n a with
    | none => rfl
    | some l => cases l <;> rfl
  dict n hn := dict_congr (getElem?_append_lt (hc.reach_lt hr hn))
  injective _ _ _ _ heq := heq

theorem Closed.append (hc : h.Closed) (ho : o.Closed) : (h.append o).Closed := by
  have hlength : (h.append o).length = h.length + o.length := by
    rw [Heap.append, List.length_append, List.length_map]
  intro n a m hchild
  rw [hlength]
  by_cases hn : n < h.length
  · rw [child_congr (getElem?_append_lt hn)] at hchild
    exact Nat.lt_add_right _ (hc n a m hchild)
  · obtain ⟨n, rfl⟩ := Nat.exists_eq_add_of_le (Nat.not_lt.mp hn)
    rw [child_append] at hchild
    obtain ⟨l, hl, heq⟩ := Option.map_eq_some_iff.mp hchild
    cases l with
    | atom s => cases heq
    | node m' =>
      cases heq
      exact Nat.add_lt_add_left (ho n a m' hl) _

omit [DecidableEq κ] in
theorem Distinct.append (hd : h.Distinct) (ho : o.Distinct) : (h.append o).Distinct := by
  intro n
  by_cases hn : n < h.length
  · rw [items_congr (getElem?_append_lt hn)]
    exact hd n
  · obtain ⟨n, rfl⟩ := Nat.exists_eq_add_of_le (Nat.not_lt.mp hn)
    rw [items_append, List.map_map]
    exact ho n

/-! ## A copy of a dictionary -/

variable (h) in
/-- `dict(r)`, at the next address. -/
def copy (r : Nat) : Heap κ S := h ++ [.dict (h.items r)]

theorem getElem?_copy_self {r : Nat} (hr : h.graph.dict r = true) : (h.copy r)[h.length]? = h[r]? := by
  rw [copy, List.getElem?_append_right (Nat.le_refl _), Nat.sub_self, dict_iff.mp hr]
  rfl

omit [DecidableEq κ] in
theorem getElem?_copy_lt {r : Nat} (hn : n < h.length) : (h.copy r)[n]? = h[n]? := List.getElem?_append_left hn

theorem Closed.copy {r : Nat} (hc : h.Closed) (hr : h.graph.dict r = true) : (h.copy r).Closed := by
  have hlength : (h.copy r).length = h.length + 1 := by
    rw [Heap.copy, List.length_append, List.length_singleton]
  intro n a m hchild
  rw [hlength]
  by_cases hn : n < h.length
  · rw [child_congr (getElem?_copy_lt hn)] at hchild
    exact Nat.lt_succ_of_lt (hc n a m hchild)
  · by_cases hself : n = h.length
    · subst hself
      rw [child_congr (getElem?_copy_self hr)] at hchild
      exact Nat.lt_succ_of_lt (hc r a m hchild)
    · have hnone : (h.copy r).graph.child n a = none := by
        show ((h.copy r)[n]?).bind _ = none
        rw [List.getElem?_eq_none (by omega)]
        rfl
      rw [hnone] at hchild
      cases hchild

/-- The copy has the items, which are the same objects. -/
theorem maps_copy {r : Nat} (hc : h.Closed) (hr : h.graph.dict r = true)
    (hroot : ∀ n a, h.graph.child n a ≠ some (.node r)) :
    Graph.Maps (fun n => if n = r then h.length else n) h.graph r (h.copy r).graph where
  child n hn a := by
    have hlt := hc.reach_lt (lt_of_dict hr) hn
    have hsame : h.graph.child n a = (h.graph.child n a).map (Link.map fun n => if n = r then h.length else n) := by
      cases hchild : h.graph.child n a with
      | none => rfl
      | some l =>
        cases l with
        | atom s => rfl
        | node m =>
          have hm : m ≠ r := fun heq => hroot n a (heq ▸ hchild)
          rw [Option.map_some, Link.map, if_neg hm]
    rw [← hsame]
    by_cases hself : n = r
    · rw [if_pos hself, hself]
      exact child_congr (getElem?_copy_self hr) a
    · rw [if_neg hself]
      exact child_congr (getElem?_copy_lt hlt) a
  dict n hn := by
    by_cases hself : n = r
    · rw [if_pos hself, hself]
      exact dict_congr (getElem?_copy_self hr)
    · rw [if_neg hself]
      exact dict_congr (getElem?_copy_lt (hc.reach_lt (lt_of_dict hr) hn))
  injective n m hn hm heq := by
    have hn := hc.reach_lt (lt_of_dict hr) hn
    have hm := hc.reach_lt (lt_of_dict hr) hm
    split at heq <;> split at heq
    · rename_i hnr hmr
      rw [hnr, hmr]
    · exact absurd heq.symm (Nat.ne_of_lt hm)
    · exact absurd heq (Nat.ne_of_lt hn)
    · exact heq

end Heap

end Py
