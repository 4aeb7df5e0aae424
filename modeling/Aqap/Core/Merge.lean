import Aqap.Core.Load

/-!
# Merging in place

`_merge` writes into the dictionaries of the configuration, which are a tree, and reads those of the file, in
which a mapping may have several names.

* `merged_merge`: which items it assigns; it does not reach the limit of nested calls.
-/

namespace Aqap.AQAPConfig

open Py Py.Graph

section

variable {h : Objects} {n : Nat} {k : YamlKey} {l : Ref}

theorem updated_assign (hn : h.graph.dict n = true) :
    Updated h.graph (fun m k' l' => m = n ∧ k' = k ∧ l' = l) (h.assign n k l).graph where
  sets m k' l' hset := by
    obtain ⟨rfl, rfl, rfl⟩ := hset
    rw [Heap.child_assign hn, if_pos ⟨rfl, rfl⟩]
  keeps m a hnot := by
    rw [Heap.child_assign hn, if_neg]
    rintro ⟨rfl, rfl⟩
    exact hnot k l rfl ⟨rfl, rfl, rfl⟩
  dict m := Heap.dict_assign hn

end

/-! ## One item -/

/-- What an item of the overlay sets: its key of the base, or items below of it. -/
def SetsItem (g : Graph Nat YamlKey Yaml) (b : Nat) (key : YamlKey) (value : Ref) (n : Nat) (k : YamlKey)
    (l : Ref) : Prop :=
  (¬ g.Merges b key value ∧ n = b ∧ k = key ∧ l = value) ∨
    ∃ b' o', g.child b (.key key) = some (.node b') ∧ value = .node o' ∧ g.dict b' = true ∧ g.dict o' = true ∧
      g.Sets b' o' n k l

theorem sets_iff_item {g : Graph Nat YamlKey Yaml} {b o n : Nat} {k : YamlKey} {l : Ref} :
    g.Sets b o n k l ↔ ∃ key value, g.child o (.key key) = some value ∧ SetsItem g b key value n k l := by
  constructor
  · intro h
    cases h with
    | here hitem hnot => exact ⟨k, l, hitem, .inl ⟨hnot, rfl, rfl, rfl⟩⟩
    | @down _ _ b' o' _ key _ _ hb ho hbdict hodict h =>
      exact ⟨key, .node o', ho, .inr ⟨b', o', hb, rfl, hbdict, hodict, h⟩⟩
  · rintro ⟨key, value, hitem, ⟨hnot, rfl, rfl, rfl⟩ | ⟨b', o', hb, rfl, hbdict, hodict, h⟩⟩
    · exact .here hitem hnot
    · exact .down hb hitem hbdict hodict h

/-- A tree of dictionaries, each one older than the one that has it, and a dictionary that has none of them. -/
structure Ready (g : Graph Nat YamlKey Yaml) (b o : Nat) : Prop where
  base : g.dict b = true
  overlay : g.dict o = true
  tree : g.Tree b
  apart : ∀ n, g.Reach b n → ¬ g.Reach o n
  older : ∀ n a m, g.Reach b n → g.child n a = some (.node m) → m < n

section

variable {g : Graph Nat YamlKey Yaml} {b o b' o' n : Nat} {key key' : YamlKey} {value value' l l' : Ref} {k : YamlKey}

theorem Ready.below (h : Ready g b o) (hb : g.child b (.key key) = some (.node b'))
    (ho : g.child o (.key key) = some (.node o')) (hbdict : g.dict b' = true) (hodict : g.dict o' = true) :
    Ready g b' o' where
  base := hbdict
  overlay := hodict
  tree p q n hp hq := by
    have heq := h.tree (.key key :: p) (.key key :: q) n (by rw [look_cons, hb]; exact hp)
      (by rw [look_cons, hb]; exact hq)
    exact (List.cons.inj heq).2
  apart n hn hno := h.apart n (hn.head hb) (hno.head ho)
  older n a m hn := h.older n a m (hn.head hb)

/-- The containers below of the base are older than it. -/
theorem Ready.lt_of_reach (h : Ready g b o) (hb : g.child b (.key key) = some (.node b')) (hn : g.Reach b' n) :
    n < b :=
  hn.induct (P := (· < b)) (h.older b _ b' (.refl g b) hb) fun m a n hm hlt hchild =>
    (h.older m a n (hm.head hb) hchild).trans hlt

/-- No container is found from two items of the base. -/
theorem Ready.key_unique (h : Ready g b o) {b'' : Nat} (hb : g.child b (.key key) = some (.node b'))
    (hb' : g.child b (.key key') = some (.node b'')) (hn : g.Reach b' n) (hn' : g.Reach b'' n) : key = key' := by
  obtain ⟨p, hp⟩ := hn
  obtain ⟨q, hq⟩ := hn'
  have heq := h.tree (.key key :: p) (.key key' :: q) n (by rw [look_cons, hb]; exact hp)
    (by rw [look_cons, hb']; exact hq)
  exact Access.key.inj (List.cons.inj heq).1

/-- What an item sets is the item itself, or below of it. -/
theorem SetsItem.cases (h : SetsItem g b key value n k l) :
    n = b ∧ k = key ∨ ∃ b', g.child b (.key key) = some (.node b') ∧ g.Reach b' n := by
  obtain ⟨-, hn, hk, -⟩ | ⟨b', o', hb, -, -, -, hsets⟩ := h
  · exact .inl ⟨hn, hk⟩
  · exact .inr ⟨b', hb, hsets.reach⟩

theorem SetsItem.reach (h : SetsItem g b key value n k l) : g.Reach b n := by
  obtain ⟨rfl, -⟩ | ⟨b', hb, hn⟩ := h.cases
  · exact .refl g n
  · exact hn.head hb

/-- Items with different keys set different items. -/
theorem SetsItem.key_unique (hready : Ready g b o) (h : SetsItem g b key value n k l)
    (h' : SetsItem g b key' value' n k l') : key = key' := by
  obtain ⟨hn, rfl⟩ | ⟨b', hb, hn⟩ := h.cases
  · obtain ⟨-, rfl⟩ | ⟨b'', hb', hn'⟩ := h'.cases
    · rfl
    · exact absurd hn (Nat.ne_of_lt (hready.lt_of_reach hb' hn'))
  · obtain ⟨hn', -⟩ | ⟨b'', hb', hn'⟩ := h'.cases
    · exact absurd hn' (Nat.ne_of_lt (hready.lt_of_reach hb hn))
    · exact hready.key_unique hb hb' hn hn'

end

/-! ## The loop -/

/-- The same container. -/
def Agrees (g g' : Graph Nat YamlKey Yaml) (n : Nat) : Prop :=
  (∀ a, g'.child n a = g.child n a) ∧ g'.dict n = g.dict n

/-- The objects before the items are merged: where items are to be set, and in the overlay, they are those of
`g`. -/
structure Before (g : Graph Nat YamlKey Yaml) (b o : Nat) (items : List (YamlKey × Ref)) (h : Objects) : Prop where
  closed : h.Closed
  distinct : h.Distinct
  base : h.graph.dict b = true
  same : ∀ e ∈ items, h.graph.child b (.key e.1) = g.child b (.key e.1)
  below : ∀ e ∈ items, ∀ b', g.child b (.key e.1) = some (.node b') → ∀ n, g.Reach b' n → Agrees g h.graph n
  overlay : ∀ n, g.Reach o n → Agrees g h.graph n

/-- What is left when a set of items was assigned, without an exception. -/
structure Merged (h : Objects) (P : Nat → YamlKey → Ref → Prop) (r : Result) : Prop where
  ok : r.2 = .ok ()
  closed : r.1.Closed
  distinct : r.1.Distinct
  updated : Updated h.graph P r.1.graph

section

variable {g : Graph Nat YamlKey Yaml} {b o : Nat} {key : YamlKey} {value : Ref} {h : Objects}
  {items : List (YamlKey × Ref)} {calls : Nat} {r : Result}

/-- One item leaves what the others need. -/
theorem Before.step (hready : Ready g b o) (h₀ : Before g b o ((key, value) :: items) h)
    (hkey : key ∉ items.map Prod.fst) (hm : Merged h (SetsItem g b key value) r) :
    Before g b o items r.1 := by
  have hagrees {n : Nat} (hn : ∀ k l, ¬ SetsItem g b key value n k l) (h₀ : Agrees g h.graph n) :
      Agrees g r.1.graph n :=
    ⟨fun a => (hm.updated.keeps n a fun k l _ => hn k l).trans (h₀.1 a), (hm.updated.dict n).trans h₀.2⟩
  have hne {e : YamlKey × Ref} (he : e ∈ items) : key ≠ e.1 := fun heq =>
    hkey (heq ▸ List.mem_map_of_mem he)
  refine ⟨hm.closed, hm.distinct, (hm.updated.dict b).trans h₀.base, fun e he => ?_, fun e he b' hb' n hn => ?_,
    fun n hn => ?_⟩
  · -- Another key of the base.
    rw [← h₀.same e (List.mem_cons_of_mem _ he)]
    refine hm.updated.keeps b _ ?_
    rintro k l ⟨⟩ hset
    obtain ⟨-, heq⟩ | ⟨b', hb', hn⟩ := hset.cases
    · exact hne he heq.symm
    · exact Nat.lt_irrefl b (hready.lt_of_reach hb' hn)
  · -- Below of another key: in a tree nothing is below of both.
    refine hagrees (fun k l hset => ?_) (h₀.below e (List.mem_cons_of_mem _ he) b' hb' n hn)
    obtain ⟨rfl, -⟩ | ⟨b'', hb'', hn'⟩ := hset.cases
    · exact Nat.lt_irrefl n (hready.lt_of_reach hb' hn)
    · exact hne he (hready.key_unique hb'' hb' hn' hn)
  · exact hagrees (fun k l hset => hready.apart n hset.reach hn) (h₀.overlay n hn)

/-- What a merge with that many calls left does. -/
def Merging (calls : Nat) : Prop :=
  ∀ g b o (h : Objects), Ready g b o → b < calls → h.Closed → h.Distinct →
    (∀ n, g.Reach b n ∨ g.Reach o n → Agrees g h.graph n) → Merged h (g.Sets b o) (_merge calls b o h)

theorem Merged.congr {P Q : Nat → YamlKey → Ref → Prop} (h₀ : Merged h P r)
    (hPQ : ∀ n k l, P n k l ↔ Q n k l) : Merged h Q r :=
  ⟨h₀.ok, h₀.closed, h₀.distinct, h₀.updated.congr hPQ⟩

theorem merge_item_of_dicts {merge : Nat → Nat → Objects → Result} {b' o' : Nat}
    (hb : h.graph.child b (.key key) = some (.node b')) (hbdict : h.graph.dict b' = true)
    (hodict : h.graph.dict o' = true) : merge_item merge b h key (.node o') = merge b' o' h := by
  unfold merge_item
  rw [hb]
  dsimp only
  rw [hbdict, hodict]
  rfl

theorem merge_item_of_not_merges {merge : Nat → Nat → Objects → Result} (hnot : ¬ h.graph.Merges b key value) :
    merge_item merge b h key value = (h.assign b key value, .ok ()) := by
  unfold merge_item
  split
  · rename_i b' o' hb'
    rw [if_neg]
    rw [Bool.and_eq_true]
    exact fun hdicts => hnot ⟨b', o', hb', rfl, hdicts⟩
  · rfl

theorem merged_item (hmerge : Merging calls) (hready : Ready g b o) (hb : b < calls + 1)
    (hitem : g.child o (.key key) = some value) (h₀ : Before g b o ((key, value) :: items) h) :
    Merged h (SetsItem g b key value) (merge_item (_merge calls) b h key value) := by
  have hsame : h.graph.child b (.key key) = g.child b (.key key) := h₀.same _ List.mem_cons_self
  by_cases hmerges : g.Merges b key value
  · -- The call is made for an older dictionary, so its calls are enough.
    obtain ⟨b', o', hb', rfl, hbdict, hodict⟩ := hmerges
    have hagrees (n : Nat) (hn : g.Reach b' n ∨ g.Reach o' n) : Agrees g h.graph n :=
      hn.elim (h₀.below _ List.mem_cons_self b' hb' n) fun hn => h₀.overlay n (hn.head hitem)
    have hmerged := hmerge g b' o' h (hready.below hb' hitem hbdict hodict)
      (Nat.lt_of_lt_of_le (hready.lt_of_reach hb' (.refl g b')) (Nat.le_of_lt_succ hb)) h₀.closed h₀.distinct hagrees
    have hbdict' := (hagrees b' (.inl (.refl g b'))).2.trans hbdict
    have hodict' := (hagrees o' (.inr (.refl g o'))).2.trans hodict
    rw [merge_item_of_dicts (hsame.trans hb') hbdict' hodict']
    refine hmerged.congr fun n k l => ⟨fun hset => .inr ⟨b', o', hb', rfl, hbdict, hodict, hset⟩, ?_⟩
    rintro (⟨hnot, -⟩ | ⟨b'', o'', hb'', ⟨⟩, -, -, hset⟩)
    · exact absurd ⟨b', o', hb', rfl, hbdict, hodict⟩ hnot
    · cases hb'.symm.trans hb''
      exact hset
  · have hassign : merge_item (_merge calls) b h key value = (h.assign b key value, .ok ()) := by
      refine merge_item_of_not_merges ?_
      rintro ⟨b', o', hb', rfl, hbdict, hodict⟩
      rw [hsame] at hb'
      refine hmerges ⟨b', o', hb', rfl, ?_, ?_⟩
      · rw [← hbdict, (h₀.below _ List.mem_cons_self b' hb' b' (.refl g b')).2]
      · rw [← hodict, (h₀.overlay o' ((Reach.refl g o').head hitem)).2]
    have hvalue : ∀ m, value = .node m → m < h.length := by
      rintro m rfl
      refine h₀.closed o (.key key) m ?_
      rw [(h₀.overlay o (.refl g o)).1, hitem]
    rw [hassign]
    refine ⟨rfl, h₀.closed.assign h₀.base hvalue, h₀.distinct.assign h₀.base, (updated_assign h₀.base).congr ?_⟩
    intro n k l
    refine ⟨fun hset => .inl ⟨hmerges, hset⟩, ?_⟩
    rintro (⟨-, hset⟩ | ⟨b', o', hb', heq, hbdict, hodict, -⟩)
    · exact hset
    · exact absurd ⟨b', o', hb', heq, hbdict, hodict⟩ hmerges

theorem merged_items (hmerge : Merging calls) (hready : Ready g b o) (hb : b < calls + 1)
    (hnodup : (items.map Prod.fst).Nodup) (hitems : ∀ e ∈ items, g.child o (.key e.1) = some e.2)
    (h₀ : Before g b o items h) :
    Merged h (fun n k l => ∃ e ∈ items, SetsItem g b e.1 e.2 n k l) (merge_items (_merge calls) b h items) := by
  induction items generalizing h with
  | nil =>
    refine ⟨rfl, h₀.closed, h₀.distinct, (Updated.refl _).congr fun n k l => ⟨False.elim, ?_⟩⟩
    rintro ⟨e, he, -⟩
    cases he
  | cons e items ih =>
    obtain ⟨key, value⟩ := e
    obtain ⟨hkey, hnodup⟩ := List.nodup_cons.mp hnodup
    obtain ⟨hitem, hitems⟩ := List.forall_mem_cons.mp hitems
    have hfirst := merged_item hmerge hready hb hitem h₀
    have hrest := ih hnodup hitems (h₀.step hready hkey hfirst)
    rw [merge_items, Result.andThen_of_ok hfirst.ok]
    refine ⟨hrest.ok, hrest.closed, hrest.distinct, (hfirst.updated.trans hrest.updated ?_).congr ?_⟩
    · rintro n k l l' hset ⟨e, he, hset'⟩
      exact hkey (hset.key_unique hready hset' ▸ List.mem_map_of_mem he)
    · simp

theorem merging (calls : Nat) : Merging calls := by
  induction calls with
  | zero => exact fun _ _ _ _ _ hb => absurd hb (Nat.not_lt_zero _)
  | succ calls ih =>
    intro g b o h hready hb hclosed hdistinct hagrees
    have hover n (hn : g.Reach o n) : Agrees g h.graph n := hagrees n (.inr hn)
    have hbase n (hn : g.Reach b n) : Agrees g h.graph n := hagrees n (.inl hn)
    have hodict : h.graph.dict o = true := (hover o (.refl g o)).2.trans hready.overlay
    have hmem key value : (key, value) ∈ h.items o ↔ g.child o (.key key) = some value := by
      rw [hdistinct.mem_items_iff hodict, (hover o (.refl g o)).1]
    refine (merged_items ih hready hb (hdistinct o) (fun e he => (hmem e.1 e.2).mp he)
      ⟨hclosed, hdistinct, (hbase b (.refl g b)).2.trans hready.base, fun e _ => (hbase b (.refl g b)).1 _,
        fun e _ b' hb' n hn => hbase n (hn.head hb'), hover⟩).congr fun n k l => ?_
    rw [sets_iff_item]
    constructor
    · rintro ⟨⟨key, value⟩, he, hset⟩
      exact ⟨key, value, (hmem key value).mp he, hset⟩
    · rintro ⟨key, value, hitem, hset⟩
      exact ⟨(key, value), (hmem key value).mpr hitem, hset⟩

end

/-! ## The defaults -/

/-- The dictionary that each dictionary of the defaults is an item of, with its key. -/
def owners : List (Nat × YamlKey) :=
  [(8, .str "app"), (2, .str "loggers"), (8, .str "logging"), (8, .str "transport"), (8, .str "security"),
    (8, .str "agents"), (8, .str "plugins"), (8, .str "supervisor")]

theorem defaults_items : ∀ n < DEFAULTS.length, DEFAULTS.graph.dict n = true ∧
    ∀ e ∈ DEFAULTS.items n, ∀ m ∈ e.2.node?, m < n ∧ owners[m]? = some (n, e.1) := by
  decide +kernel

section

variable {n n' m : Nat} {a a' : Access YamlKey}

theorem child_defaults (h : DEFAULTS.graph.child n a = some (.node m)) :
    m < n ∧ n < DEFAULTS.length ∧ ∃ k, a = .key k ∧ owners[m]? = some (n, k) := by
  by_cases hn : n < DEFAULTS.length
  · obtain ⟨hdict, hitems⟩ := defaults_items n hn
    obtain ⟨k, rfl, hmem⟩ := Heap.mem_items hdict h
    obtain ⟨hlt, howner⟩ := hitems _ hmem m rfl
    exact ⟨hlt, hn, k, rfl, howner⟩
  · have hnone : DEFAULTS.graph.child n a = none := by
      show (DEFAULTS[n]?).bind _ = none
      rw [List.getElem?_eq_none (Nat.not_lt.mp hn)]
      rfl
    rw [hnone] at h
    cases h

theorem closed_defaults : DEFAULTS.Closed := fun n a m h => by
  obtain ⟨hlt, hn, -⟩ := child_defaults h
  exact hlt.trans hn

theorem not_child_root (n : Nat) (a : Access YamlKey) : DEFAULTS.graph.child n a ≠ some (.node root) := by
  intro h
  obtain ⟨hlt, hn, -⟩ := child_defaults h
  exact absurd hn (by rw [show DEFAULTS.length = 9 from rfl]; unfold root at hlt; omega)

theorem tree_defaults : DEFAULTS.graph.Tree root := by
  refine tree_of_parent not_child_root fun n n' a a' m h h' => ?_
  obtain ⟨-, -, k, rfl, howner⟩ := child_defaults h
  obtain ⟨-, -, k', rfl, howner'⟩ := child_defaults h'
  rw [howner, Option.some.injEq, Prod.mk.injEq] at howner'
  exact ⟨howner'.1, congrArg Access.key howner'.2⟩

end

/-- Where a dictionary of the defaults is found in the configuration: its outermost one is the copy. -/
def place (n : Nat) : Nat := if n = root then data else n

theorem maps_copied : Maps place DEFAULTS.graph root copied.graph :=
  Heap.maps_copy closed_defaults rfl not_child_root

theorem closed_copied : copied.Closed := closed_defaults.copy rfl

theorem distinct_copied : copied.Distinct :=
  Heap.distinct_of_lt (by decide +kernel)

/-! ## A file laid over the defaults -/

/-- A file with a mapping: its dictionaries and lists, and the address of the outermost one. -/
structure Mapping where
  objects : Objects
  root : Nat
  dict : objects.graph.dict root = true
  closed : objects.Closed
  distinct : objects.Distinct
  /-- The other items are values. -/
  atoms : ∀ o ∈ objects, ∀ l ∈ o.links, ∀ v ∈ l.atom?, v.isScalar

namespace Mapping

variable (file : Mapping)

/-- The document that is read. -/
def document : Document := ⟨file.objects, .node file.root⟩

/-- The objects before the merge. -/
def before : Objects := copied.append file.objects

/-- The address of the file's mapping then. -/
def address : Nat := copied.length + file.root

/-- The file laid over the defaults. -/
def merged : Graph (Laid Nat Nat) YamlKey Yaml := overlay DEFAULTS.graph file.objects.graph

/-- The outermost mapping of both. -/
def top : Laid Nat Nat := .both AQAPConfig.root file.root

/-- The dictionaries of the defaults are before those of the file. -/
theorem place_lt {n : Nat} (hn : DEFAULTS.graph.Reach AQAPConfig.root n) : place n < copied.length := by
  have hlt : n < DEFAULTS.length := closed_defaults.reach_lt (by decide) hn
  have hlength : copied.length = DEFAULTS.length + 1 := by decide
  unfold place
  split
  · exact hlength ▸ Nat.lt_succ_self _
  · exact hlength ▸ Nat.lt_succ_of_lt hlt

theorem le_place {n : Nat} (hn : DEFAULTS.graph.Reach AQAPConfig.root n) : n ≤ place n := by
  unfold place
  split
  · exact Nat.le_of_lt (closed_defaults.reach_lt (by decide) hn)
  · exact Nat.le_refl n

theorem maps_defaults : Maps place DEFAULTS.graph AQAPConfig.root file.before.graph :=
  maps_copied.trans (Heap.maps_append_left closed_copied (by decide))

theorem maps_file : Maps (copied.length + ·) file.objects.graph file.root file.before.graph :=
  Heap.maps_append file.root

theorem ready : Ready file.before.graph data file.address where
  base := (maps_defaults file).dict _ (.refl _ _)
  overlay := ((maps_file file).dict _ (.refl _ _)).trans file.dict
  tree := (maps_defaults file).tree tree_defaults
  apart n hn hn' := by
    obtain ⟨d, hd, rfl⟩ := (maps_defaults file).exists_of_reach hn
    obtain ⟨v, -, heq⟩ := (maps_file file).exists_of_reach hn'
    exact absurd (place_lt hd) (Nat.not_lt.mpr (heq ▸ Nat.le_add_right ..))
  older n a m hn hchild := by
    obtain ⟨d, hd, rfl⟩ := (maps_defaults file).exists_of_reach hn
    rw [(maps_defaults file).child d hd] at hchild
    obtain ⟨l, hl, heq⟩ := Option.map_eq_some_iff.mp hchild
    cases l with
    | atom v => cases heq
    | node d' =>
      cases heq
      have hroot : d' ≠ AQAPConfig.root := fun heq => not_child_root d a (heq ▸ hl)
      show place d' < place d
      rw [place, if_neg hroot]
      exact (child_defaults hl).1.trans_le (le_place hd)

theorem closed_before : file.before.Closed := closed_copied.append file.closed

theorem distinct_before : file.before.Distinct := distinct_copied.append file.distinct

/-- The merge of `_load`, which an empty mapping does not come to. -/
def merging : Result :=
  if file.document.truthy then _merge recursion_limit data file.address file.before else (file.before, .ok ())

theorem child_of_empty (h : ¬ file.document.truthy = true) (a : Access YamlKey) :
    file.objects.graph.child file.root a = none := by
  have hitems : file.objects.items file.root = [] := by
    have hfalsy : ¬ (file.objects[file.root]?).any Container.truthy = true := h
    rw [Heap.dict_iff.mp file.dict] at hfalsy
    simpa [Container.truthy] using hfalsy
  cases a with
  | index i => exact Heap.child_index file.dict i
  | key k =>
    rw [Heap.child_key file.dict, hitems]
    rfl

theorem merged_merging : Merged file.before (file.before.graph.Sets data file.address) file.merging := by
  unfold merging
  split
  · exact AQAPConfig.merging recursion_limit file.before.graph data file.address file.before file.ready (by decide)
      file.closed_before file.distinct_before fun n _ => ⟨fun a => rfl, rfl⟩
  · rename_i hempty
    refine ⟨rfl, file.closed_before, file.distinct_before, (Updated.refl _).congr fun n k l => ?_⟩
    refine ⟨False.elim, fun hsets => ?_⟩
    obtain ⟨key, value, hitem, -⟩ := sets_iff_item.mp hsets
    rw [address, before, Heap.child_append, file.child_of_empty hempty] at hitem
    cases hitem

/-- Where a container of both is after the merge. -/
def position : Laid Nat Nat → Nat := Laid.place ∘ Laid.map place (copied.length + ·)

/-- **The merge is the file laid over the defaults.** -/
theorem maps_merged : Maps position file.merged file.top file.merging.1.graph := by
  have hover := (maps_defaults file).overlay (maps_file file) rfl file.dict
  exact hover.trans (maps_of_updated file.ready.base file.ready.overlay file.ready.tree file.merged_merging.updated
    file.ready.apart)

end Mapping

end Aqap.AQAPConfig
