import Aqap.Core.Merge

/-!
# What takes precedence in a configuration

A variable of the environment overrides the file, and the file the defaults. A variable is split at its
underscores, which also stand in the keys: it may lead elsewhere than to the key it is named after. Through an
alias of the file it leads to more than one place.

* `load_ok_iff`, `after_loaded`: when a load does not raise, and what is seen under each path then.
* `precedence_iff`: in which files and environments every key has the value of its variable.
-/

namespace Aqap.AQAPConfig

open Py Py.Graph
open Config (convert parts ENV_PREFIX)
open Unicode (lower)

/-! ## What is loaded -/

/-- The configuration of a file and an environment. -/
def loaded (file : Mapping) (environ : Dict String String) : Result :=
  _load ⟨some (.ok file.document), environ.items⟩

/-- The paths of the variables that are read. -/
abbrev paths (environ : Dict String String) : List (List YamlKey) := (overrides environ.items).map fun e => steps e.1

section

variable {file : Mapping} {environ : Dict String String} {p : List (Access YamlKey)} {e : String × String}

theorem loaded_eq (file : Mapping) (environ : Dict String String) :
    loaded file environ = _env_override data file.merging.1 environ.items := by
  have hok := file.merged_merging.ok
  by_cases htruthy : file.document.truthy = true
  · have hmerging : file.merging = _merge recursion_limit data file.address file.before := if_pos htruthy
    rw [hmerging] at hok ⊢
    rw [← Result.andThen_of_ok hok fun h => _env_override data h environ.items]
    exact (if_pos htruthy).trans (if_pos file.dict)
  · have hmerging : file.merging = (file.before, .ok ()) := if_neg htruthy
    rw [hmerging]
    exact if_neg htruthy

theorem load_ok_iff :
    (loaded file environ).2 = .ok () ↔
      (∀ e ∈ overrides environ.items, ∃ c, convert e.2 = .ok c) ∧ file.merged.Allowed file.top (paths environ) := by
  have hdata : file.merging.1.graph.dict data = true := file.maps_merged.dict _ (.refl _ _)
  rw [loaded_eq, (env_override_spec file.merged_merging.closed hdata environ.items).1]
  exact and_congr_right fun _ => file.maps_merged.allowed_iff

/-- What is seen under a path of the configuration. -/
def loaded_seen (file : Mapping) (environ : Dict String String) (p : List (Access YamlKey)) : Option (Seen Yaml) :=
  (loaded file environ).1.graph.seen (.node data) p

theorem after_loaded (hok : (loaded file environ).2 = .ok ()) (hp : p ≠ []) :
    After file.merged file.top (assignments environ.items) p (loaded_seen file environ p) := by
  have hdata : file.merging.1.graph.dict data = true := file.maps_merged.dict _ (.refl _ _)
  rw [loaded_seen]
  rw [loaded_eq] at hok ⊢
  have hwrites := (env_override_spec file.merged_merging.closed hdata environ.items).2 hok
  exact file.maps_merged.after_iff.mp (hwrites.after hdata hp)

end

/-! ## Precedence -/

/-- The variable that is named after a path. -/
def variable_name (p : List String) : String :=
  String.ofList (ENV_PREFIX ++ ("_".intercalate (p.map Unicode.upper)).toList)

/-- The accesses of a path of names. -/
abbrev accesses (p : List String) : List (Access YamlKey) := keyed (keys p)

/-- The path is one of the file or of the defaults, with keys in lower case. -/
def Setting (file : Mapping) (p : List String) : Prop :=
  p ≠ [] ∧ (∀ k ∈ p, lower k = k) ∧
    ((file.objects.graph.look (.node file.root) (accesses p)).isSome ∨
      (DEFAULTS.graph.look (.node root) (accesses p)).isSome)

/-- The variable of the path, else the file, else the default. -/
def wanted (file : Mapping) (environ : Dict String String) (p : List String) : Except String Document :=
  match environ.get? (variable_name p) with
  | some val => (convert val).map fun c => ⟨[], .atom c⟩
  | none =>
    match file.objects.graph.look (.node file.root) (accesses p) with
    | some l => .ok ⟨file.objects, l⟩
    | none => .ok ⟨DEFAULTS, get DEFAULTS (.node root) p⟩

/-- The key of a setting. -/
def Lower : Access YamlKey → Prop
  | .key (.str k) => lower k = k
  | _ => False

instance : DecidablePred Lower
  | .key (.str k) => inferInstanceAs (Decidable (lower k = k))
  | .key (.other _) => isFalse id
  | .index _ => isFalse id

/-- The path does not lead to a setting of its own: it begins at an item of a list, or at a key that is no
setting's. -/
def Inside (r : List (Access YamlKey)) : Prop := ∃ a q, r = a :: q ∧ ¬ Lower a

/-- The same value, with all that is in it. A section is compared by its settings, each of which is a path of its
own. -/
def Document.Equal (d d' : Document) : Prop :=
  ∀ r, r = [] ∨ Inside r → d.objects.graph.seen d.item r = d'.objects.graph.seen d'.item r

/-- What the configuration gives for a path. -/
def given (file : Mapping) (environ : Dict String String) (p : List String) : Document :=
  ⟨(loaded file environ).1, get (loaded file environ).1 (.node data) p⟩

/-- The load does not raise, and every setting has the value that takes precedence. -/
def Precedence (file : Mapping) (environ : Dict String String) : Prop :=
  (loaded file environ).2 = .ok () ∧ ∀ p, Setting file p →
    ∃ d, wanted file environ p = .ok d ∧ d.Equal (given file environ p)

/-! ## The variables of a setting -/

section

variable (file : Mapping) (environ : Dict String String) (p : List (Access YamlKey))

/-- What the file laid over the defaults has under the path. -/
def Mapping.seen : Option (Seen Yaml) := file.merged.seen (.node file.top) p

/-- A variable leads to a place above the path. -/
def Hidden : Prop := file.merged.Hidden file.top (paths environ) p

/-- A variable leads to the place of the path. -/
def Led : Prop := file.merged.Led file.top (paths environ) p

/-- The last variable that leads to the place of the path. -/
def Last (e : String × String) : Prop :=
  ∃ es₁ es₂, overrides environ.items = es₁ ++ e :: es₂ ∧ file.merged.Same file.top (keyed (steps e.1)) p ∧
    ∀ e' ∈ es₂, ¬ file.merged.Same file.top (keyed (steps e'.1)) p

end

/-- What the variables have to do with a setting. -/
structure Followed (file : Mapping) (environ : Dict String String) (p : List String) : Prop where
  /-- No variable takes the place of a section above it, except if nothing is wanted. -/
  above : Hidden file environ (accesses p) → ∃ d, wanted file environ p = .ok d ∧ d.item = .atom .null
  /-- The last variable that leads to it is its own, or has the same value. -/
  last : ¬ Hidden file environ (accesses p) → ∀ e, Last file environ (accesses p) e →
    e.1 = variable_name p ∨ ∃ d c, wanted file environ p = .ok d ∧ convert e.2 = .ok c ∧ d.item = .atom c
  /-- Its own variable does not lead elsewhere, except if the value is there already. -/
  own : ¬ Hidden file environ (accesses p) → ¬ Led file environ (accesses p) →
    ∀ val, environ.get? (variable_name p) = some val →
      ∃ c, convert val = .ok c ∧ file.seen (accesses p) = some (.atom c)
  /-- The file has nothing else in the place of a section above it, except if the default is nothing. -/
  cut : ¬ Hidden file environ (accesses p) → ¬ Led file environ (accesses p) →
    environ.get? (variable_name p) = none → file.objects.graph.look (.node file.root) (accesses p) = none →
      file.seen (accesses p) = none → get DEFAULTS (.node root) p = .atom .null
  /-- No variable leads to an item that is inside of it, except if the value is there already. -/
  inside : ¬ Hidden file environ (accesses p) → ¬ Led file environ (accesses p) →
    environ.get? (variable_name p) = none → ∀ r, Inside r → ¬ Hidden file environ (accesses p ++ r) →
      ∀ e, Last file environ (accesses p ++ r) e →
        ∃ c, convert e.2 = .ok c ∧ file.seen (accesses p ++ r) = some (.atom c)

section

variable {file : Mapping} {environ : Dict String String} {p q r : List (Access YamlKey)} {e : String × String}

theorem Last.mem (h : Last file environ p e) : e ∈ overrides environ.items := by
  obtain ⟨es₁, es₂, heq, -, -⟩ := h
  rw [heq]
  exact List.mem_append_right _ List.mem_cons_self

theorem Last.led (h : Last file environ p e) : Led file environ p :=
  ⟨steps e.1, List.mem_map_of_mem h.mem, h.choose_spec.choose_spec.2.1⟩

theorem exists_last_of_mem {α : Type} {P : α → Prop} {l : List α} (h : ∃ a ∈ l, P a) :
    ∃ a l₁ l₂, l = l₁ ++ a :: l₂ ∧ P a ∧ ∀ b ∈ l₂, ¬ P b := by
  induction l with
  | nil =>
    obtain ⟨a, ha, -⟩ := h
    cases ha
  | cons b l ih =>
    by_cases hlater : ∃ a ∈ l, P a
    · obtain ⟨a, l₁, l₂, rfl, hlast⟩ := ih hlater
      exact ⟨a, b :: l₁, l₂, rfl, hlast⟩
    · obtain ⟨a, ha, hP⟩ := h
      obtain rfl | ha := List.mem_cons.mp ha
      · exact ⟨a, [], l, rfl, hP, fun b hb hPb => hlater ⟨b, hb, hPb⟩⟩
      · exact absurd ⟨a, ha, hP⟩ hlater

/-- Of the variables that lead to a place, there is a last one. -/
theorem Led.exists_last (h : Led file environ p) : ∃ e, Last file environ p e := by
  obtain ⟨path, hpath, hsame⟩ := h
  obtain ⟨e, he, rfl⟩ := List.mem_map.mp hpath
  exact exists_last_of_mem ⟨e, he, hsame⟩

/-! ### What is seen -/

/-- The variables and their assignments. -/
theorem exists_assignment_iff {P : List YamlKey → Prop} :
    (∃ e ∈ assignments environ.items, P e.1) ↔ ∃ path ∈ paths environ, P path := by
  simp [assignments]

theorem seen_loaded_of_hidden (hok : (loaded file environ).2 = .ok ()) (hp : p ≠ []) (h : Hidden file environ p) :
    loaded_seen file environ p = none :=
  (after_loaded hok hp).above (exists_assignment_iff.mpr h)

theorem seen_loaded_of_last {c : Yaml} (hok : (loaded file environ).2 = .ok ()) (hp : p ≠ [])
    (hnot : ¬ Hidden file environ p) (h : Last file environ p e) (hc : convert e.2 = .ok c) :
    loaded_seen file environ p = some (.atom c) := by
  obtain ⟨es₁, es₂, heq, hsame, hlater⟩ := h
  have hsplit : assignments environ.items =
      es₁.map (fun e => (steps e.1, value_of e.2)) ++ (steps e.1, c) ::
        es₂.map fun e => (steps e.1, value_of e.2) := by
    rw [assignments, heq, List.map_append, List.map_cons, value_of_convert hc]
  have hnot' : ∀ e ∈ assignments environ.items, ¬ file.merged.Above file.top (keyed e.1) p :=
    fun e he habove => hnot (exists_assignment_iff.mp ⟨e, he, habove⟩)
  refine (after_loaded hok hp).last hnot' _ (steps e.1, c) _ hsplit hsame fun e' he' => ?_
  obtain ⟨e₀, he₀, rfl⟩ := List.mem_map.mp he'
  exact hlater e₀ he₀

section

variable (hok : (loaded file environ).2 = .ok ()) (hp : p ≠ []) (hnot : ¬ Hidden file environ p)
  (hled : ¬ Led file environ p)

include hok hp hnot hled

/-- A variable that goes on from the path creates a dictionary there, or finds one. -/
theorem seen_loaded_of_passed (h : ∃ path ∈ paths environ, file.merged.Above file.top p (keyed path)) :
    loaded_seen file environ p = some .dict := by
  refine (after_loaded hok hp).passed (fun e he => ⟨fun habove => ?_, fun hsame => ?_⟩) (exists_assignment_iff.mpr h)
  · exact hnot (exists_assignment_iff.mp ⟨e, he, habove⟩)
  · exact hled (exists_assignment_iff.mp ⟨e, he, hsame⟩)

theorem seen_loaded_of_other (h : ¬ ∃ path ∈ paths environ, file.merged.Above file.top p (keyed path)) :
    loaded_seen file environ p = file.seen p := by
  refine (after_loaded hok hp).other fun e he => ⟨fun habove => ?_, fun hsame => ?_, fun hpassed => ?_⟩
  · exact hnot (exists_assignment_iff.mp ⟨e, he, habove⟩)
  · exact hled (exists_assignment_iff.mp ⟨e, he, hsame⟩)
  · exact h (exists_assignment_iff.mp ⟨e, he, hpassed⟩)

/-- What is there stays. -/
theorem seen_loaded_of_some {i : Link (Laid Nat Nat) Yaml} (h : file.merged.look (.node file.top) p = some i) :
    loaded_seen file environ p = file.seen p := by
  by_cases hpassed : ∃ path ∈ paths environ, file.merged.Above file.top p (keyed path)
  · rw [seen_loaded_of_passed hok hp hnot hled hpassed]
    obtain ⟨path, hpath, habove⟩ := hpassed
    have hdict := habove.seen_eq_dict ((load_ok_iff.mp hok).2.slots path hpath) h
    rw [Mapping.seen, Graph.seen, h, Option.map_some, hdict]
  · exact seen_loaded_of_other hok hp hnot hled hpassed

/-- A value that no variable writes was there. -/
theorem seen_of_loaded_atom {c : Yaml} (h : loaded_seen file environ p = some (.atom c)) :
    file.seen p = some (.atom c) := by
  by_cases hpassed : ∃ path ∈ paths environ, file.merged.Above file.top p (keyed path)
  · cases (seen_loaded_of_passed hok hp hnot hled hpassed).symm.trans h
  · exact (seen_loaded_of_other hok hp hnot hled hpassed).symm.trans h

/-- Where nothing can be added, nothing is. -/
theorem seen_loaded_of_none (h : file.merged.slot file.top p = none) : loaded_seen file environ p = file.seen p := by
  refine seen_loaded_of_other hok hp hnot hled ?_
  rintro ⟨path, -, q, -, -, hsome, -⟩
  rw [h] at hsome
  cases hsome

end

/-! ### Inside of a value -/

theorem Inside.ne_nil (h : Inside r) : r ≠ [] := by
  obtain ⟨a, q, rfl, -⟩ := h
  exact List.cons_ne_nil a q

theorem Inside.append (h : Inside r) (q : List (Access YamlKey)) : Inside (r ++ q) := by
  obtain ⟨a, r, rfl, ha⟩ := h
  exact ⟨a, r ++ q, rfl, ha⟩

theorem Inside.shorter (h : Inside r) (hq : q <+: r) (hne : q ≠ []) : Inside q := by
  obtain ⟨a, r, rfl, ha⟩ := h
  obtain ⟨b, q, rfl⟩ := List.exists_cons_of_ne_nil hne
  obtain ⟨rfl, -⟩ := List.cons_prefix_cons.mp hq
  exact ⟨b, q, rfl, ha⟩

/-- On the way below of a path that no variable has to do with, the places that are led to are below of the path. -/
theorem Led.below (hnot : ¬ Hidden file environ p) (hled : ¬ Led file environ p) {q' : List (Access YamlKey)}
    (h : Led file environ q') (hq' : q' <+: p ++ q) : ∃ r, q' = p ++ r ∧ r <+: q ∧ r ≠ [] := by
  obtain hp | ⟨r, rfl⟩ := List.prefix_or_prefix_of_prefix hq' (List.prefix_append p q)
  · by_cases hself : q' = p
    · exact absurd (hself ▸ h) hled
    · exact absurd (Graph.Led.hidden h hp hself) hnot
  · refine ⟨r, rfl, (List.prefix_append_right_inj p).mp hq', ?_⟩
    rintro rfl
    rw [List.append_nil] at h
    exact hled h

/-- And there is a first one. -/
theorem Led.first_below (hnot : ¬ Hidden file environ p) (hled : ¬ Led file environ p)
    (h : Led file environ (p ++ q)) :
    ∃ r, r <+: q ∧ r ≠ [] ∧ Led file environ (p ++ r) ∧ ¬ Hidden file environ (p ++ r) := by
  obtain ⟨q', hq', hled', hfirst⟩ := Graph.Led.first h
  obtain ⟨r, rfl, hr, hne⟩ := Led.below hnot hled hled' hq'
  exact ⟨r, hr, hne, hled', hfirst⟩

theorem Hidden.first_below (hnot : ¬ Hidden file environ p) (hled : ¬ Led file environ p)
    (h : Hidden file environ (p ++ q)) :
    ∃ r, r <+: q ∧ r ≠ q ∧ r ≠ [] ∧ Led file environ (p ++ r) ∧ ¬ Hidden file environ (p ++ r) := by
  obtain ⟨q', hq', hne, hled'⟩ := Graph.Hidden.exists_led h
  obtain ⟨s, rfl, hs, -⟩ := Led.below hnot hled hled' hq'
  obtain ⟨r, hr, hnonempty, hfirst⟩ := Led.first_below hnot hled hled'
  refine ⟨r, hr.trans hs, ?_, hnonempty, hfirst⟩
  rintro rfl
  exact hne (congrArg (p ++ ·) (hs.eq_of_length_le hr.length_le))

/-- What is inside of a value stays exactly if no variable changes it. -/
theorem inside_iff (hok : (loaded file environ).2 = .ok ()) (hp : p ≠ []) (hnot : ¬ Hidden file environ p)
    (hled : ¬ Led file environ p) :
    (∀ r, Inside r → loaded_seen file environ (p ++ r) = file.seen (p ++ r)) ↔
      ∀ r, Inside r → ¬ Hidden file environ (p ++ r) → ∀ e, Last file environ (p ++ r) e →
        ∃ c, convert e.2 = .ok c ∧ file.seen (p ++ r) = some (.atom c) := by
  have hnil (r : List (Access YamlKey)) : p ++ r ≠ [] := List.append_ne_nil_of_left_ne_nil hp r
  constructor
  · intro h r hr hhidden e he
    obtain ⟨c, hc⟩ := (load_ok_iff.mp hok).1 e he.mem
    exact ⟨c, hc, by rw [← h r hr, seen_loaded_of_last hok (hnil r) hhidden he hc]⟩
  · intro h r hr
    have hfirst {q : List (Access YamlKey)} (hq : Inside q) (hqled : Led file environ (p ++ q))
        (hqnot : ¬ Hidden file environ (p ++ q)) : ∃ c, file.seen (p ++ q) = some (.atom c) := by
      obtain ⟨e, he⟩ := Led.exists_last hqled
      obtain ⟨c, -, hseen⟩ := h q hq hqnot e he
      exact ⟨c, hseen⟩
    by_cases hhidden : Hidden file environ (p ++ r)
    · -- Below of the first place that is led to there was nothing, and there is nothing.
      obtain ⟨q, ⟨s, rfl⟩, hne, hqnil, hqled, hqnot⟩ := Hidden.first_below hnot hled hhidden
      have hs : s ≠ [] := by
        rintro rfl
        exact hne (List.append_nil q).symm
      obtain ⟨c, hseen⟩ := hfirst (hr.shorter (List.prefix_append q s) hqnil) hqled hqnot
      rw [seen_loaded_of_hidden hok (hnil _) hhidden, Mapping.seen, Graph.seen, ← List.append_assoc,
        look_of_seen_atom hseen hs, Option.map_none]
    by_cases hrled : Led file environ (p ++ r)
    · obtain ⟨e, he⟩ := Led.exists_last hrled
      obtain ⟨c, hc, hseen⟩ := h r hr hhidden e he
      rw [seen_loaded_of_last hok (hnil r) hhidden he hc, hseen]
    cases hlook : file.merged.look (.node file.top) (p ++ r) with
    | some i => exact seen_loaded_of_some hok (hnil r) hhidden hrled hlook
    | none =>
      refine seen_loaded_of_other hok (hnil r) hhidden hrled ?_
      -- A variable that goes on from a missing item leads to an item that is missing as well.
      rintro ⟨path, hpath, q, ⟨s, heq⟩, hne, hsame⟩
      have hslot := (load_ok_iff.mp hok).2.slots path hpath
      rw [← heq] at hslot
      have hsled : Led file environ (p ++ (r ++ s)) := by
        refine ⟨path, hpath, ?_⟩
        rw [← heq, ← List.append_assoc]
        exact hsame.symm.append hslot
      obtain ⟨q', hq', hqnil, hqled, hqnot⟩ := Led.first_below hnot hled hsled
      obtain hr' | ⟨s', rfl⟩ := List.prefix_or_prefix_of_prefix hq' (List.prefix_append r s)
      · by_cases hself : q' = r
        · exact hrled (hself ▸ hqled)
        · refine hhidden (Graph.Led.hidden hqled ((List.prefix_append_right_inj p).mpr hr') fun heq => hself ?_)
          exact List.append_cancel_left heq
      · obtain ⟨c, hseen⟩ := hfirst (hr.append s') hqled hqnot
        rw [Mapping.seen, Graph.seen, ← List.append_assoc, look_concat_of_none _ _ s' hlook] at hseen
        cases hseen

end

/-! ## The values -/

theorem get_eq (h : Objects) (l : Ref) (p : List String) :
    get h l p = (h.graph.look l (accesses p)).getD (.atom .null) := by
  induction p generalizing l with
  | nil => rw [get, show accesses ([] : List String) = [] from rfl, look_nil, Option.getD_some]
  | cons k p ih =>
    cases l with
    | atom v => rfl
    | node n =>
      rw [get, show accesses (k :: p) = .key (.str k) :: accesses p from rfl, look_cons]
      cases hchild : h.graph.child n (.key (.str k)) with
      | none =>
        have hnull : get h (.atom .null) p = .atom .null := by
          rw [ih]
          cases p <;> rfl
        rw [Option.getD_none, hnull, ite_self]
        rfl
      | some l =>
        rw [if_pos, Option.getD_some, ih]
        · rfl
        · exact (h.graph.isKey_of_child n _ (by rw [hchild]; rfl)).symm

section

variable {file : Mapping} {environ : Dict String String} {p : List String} {r : List (Access YamlKey)}
  {d : Document} {c : Yaml}

theorem seen_given_nil :
    (given file environ p).objects.graph.seen (given file environ p).item [] =
      some ((loaded_seen file environ (accesses p)).getD (.atom .null)) := by
  rw [given, get_eq, loaded_seen, Graph.seen, Graph.seen]
  dsimp only
  rw [look_nil]
  cases (loaded file environ).1.graph.look (.node data) (accesses p) <;> rfl

theorem seen_given (hr : r ≠ []) :
    (given file environ p).objects.graph.seen (given file environ p).item r =
      loaded_seen file environ (accesses p ++ r) := by
  obtain ⟨a, q, rfl⟩ := List.exists_cons_of_ne_nil hr
  rw [given, get_eq, loaded_seen, Graph.seen, Graph.seen, look_append]
  dsimp only
  cases (loaded file environ).1.graph.look (.node data) (accesses p) <;> rfl

theorem seen_eq_atom_iff {g : Graph Nat YamlKey Yaml} {l : Ref} : g.see l = .atom c ↔ l = .atom c := by
  cases l with
  | atom v => simp [Graph.see]
  | node n =>
    rw [Graph.see]
    split <;> simp

/-- A value that is no dictionary and no list, or nothing. -/
theorem equal_given_iff (hc : (loaded_seen file environ (accesses p)).getD (.atom .null) = .atom c) :
    d.Equal (given file environ p) ↔ d.item = .atom c := by
  have hnone (r : List (Access YamlKey)) (hr : r ≠ []) : loaded_seen file environ (accesses p ++ r) = none := by
    cases hseen : loaded_seen file environ (accesses p) with
    | none =>
      rw [loaded_seen, Graph.seen, Option.map_eq_none_iff] at hseen
      rw [loaded_seen, Graph.seen, look_concat_of_none _ _ r hseen, Option.map_none]
    | some i =>
      rw [hseen, Option.getD_some] at hc
      rw [loaded_seen, Graph.seen, look_of_seen_atom (hseen.trans (congrArg some hc)) hr, Option.map_none]
  constructor
  · intro h
    have hnil := h [] (.inl rfl)
    rw [seen_given_nil, hc, Graph.seen, look_nil, Option.map_some, Option.some.injEq] at hnil
    exact seen_eq_atom_iff.mp hnil
  · intro h r hr
    by_cases hnil : r = []
    · subst hnil
      rw [seen_given_nil, hc, h]
      rfl
    · rw [seen_given hnil, hnone r hnil, h]
      obtain ⟨a, q, rfl⟩ := List.exists_cons_of_ne_nil hnil
      rfl

theorem lower_of_defaults :
    ∀ n < DEFAULTS.length, DEFAULTS.graph.dict n = true ∧ ∀ e ∈ DEFAULTS.items n, Lower (.key e.1) := by
  decide +kernel

/-- The defaults have settings only. -/
theorem child_defaults_of_not_lower {a : Access YamlKey} (ha : ¬ Lower a) (n : Nat) :
    DEFAULTS.graph.child n a = none := by
  by_cases hn : n < DEFAULTS.length
  · obtain ⟨hdict, hlower⟩ := lower_of_defaults n hn
    cases hchild : DEFAULTS.graph.child n a with
    | none => rfl
    | some l =>
      obtain ⟨k, rfl, hmem⟩ := Heap.mem_items hdict hchild
      exact absurd (hlower _ hmem) ha
  · show (DEFAULTS[n]?).bind _ = none
    rw [List.getElem?_eq_none (Nat.not_lt.mp hn)]
    rfl

/-- What the file has is found there. -/
theorem seen_file {l : Ref} (hfile : file.objects.graph.look (.node file.root) (accesses p) = some l)
    (hr : r = [] ∨ Inside r) : file.objects.graph.seen l r = file.seen (accesses p ++ r) := by
  obtain ⟨v, b, rfl, hlook⟩ | hlook := look_overlay_of_upper (g := DEFAULTS.graph) (b := root) hfile
  · obtain ⟨-, -, -, hdict⟩ := lies_of_look rfl file.dict hlook
    rw [Mapping.seen, Mapping.merged, Mapping.top, seen_append hlook]
    obtain rfl | ⟨a, q, rfl, ha⟩ := hr
    · rw [Graph.seen, look_nil, Option.map_some, see, if_pos hdict]
      rfl
    · rw [Graph.seen, Graph.seen, look_cons, look_cons]
      cases a with
      | index i =>
        rw [Heap.child_index hdict]
        rfl
      | key k =>
        rw [overlay_both, child_defaults_of_not_lower ha, Option.map_none, Option.or_none]
        cases file.objects.graph.child v (.key k) with
        | none => rfl
        | some l =>
          rw [Option.map_some, Option.bind_some, Option.bind_some, onto_none]
          exact (seen_map_upper l q).symm
  · rw [Mapping.seen, Mapping.merged, Mapping.top, seen_append hlook]
    exact (seen_map_upper l r).symm

/-- And what only the defaults have, or there is no place for it. -/
theorem seen_default {l : Ref} (hfile : file.objects.graph.look (.node file.root) (accesses p) = none)
    (hdefault : DEFAULTS.graph.look (.node root) (accesses p) = some l) :
    (∀ r, DEFAULTS.graph.seen l r = file.seen (accesses p ++ r)) ∧
        file.merged.look (.node file.top) (accesses p) = some (l.map .lower) ∨
      file.seen (accesses p) = none ∧ file.merged.slot file.top (accesses p) = none := by
  obtain hlook | ⟨hlook, hslot⟩ := look_overlay_of_lower hdefault hfile
  · refine .inl ⟨fun r => ?_, hlook⟩
    rw [Mapping.seen, Mapping.merged, Mapping.top, seen_append hlook]
    exact (seen_map_lower l r).symm
  · refine .inr ⟨?_, hslot⟩
    rw [Mapping.seen, Graph.seen, Mapping.merged, Mapping.top, hlook, Option.map_none]

/-! ## What is wanted -/

theorem wanted_of_set {val : String} (h : environ.get? (variable_name p) = some val) :
    wanted file environ p = (convert val).map fun c => ⟨[], .atom c⟩ := by
  rw [wanted, h]

theorem wanted_of_file {l : Ref} (h : environ.get? (variable_name p) = none)
    (hfile : file.objects.graph.look (.node file.root) (accesses p) = some l) :
    wanted file environ p = .ok ⟨file.objects, l⟩ := by
  rw [wanted, h]
  dsimp only
  rw [hfile]

theorem wanted_of_default (h : environ.get? (variable_name p) = none)
    (hfile : file.objects.graph.look (.node file.root) (accesses p) = none) :
    wanted file environ p = .ok ⟨DEFAULTS, get DEFAULTS (.node root) p⟩ := by
  rw [wanted, h]
  dsimp only
  rw [hfile]

theorem get?_of_mem_overrides {e : String × String} (h : e ∈ overrides environ.items) :
    environ.get? e.1 = some e.2 :=
  Dict.mem_items_iff.mp (List.mem_of_mem_filter h)

theorem mem_overrides_of_get? {val : String} (h : environ.get? (variable_name p) = some val) :
    (variable_name p, val) ∈ overrides environ.items := by
  refine List.mem_filter.mpr ⟨Dict.mem_items_iff.mpr h, ?_⟩
  rw [variable_name, String.toList_ofList, List.isPrefixOf_iff_prefix]
  exact List.prefix_append _ _

/-- A value that is there stays exactly if no variable changes what is inside of it. -/
theorem equal_iff_inside {i : Link (Laid Nat Nat) Yaml} (hok : (loaded file environ).2 = .ok ()) (hp : accesses p ≠ [])
    (hnot : ¬ Hidden file environ (accesses p)) (hled : ¬ Led file environ (accesses p))
    (hlook : file.merged.look (.node file.top) (accesses p) = some i)
    (hd : ∀ r, r = [] ∨ Inside r → d.objects.graph.seen d.item r = file.seen (accesses p ++ r)) :
    d.Equal (given file environ p) ↔
      ∀ r, Inside r → ¬ Hidden file environ (accesses p ++ r) → ∀ e, Last file environ (accesses p ++ r) e →
        ∃ c, convert e.2 = .ok c ∧ file.seen (accesses p ++ r) = some (.atom c) := by
  rw [← inside_iff hok hp hnot hled]
  constructor
  · intro h r hr
    rw [← hd r (.inr hr), h r (.inr hr), seen_given hr.ne_nil]
  · rintro h r (rfl | hr)
    · rw [hd [] (.inl rfl), List.append_nil, seen_given_nil, seen_loaded_of_some hok hp hnot hled hlook, Mapping.seen,
        Graph.seen, hlook]
      rfl
    · rw [hd r (.inr hr), seen_given hr.ne_nil, h r hr]

end

section

variable {file : Mapping} {environ : Dict String String} {p : List String}

/-- A setting below of what a variable replaces. -/
theorem followed_iff_of_hidden (hok : (loaded file environ).2 = .ok ()) (hp : accesses p ≠ [])
    (h : Hidden file environ (accesses p)) :
    (∃ d, wanted file environ p = .ok d ∧ d.Equal (given file environ p)) ↔ Followed file environ p := by
  have hequal (d : Document) : d.Equal (given file environ p) ↔ d.item = .atom .null :=
    equal_given_iff (by rw [seen_loaded_of_hidden hok hp h]; rfl)
  simp only [hequal]
  exact ⟨fun hnull => ⟨fun _ => hnull, fun hnot => absurd h hnot, fun hnot => absurd h hnot, fun hnot => absurd h hnot,
    fun hnot => absurd h hnot⟩, fun hfollowed => hfollowed.above h⟩

/-- A setting that variables lead to. -/
theorem followed_iff_of_led (hok : (loaded file environ).2 = .ok ()) (hp : accesses p ≠ [])
    (hnot : ¬ Hidden file environ (accesses p)) (h : Led file environ (accesses p)) :
    (∃ d, wanted file environ p = .ok d ∧ d.Equal (given file environ p)) ↔ Followed file environ p := by
  have hequal {e : String × String} (he : Last file environ (accesses p) e) {c : Yaml} (hc : convert e.2 = .ok c)
      (d : Document) : d.Equal (given file environ p) ↔ d.item = .atom c :=
    equal_given_iff (by rw [seen_loaded_of_last hok hp hnot he hc]; rfl)
  constructor
  · rintro ⟨d, hd, heq⟩
    refine ⟨fun hhidden => absurd hhidden hnot, fun _ e he => .inr ?_, fun _ hled => absurd h hled,
      fun _ hled => absurd h hled, fun _ hled => absurd h hled⟩
    obtain ⟨c, hc⟩ := (load_ok_iff.mp hok).1 e he.mem
    exact ⟨d, c, hd, hc, (hequal he hc d).mp heq⟩
  · intro hfollowed
    obtain ⟨e, he⟩ := Led.exists_last h
    obtain hname | ⟨d, c, hd, hc, heq⟩ := hfollowed.last hnot e he
    · obtain ⟨c, hc⟩ := (load_ok_iff.mp hok).1 e he.mem
      refine ⟨⟨[], .atom c⟩, ?_, (hequal he hc _).mpr rfl⟩
      rw [wanted_of_set (hname ▸ get?_of_mem_overrides he.mem), hc]
      rfl
    · exact ⟨d, hd, (hequal he hc d).mpr heq⟩

theorem ne_null_of_convert {val : String} {c : Yaml} (h : convert val = .ok c) : c ≠ .null := by
  unfold convert at h
  split at h
  · cases h
    nofun
  · split at h
    · cases hint : int val.toList with
      | error e =>
        rw [hint] at h
        cases h
      | ok n =>
        rw [hint] at h
        cases h
        nofun
    · cases h
      nofun

section

variable (hok : (loaded file environ).2 = .ok ()) (hp : accesses p ≠ [])
  (hnot : ¬ Hidden file environ (accesses p)) (hled : ¬ Led file environ (accesses p))

include hok hp hnot hled

/-- A setting that none leads to, but that has a variable of its own. -/
theorem followed_iff_of_own {val : String} (hown : environ.get? (variable_name p) = some val) :
    (∃ d, wanted file environ p = .ok d ∧ d.Equal (given file environ p)) ↔ Followed file environ p := by
  obtain ⟨c, hc⟩ : ∃ c, convert val = .ok c := (load_ok_iff.mp hok).1 _ (mem_overrides_of_get? hown)
  have hwanted : wanted file environ p = .ok ⟨[], .atom c⟩ := by
    rw [wanted_of_set hown, hc]
    rfl
  constructor
  · rintro ⟨d, hd, heq⟩
    obtain rfl : ⟨[], .atom c⟩ = d := Except.ok.inj (hwanted.symm.trans hd)
    refine ⟨fun hhidden => absurd hhidden hnot, fun _ e he => absurd he.led hled, fun _ _ val' hval' => ?_,
      fun _ _ hunset => ?_, fun _ _ hunset => ?_⟩
    · obtain rfl : val = val' := Option.some.inj (hown.symm.trans hval')
      have hnil := heq [] (.inl rfl)
      rw [seen_given_nil, Graph.seen, look_nil, Option.map_some, Option.some.injEq, see] at hnil
      refine ⟨c, hc, seen_of_loaded_atom hok hp hnot hled ?_⟩
      cases hseen : loaded_seen file environ (accesses p) with
      | none =>
        rw [hseen, Option.getD_none, Seen.atom.injEq] at hnil
        exact absurd hnil (ne_null_of_convert hc)
      | some i => rw [hnil, hseen, Option.getD_some]
    · cases hown.symm.trans hunset
    · cases hown.symm.trans hunset
  · intro hfollowed
    obtain ⟨c', hc', hseen⟩ := hfollowed.own hnot hled val hown
    obtain rfl : c = c' := Except.ok.inj (hc.symm.trans hc')
    refine ⟨⟨[], .atom c⟩, hwanted, (equal_given_iff ?_).mpr rfl⟩
    obtain ⟨i, hlook, -⟩ := Option.map_eq_some_iff.mp hseen
    rw [seen_loaded_of_some hok hp hnot hled hlook, hseen]
    rfl

/-- A setting without any variable. -/
theorem followed_iff_of_unset (hsetting : Setting file p) (hunset : environ.get? (variable_name p) = none) :
    (∃ d, wanted file environ p = .ok d ∧ d.Equal (given file environ p)) ↔ Followed file environ p := by
  have hwanted {d : Document} (hd : wanted file environ p = .ok d) :
      (∃ d, wanted file environ p = .ok d ∧ d.Equal (given file environ p)) ↔ d.Equal (given file environ p) := by
    refine ⟨?_, fun h => ⟨d, hd, h⟩⟩
    rintro ⟨d', hd', h⟩
    exact Except.ok.inj (hd.symm.trans hd') ▸ h
  have hfollowed : Followed file environ p ↔
      (file.objects.graph.look (.node file.root) (accesses p) = none → file.seen (accesses p) = none →
        get DEFAULTS (.node root) p = .atom .null) ∧
      ∀ r, Inside r → ¬ Hidden file environ (accesses p ++ r) → ∀ e, Last file environ (accesses p ++ r) e →
        ∃ c, convert e.2 = .ok c ∧ file.seen (accesses p ++ r) = some (.atom c) := by
    refine ⟨fun h => ⟨h.cut hnot hled hunset, h.inside hnot hled hunset⟩, fun h => ?_⟩
    refine ⟨fun hhidden => absurd hhidden hnot, fun _ e he => absurd he.led hled, fun _ _ val hval => ?_,
      fun _ _ _ => h.1, fun _ _ _ => h.2⟩
    cases hunset.symm.trans hval
  rw [hfollowed]
  cases hfile : file.objects.graph.look (.node file.root) (accesses p) with
  | some l =>
    rw [hwanted (wanted_of_file hunset hfile)]
    have hseen := seen_file hfile (.inl rfl)
    obtain ⟨i, hlook⟩ : ∃ i, file.merged.look (.node file.top) (accesses p) = some i := by
      rw [List.append_nil, Graph.seen, look_nil] at hseen
      obtain ⟨i, hlook, -⟩ := Option.map_eq_some_iff.mp hseen.symm
      exact ⟨i, hlook⟩
    rw [equal_iff_inside hok hp hnot hled hlook fun r hr => seen_file hfile hr]
    exact (and_iff_right fun hnone => by cases hnone).symm
  | none =>
    obtain ⟨l, hdefault⟩ : ∃ l, DEFAULTS.graph.look (.node root) (accesses p) = some l := by
      obtain hsome | hsome := hsetting.2.2
      · rw [hfile] at hsome
        cases hsome
      · exact Option.isSome_iff_exists.mp hsome
    have hget : get DEFAULTS (.node root) p = l := by
      rw [get_eq, hdefault, Option.getD_some]
    rw [hwanted (wanted_of_default hunset hfile), hget]
    obtain ⟨hd, hlook⟩ | ⟨hseen, hslot⟩ := seen_default hfile hdefault
    · rw [equal_iff_inside hok hp hnot hled hlook fun r _ => hd r]
      refine (and_iff_right fun _ hnone => ?_).symm
      rw [Mapping.seen, Graph.seen, hlook] at hnone
      cases hnone
    · have hnull : (loaded_seen file environ (accesses p)).getD (.atom .null) = .atom .null := by
        rw [seen_loaded_of_none hok hp hnot hled hslot, hseen]
        rfl
      rw [equal_given_iff hnull, and_iff_left]
      · exact ⟨fun h _ _ => h, fun h => h rfl hseen⟩
      · -- No variable leads to anything below of it.
        rintro r - - e he
        obtain ⟨-, -, -, hsame, -⟩ := he
        have hsome := hsame.symm.1
        rw [slot_append_of_none hp hslot] at hsome
        cases hsome

end

/-- **A setting has the value that takes precedence exactly if it follows its variable.** -/
theorem followed_iff (hok : (loaded file environ).2 = .ok ()) (hsetting : Setting file p) :
    (∃ d, wanted file environ p = .ok d ∧ d.Equal (given file environ p)) ↔ Followed file environ p := by
  have hp : accesses p ≠ [] := by simpa [keys] using hsetting.1
  by_cases hhidden : Hidden file environ (accesses p)
  · exact followed_iff_of_hidden hok hp hhidden
  by_cases hled : Led file environ (accesses p)
  · exact followed_iff_of_led hok hp hhidden hled
  cases hown : environ.get? (variable_name p) with
  | some val => exact followed_iff_of_own hok hp hhidden hled hown
  | none => exact followed_iff_of_unset hok hp hhidden hled hsetting hown

/-- Every variable converts, the variables can be assigned one after the other, and every setting follows its own
variable. -/
structure Straight (file : Mapping) (environ : Dict String String) : Prop where
  converts : ∀ e ∈ overrides environ.items, ∃ c, convert e.2 = .ok c
  allowed : file.merged.Allowed file.top (paths environ)
  followed : ∀ p, Setting file p → Followed file environ p

theorem precedence_iff (file : Mapping) (environ : Dict String String) :
    Precedence file environ ↔ Straight file environ := by
  constructor
  · rintro ⟨hok, hsettings⟩
    obtain ⟨hconverts, hallowed⟩ := load_ok_iff.mp hok
    exact ⟨hconverts, hallowed, fun p hp => (followed_iff hok hp).mp (hsettings p hp)⟩
  · intro h
    have hok := load_ok_iff.mpr ⟨h.converts, h.allowed⟩
    exact ⟨hok, fun p hp => (followed_iff hok hp).mpr (h.followed p hp)⟩

end

/-- The file with the mapping that has nothing in it. -/
def Mapping.empty : Mapping where
  objects := [.dict []]
  root := 0
  dict := rfl
  closed := Heap.closed_of_links (by decide)
  distinct := Heap.distinct_of_lt (by decide)
  atoms := by decide

/-- `a: &x {k: 1}` and `b: *x` -/
def Mapping.shared : Mapping where
  objects := [.dict [(.str "k", .atom (.int 1))], .dict [(.str "a", .node 0), (.str "b", .node 0)]]
  root := 1
  dict := rfl
  closed := Heap.closed_of_links (by decide)
  distinct := Heap.distinct_of_lt (by decide)
  atoms := by decide

example : (given .shared (Dict.empty.set "AQAP_A_K" "2") ["b", "k"]).item = .atom (.int 2) := by
  rfl

/-- The text of a string. -/
def Document.text (d : Document) : Option String :=
  match d.objects.graph.seen d.item [] with
  | some (.atom (.str s)) => some s
  | _ => none

theorem Document.Equal.text_eq {d d' : Document} (h : d.Equal d') : d.text = d'.text := by
  rw [text, text, h [] (.inl rfl)]

/-- The variable of `transport.redis_url` leads to `transport.redis.url`. -/
theorem redis_url_kept :
    ¬ Precedence .empty (Dict.empty.set "AQAP_TRANSPORT_REDIS_URL" "redis://cache:6379") := by
  rintro ⟨-, hsettings⟩
  obtain ⟨d, hd, hequal⟩ := hsettings ["transport", "redis_url"] ⟨nofun, by decide +kernel, .inr (by decide +kernel)⟩
  have hwanted : (wanted .empty (Dict.empty.set "AQAP_TRANSPORT_REDIS_URL" "redis://cache:6379")
      ["transport", "redis_url"]).toOption.bind Document.text = some "redis://cache:6379" := by
    decide +kernel
  have hgiven : (given .empty (Dict.empty.set "AQAP_TRANSPORT_REDIS_URL" "redis://cache:6379")
      ["transport", "redis_url"]).text = some "redis://127.0.0.1:6379" := by
    decide +kernel
  rw [hd] at hwanted
  have hsame := hequal.text_eq.symm.trans hwanted
  rw [hgiven] at hsame
  revert hsame
  decide

end Aqap.AQAPConfig
