import Aqap.Core.Config

/-!
# Several configurations in one process

The defaults belong to the class and to the module: what a load changes of them, the next load starts with, and
the configurations that were loaded before change with them.

* `merge_of_agrees`, `assign_parts_of_unchanged`: which overlays and variables change nothing.
* `independent_of_harmless`: loads that leave the defaults alone do not depend on each other.
* `debug_of_another`: a configuration with the debug flag of another file.
-/

namespace Aqap.Config

open Py

/-! ## Independence -/

section

variable {ι : Type} (load : YamlItems → ι → Copy × Except String Unit)

/-- The loads one after the other: the defaults after them, and what each of them gave. -/
def load_all (defaults : YamlItems) : List ι → YamlItems × List (Copy × Except String Unit)
  | [] => (defaults, [])
  | input :: inputs =>
    let loaded := load defaults input
    let rest := load_all loaded.1.original inputs
    (rest.1, loaded :: rest.2)

/-- What is seen of a load while the defaults are `defaults`. -/
def seen (defaults : YamlItems) (loaded : Copy × Except String Unit) : YamlItems × Except String Unit :=
  ({ loaded.1 with original := defaults }.value, loaded.2)

/-- After all loads the defaults are as they were, and every load has given what it gives alone. -/
def Independent (defaults : YamlItems) (inputs : List ι) : Prop :=
  (load_all load defaults inputs).1 = defaults ∧
    (load_all load defaults inputs).2.map (seen (load_all load defaults inputs).1) =
      inputs.map fun input => seen defaults (load defaults input)

variable {load}

theorem independent_of_original {defaults : YamlItems} {inputs : List ι}
    (h : ∀ input ∈ inputs, (load defaults input).1.original = defaults) :
    Independent load defaults inputs := by
  have hall : load_all load defaults inputs = (defaults, inputs.map (load defaults)) := by
    induction inputs with
    | nil => rfl
    | cons input inputs ih =>
      rw [load_all, h input List.mem_cons_self, ih fun i hi => h i (List.mem_cons_of_mem _ hi)]
      rfl
  unfold Independent
  rw [hall, List.map_map]
  exact ⟨rfl, rfl⟩

end

/-! ## What changes nothing -/

mutual

/-- The value adds nothing to what the key is bound to. -/
def AgreesValue (old : Option Yaml) : Yaml → Prop
  | .map overlay =>
    match old with
    | some (.map base) => Agrees base overlay
    | _ => False
  | value => old = some value

/-- The item adds nothing to the dictionary. -/
def AgreesItem (base : YamlItems) : YamlKey × Yaml → Prop
  | (key, value) => AgreesValue (base.lookup key) value

/-- The overlay says what the dictionary says already. -/
def Agrees (base : YamlItems) : YamlItems → Prop
  | [] => True
  | e :: overlay => AgreesItem base e ∧ Agrees base overlay

end

mutual

theorem merge_value_of_agrees (old : Option Yaml) :
    ∀ v : Yaml, AgreesValue old v → some (merge_value old v) = old
  | .map overlay, h => by
    cases old with
    | none => cases h
    | some w =>
      cases w with
      | map base => rw [merge_value, merge_of_agrees base overlay h]
      | _ => cases h
  | .null, h => h.symm
  | .bool _, h => h.symm
  | .int _, h => h.symm
  | .float _, h => h.symm
  | .str _, h => h.symm
  | .bytes _, h => h.symm
  | .set _, h => h.symm
  | .other _ _, h => h.symm
  | .seq _, h => h.symm

theorem merge_item_of_agrees (base : YamlItems) :
    ∀ e : YamlKey × Yaml, AgreesItem base e → merge_item base e = base
  | (key, value), h => by
    rw [merge_item]
    exact Yaml.setItem_of_lookup (merge_value_of_agrees (base.lookup key) value h).symm

theorem merge_of_agrees (base : YamlItems) : ∀ overlay : YamlItems, Agrees base overlay → _merge base overlay = base
  | [], _ => rfl
  | e :: overlay, h => by
    rw [_merge, merge_item_of_agrees base e h.1]
    exact merge_of_agrees base overlay h.2

end

/-- The path stays in dictionaries that are there, up to a value that is no dictionary or to a key that has the
value of the variable, or the variable has none. -/
def Unchanged (val : String) : Yaml → List String → Prop
  | _, [] => True
  | target, [key_part] =>
    ¬ target.IsMap ∨ (∃ e, convert val = .error e) ∨
      ∃ c, convert val = .ok c ∧ target.at_path [.str key_part] = some c
  | target, part :: parts =>
    ¬ target.IsMap ∨ ∃ child, target.at_path [.str part] = some child ∧ Unchanged val child parts

theorem at_path_singleton {items : YamlItems} {k : YamlKey} {v : Yaml}
    (h : (Yaml.map items).at_path [k] = some v) : items.lookup k = some v := by
  rw [Yaml.at_path_cons] at h
  obtain ⟨w, hw, hwv⟩ := Option.bind_eq_some_iff.mp h
  rw [hw]
  exact hwv

theorem assign_parts_of_unchanged {val : String} {target : Yaml} {parts : List String}
    (h : Unchanged val target parts) : (assign_parts val target parts).1 = target := by
  induction parts generalizing target with
  | nil => rfl
  | cons part parts ih =>
    cases parts with
    | nil =>
      rw [Unchanged] at h
      rw [assign_parts]
      cases hconvert : convert val with
      | error e => rfl
      | ok c =>
        rw [hconvert] at h
        cases target with
        | map items =>
          obtain hmap | ⟨e, he⟩ | ⟨c', hc, hsame⟩ := h
          · exact absurd (Yaml.isMap_map items) hmap
          · cases he
          · rw [Except.ok.inj hc]
            exact congrArg Yaml.map (Yaml.setItem_of_lookup (at_path_singleton hsame))
        | _ => rfl
    | cons next parts =>
      rw [Unchanged] at h
      · cases target with
        | map items =>
          obtain hmap | ⟨child, hchild, hrest⟩ := h
          · exact absurd (Yaml.isMap_map items) hmap
          · have hlookup := at_path_singleton hchild
            have hsame := ih hrest
            rw [assign_parts]
            · dsimp only
              rw [hlookup, Option.getD_some, hsame]
              exact congrArg Yaml.map (Yaml.setItem_of_lookup hlookup)
            · nofun
        | _ => rfl
      · nofun

/-! ## Harmless loads -/

namespace Copy

/-- The overlay agrees with the dictionaries among the defaults. -/
def MergeHarmless (defaults overlay : YamlItems) : Prop :=
  ∀ key o base, (key, .map o) ∈ overlay → defaults.lookup key = some (.map base) → Agrees base o

/-- If the first part of the variable is shared with the defaults, it changes nothing below of it. -/
def StepHarmless (data : Copy) (parts : List String) (val : String) : Prop :=
  ∀ part next rest, parts = part :: next :: rest → data.items.lookup (.str part) = some .shared →
    ∃ v, data.original.lookup (.str part) = some v ∧ Unchanged val v (next :: rest)

/-- So does every variable, up to the first one that raises. -/
def EnvHarmless (data : Copy) : List (String × String) → Prop
  | [] => True
  | (key, val) :: environ =>
    if ENV_PREFIX.isPrefixOf key.toList then
      data.StepHarmless (parts key) val ∧
        ((data.env_step (parts key) val).2 = .ok () →
          EnvHarmless (data.env_step (parts key) val).1 environ)
    else EnvHarmless data environ

variable {data : Copy}

theorem original_change {key : YamlKey} {v : Yaml} (hv : v ≠ .null)
    (h : data.items.lookup key = some .shared → data.value.lookup key = some v) :
    (data.change key v).original = data.original := by
  unfold change
  split
  · rename_i hshared
    exact Yaml.setItem_of_lookup (lookup_of_shared hshared (h hshared) hv)
  · rfl

theorem original_merge {overlay : YamlItems} (h : MergeHarmless data.original overlay) :
    (data.merge overlay).original = data.original := by
  unfold merge
  induction overlay generalizing data with
  | nil => rfl
  | cons e overlay ih =>
    have hstep : (data.merge_entry e).original = data.original := by
      unfold merge_entry
      split
      · rename_i base o hbase ho
        refine original_change (v := .map (_merge base o)) nofun fun hshared => ?_
        have hdefault := lookup_of_shared hshared hbase nofun
        have hagrees : Agrees base o := h e.1 o base (ho ▸ List.mem_cons_self) hdefault
        rw [merge_of_agrees base o hagrees, hbase]
      · rfl
    rw [List.foldl_cons, ih, hstep]
    rw [hstep]
    exact fun key o base hmem => h key o base (List.mem_cons_of_mem _ hmem)

theorem lookup_value_of_shared {key : YamlKey} {v : Yaml} (hshared : data.items.lookup key = some .shared)
    (h : data.original.lookup key = some v) : data.value.lookup key = some v := by
  rw [lookup_value, hshared, Option.map_some, resolve, h]
  rfl

theorem original_env_step {parts : List String} {val : String} (h : data.StepHarmless parts val) :
    (data.env_step parts val).1.original = data.original := by
  unfold env_step
  split
  · rfl
  · split
    · rfl
    · rfl
  · rename_i part parts hne
    cases parts with
    | nil => exact absurd rfl hne
    | cons next rest =>
      dsimp only
      unfold change
      split
      · rename_i hshared
        obtain ⟨v, hv, hunchanged⟩ := h part next rest rfl hshared
        rw [lookup_value_of_shared hshared hv, Option.getD_some, assign_parts_of_unchanged hunchanged]
        exact Yaml.setItem_of_lookup hv
      · rfl

theorem original_env_override {environ : List (String × String)} (h : data.EnvHarmless environ) :
    (_env_override data environ).1.original = data.original := by
  induction environ generalizing data with
  | nil => rfl
  | cons e environ ih =>
    obtain ⟨key, val⟩ := e
    rw [EnvHarmless] at h
    rw [env_override_cons]
    by_cases hkey : ENV_PREFIX.isPrefixOf key.toList
    · rw [if_pos hkey] at h
      rw [if_pos hkey]
      have hstep := original_env_step h.1
      have hrest := h.2
      cases hresult : data.env_step (parts key) val with
      | mk next result =>
        rw [hresult] at hstep hrest
        cases result with
        | error _ => exact hstep
        | ok _ => exact (ih (hrest rfl)).trans hstep
    · rw [if_neg hkey] at h
      rw [if_neg hkey]
      exact ih h

/-! ### What a merge leaves shared -/

theorem lookup_change_of_ne {k k' : YamlKey} {v : Yaml} (h : k' ≠ k) :
    (data.change k v).items.lookup k' = data.items.lookup k' := by
  unfold change
  split
  · rfl
  · rw [assign, Dict.lookup_setItem, if_neg h]

theorem lookup_merge_entry_of_ne {k : YamlKey} {e : YamlKey × Yaml} (h : k ≠ e.1) :
    (data.merge_entry e).items.lookup k = data.items.lookup k := by
  unfold merge_entry
  split
  · exact lookup_change_of_ne h
  · rw [assign, Dict.lookup_setItem, if_neg h]

theorem lookup_merge_of_not_mem {k : YamlKey} {overlay : YamlItems} (h : k ∉ overlay.map Prod.fst) :
    (data.merge overlay).items.lookup k = data.items.lookup k := by
  unfold merge
  induction overlay generalizing data with
  | nil => rfl
  | cons e overlay ih =>
    rw [List.map_cons, List.mem_cons, not_or] at h
    rw [List.foldl_cons, ih h.2, lookup_merge_entry_of_ne h.1]

/-- A value that is no mapping takes the place of the section. -/
theorem lookup_merge_of_not_isMap {k : YamlKey} {v : Yaml} {overlay : YamlItems}
    (hnodup : (overlay.map Prod.fst).Nodup) (hmem : (k, v) ∈ overlay) (hv : ¬ v.IsMap) :
    (data.merge overlay).items.lookup k = some (.own v) := by
  induction overlay generalizing data with
  | nil => cases hmem
  | cons e overlay ih =>
    rw [List.map_cons, List.nodup_cons] at hnodup
    show ((data.merge_entry e).merge overlay).items.lookup k = _
    obtain rfl | hrest := List.mem_cons.mp hmem
    · rw [lookup_merge_of_not_mem hnodup.1]
      unfold merge_entry
      split
      · rename_i hmap
        exact absurd ⟨_, hmap⟩ hv
      · rw [assign, Dict.lookup_setItem, if_pos rfl]
    · exact ih hnodup.2 hrest

/-- A section stays shared if the overlay has it as a mapping or not at all. -/
theorem shared_merge {k : YamlKey} {base : YamlItems} {overlay : YamlItems}
    (hshared : data.items.lookup k = some .shared) (hbase : data.value.lookup k = some (.map base))
    (h : ∀ v, (k, v) ∈ overlay → v.IsMap) : (data.merge overlay).items.lookup k = some .shared := by
  induction overlay generalizing data base with
  | nil => exact hshared
  | cons e overlay ih =>
    show ((data.merge_entry e).merge overlay).items.lookup k = _
    by_cases hk : k = e.1
    · obtain ⟨o, ho⟩ := h e.2 (hk ▸ List.mem_cons_self)
      have hstep : data.merge_entry e = data.change k (.map (_merge base o)) := by
        rw [merge_entry, ho, ← hk, hbase]
      rw [hstep]
      refine ih ?_ (?_ : _ = some (Yaml.map (_merge base o))) fun v hv => h v (List.mem_cons_of_mem _ hv)
      · rw [change, hshared]
        exact hshared
      · rw [lookup_value_change, if_pos rfl]
    · refine ih ?_ (?_ : _ = some (Yaml.map base)) fun v hv => h v (List.mem_cons_of_mem _ hv)
      · rw [lookup_merge_entry_of_ne hk, hshared]
      · obtain ⟨key, value⟩ := e
        rw [lookup_value_merge_entry, merge_item, Dict.lookup_setItem, if_neg hk, hbase]

end Copy

/-- Neither the file nor a variable changes a section of the defaults. -/
def Source.Harmless (defaults : YamlItems) (source : Source) : Prop :=
  match source.file with
  | none => (Copy.of defaults).EnvHarmless source.environ
  | some (.error _) => True
  | some (.ok (.map overlay)) =>
    Copy.MergeHarmless defaults overlay ∧ ((Copy.of defaults).merge overlay).EnvHarmless source.environ
  | some (.ok v) => v.truthy = false → (Copy.of defaults).EnvHarmless source.environ

theorem original_load {defaults : YamlItems} {source : Source} (h : source.Harmless defaults) :
    (_load defaults source).1.original = defaults := by
  obtain ⟨file, environ⟩ := source
  rw [Source.Harmless] at h
  unfold _load
  cases file with
  | none => exact Copy.original_env_override h
  | some result =>
    cases result with
    | error e => rfl
    | ok v =>
      dsimp only at h ⊢
      by_cases htruthy : v.truthy
      · rw [if_pos htruthy]
        cases v with
        | map overlay =>
          exact (Copy.original_env_override h.2).trans (Copy.original_merge h.1)
        | _ => rfl
      · rw [if_neg htruthy]
        cases v with
        | map overlay =>
          cases overlay with
          | nil => exact Copy.original_env_override h.2
          | cons e overlay => exact absurd rfl htruthy
        | _ => exact Copy.original_env_override (h (Bool.eq_false_iff.mpr htruthy))

/-- The configuration changes no section, and with the debug flag it has its own `root`, or `loggers` on which
the search for `aqap` raises or gets lost. -/
def Setup.Harmless (setup : Setup) : Prop :=
  Copy.MergeHarmless DEFAULT_LOGGING_CONFIG (setup.config.getD .empty).items ∧
    (setup.debug = true → ∃ v, ¬ v.IsMap ∧
      ((setup.config.getD .empty).get? (.str "root") = some v ∨
        (setup.config.getD .empty).get? (.str "loggers") = some v ∧ contains v "aqap" ≠ .ok false))

/-- Setting a level fails on what is no mapping. -/
theorem set_level_of_not_isMap {v : Yaml} (h : ¬ v.IsMap) (keys : List String) : ∃ e, set_level v keys = .error e := by
  cases keys <;> cases v <;> first
    | exact ⟨_, rfl⟩
    | exact absurd (Yaml.isMap_map _) h

theorem debug_level_of_own {cfg : Copy} {key : String} {v : Yaml} (hv : ¬ v.IsMap)
    (h : cfg.items.lookup (.str key) = some (.own v)) (keys : List String) :
    ∃ e, cfg.debug_level key keys = (cfg, .error e) := by
  obtain ⟨e, he⟩ := set_level_of_not_isMap hv keys
  refine ⟨e, ?_⟩
  unfold Copy.debug_level
  rw [Copy.lookup_value, h, Option.map_some, Copy.resolve]
  dsimp only
  rw [he]

/-- The level of `aqap` is the one that the debug flag sets. -/
theorem original_set_debug {cfg : Copy} (hdefaults : cfg.original = DEFAULT_LOGGING_CONFIG)
    (hloggers : cfg.items.lookup (.str "loggers") = some .shared ∨
      ∃ v, ¬ v.IsMap ∧ cfg.items.lookup (.str "loggers") = some (.own v))
    (h : (∃ v, ¬ v.IsMap ∧ cfg.items.lookup (.str "root") = some (.own v)) ∨
      ∃ v, cfg.items.lookup (.str "loggers") = some (.own v) ∧ contains v "aqap" ≠ .ok false) :
    (set_debug cfg).1.original = DEFAULT_LOGGING_CONFIG := by
  obtain hshared | ⟨v, hv, hown⟩ := hloggers
  · obtain ⟨root, hroot, hlookup⟩ | ⟨v, hown, -⟩ := h
    · have hvalue : cfg.value.lookup (.str "loggers") = DEFAULT_LOGGING_CONFIG.lookup (.str "loggers") := by
        rw [Copy.lookup_value, hshared, Option.map_some, Copy.resolve, hdefaults]
        rfl
      let loggers := (DEFAULT_LOGGING_CONFIG.lookup (.str "loggers")).getD .null
      have hlevel : cfg.debug_level "loggers" ["aqap"] = (cfg.change (.str "loggers") loggers, .ok ()) := by
        rw [Copy.debug_level, hvalue]
        rfl
      have hnext : (cfg.change (.str "loggers") loggers).items.lookup (.str "root") = some (.own root) := by
        rw [Copy.lookup_change_of_ne (by decide), hlookup]
      obtain ⟨e, he⟩ := debug_level_of_own hroot hnext []
      have hset : set_debug cfg = (cfg.change (.str "loggers") loggers, .error e) := by
        rw [set_debug, hvalue, hlevel]
        exact he
      rw [hset, ← hdefaults]
      exact Copy.original_change Yaml.noConfusion fun _ => hvalue
    · rw [hshared] at hown
      cases hown
  · have hvalue : cfg.value.lookup (.str "loggers") = some v := by
      rw [Copy.lookup_value, hown]
      rfl
    rw [set_debug, hvalue, Option.elim_some]
    cases hcontains : contains v "aqap" with
    | error e => exact hdefaults
    | ok found =>
      cases found with
      | true =>
        obtain ⟨e, he⟩ := debug_level_of_own hv hown ["aqap"]
        dsimp only
        rw [he]
        exact hdefaults
      | false =>
        obtain ⟨root, hroot, hlookup⟩ | ⟨v', hown', hfound⟩ := h
        · obtain ⟨e, he⟩ := debug_level_of_own hroot hlookup []
          dsimp only
          rw [he]
          exact hdefaults
        · rw [hown, Option.some.injEq, Entry.own.injEq] at hown'
          exact absurd (hown' ▸ hcontains) hfound

theorem original_setup_logging {setup : Setup} (h : setup.Harmless) :
    (setup_logging DEFAULT_LOGGING_CONFIG setup).1.original = DEFAULT_LOGGING_CONFIG := by
  obtain ⟨hmerge, hdebug⟩ := h
  unfold setup_logging
  generalize setup.config.getD .empty = config at hmerge hdebug
  have hdefaults : ((Copy.of DEFAULT_LOGGING_CONFIG).merge config.items).original = DEFAULT_LOGGING_CONFIG :=
    Copy.original_merge hmerge
  have hown {k : YamlKey} {v : Yaml} (hv : ¬ v.IsMap) (hk : config.get? k = some v) :
      ((Copy.of DEFAULT_LOGGING_CONFIG).merge config.items).items.lookup k = some (.own v) :=
    Copy.lookup_merge_of_not_isMap config.nodup (Dict.mem_items_iff.mpr hk) hv
  dsimp only
  by_cases hflag : setup.debug = true
  · rw [if_pos hflag]
    obtain ⟨v, hv, hset⟩ := hdebug hflag
    refine original_set_debug hdefaults ?_ ?_
    · by_cases hmap : ∀ v, (YamlKey.str "loggers", v) ∈ config.items → v.IsMap
      · exact .inl (Copy.shared_merge rfl rfl hmap)
      · push Not at hmap
        obtain ⟨v, hmem, hv⟩ := hmap
        exact .inr ⟨v, hv, hown hv (Dict.mem_items_iff.mp hmem)⟩
    · obtain hroot | ⟨hloggers, hfound⟩ := hset
      · exact .inl ⟨v, hv, hown hv hroot⟩
      · exact .inr ⟨v, hown hv hloggers, hfound⟩
  · rw [if_neg hflag]
    exact hdefaults

/-- Loads that leave the defaults alone do not depend on each other. -/
theorem independent_of_harmless {sources : List Source} {setups : List Setup}
    (hsources : ∀ source ∈ sources, source.Harmless DEFAULTS) (hsetups : ∀ setup ∈ setups, setup.Harmless) :
    Independent _load DEFAULTS sources ∧ Independent setup_logging DEFAULT_LOGGING_CONFIG setups :=
  ⟨independent_of_original fun source hmem => original_load (hsources source hmem),
    independent_of_original fun setup hmem => original_setup_logging (hsetups setup hmem)⟩

theorem independent_of_harmless_queue :
    Independent _load DEFAULTS [
      ⟨some (.ok (.map [(.str "queue", .map [(.str "name", .str "tasks")])])), [("AQAP_QUEUE_NAME", "jobs")]⟩,
      ⟨none, [("PATH", "/bin")]⟩] ∧
    Independent setup_logging DEFAULT_LOGGING_CONFIG
      [⟨false, none⟩, ⟨true, some (Dict.empty.set (.str "root") .null)⟩] := by
  refine independent_of_harmless ?_ ?_
  · intro source hmem
    obtain rfl | hmem := List.mem_cons.mp hmem
    · refine ⟨?_, ?_, fun _ => trivial⟩
      · intro key o base hkey hbase
        obtain heq | hkey := List.mem_cons.mp hkey
        · cases heq
          cases hbase
        · cases hkey
      · intro part next rest hparts hshared
        have hqueue : parts "AQAP_QUEUE_NAME" = ["queue", "name"] := by decide +kernel
        rw [hqueue, List.cons.injEq] at hparts
        rw [← hparts.1] at hshared
        cases hshared
    · rw [List.mem_singleton.mp hmem]
      exact trivial
  · intro setup hmem
    obtain rfl | hmem := List.mem_cons.mp hmem
    · refine ⟨?_, nofun⟩
      intro key o base hkey
      cases hkey
    · rw [List.mem_singleton.mp hmem]
      refine ⟨?_, fun _ => ⟨.null, by decide, .inl rfl⟩⟩
      intro key o base hkey hbase
      obtain heq | hkey := List.mem_cons.mp hkey
      · cases heq
      · cases hkey

/-- A process that first loads a file with the debug flag, and then one without a file. -/
theorem debug_of_another :
    ¬ Independent _load DEFAULTS [
      ⟨some (.ok (.map [(.str "app", .map [(.str "debug", .bool true)])])), []⟩, ⟨none, []⟩] := by
  intro h
  have happ := congrArg (fun items => get (.map items) ["app", "debug"]) h.1
  cases happ

end Aqap.Config
