import Aqap.Async.Lts
import Aqap.Py.Dict
import Aqap.Py.Json

/-!
# The plugin registry

Two dictionaries: the plugins by name, and for each topic the names bound to it. `register` replaces a
plugin of the same name and appends its name to the topics without looking whether it is there.
`unregister` removes one occurrence of the name from each topic.

* `names_register`, `names_unregister`: what the operations do to the names of a topic.
* `registry_integral_iff`: over which sequences of operations the two dictionaries agree.
* `hot_reload`: a plugin that is registered twice is listed twice.
-/

namespace Aqap.Plugins

open Py Async

structure Plugin where
  name : String
  version : String
  deriving DecidableEq

/-- The plugins by name, and the names that are bound to a topic. -/
structure PluginRegistry where
  plugins : Dict String Plugin
  topic_mapping : Dict String (List String)
  /-- The calls of `initialize`, each with the name of the plugin and its configuration. -/
  initialized : List (String × Json)

namespace PluginRegistry

def empty : PluginRegistry := ⟨.empty, .empty, []⟩

variable (registry : PluginRegistry)

/-- `self._topic_mapping.get(topic, [])` -/
def names (topic : String) : List String := (registry.topic_mapping.get? topic).getD []

/-- `self._topic_mapping.setdefault(topic, []).append(name)` -/
def bind_topic (name topic : String) : PluginRegistry :=
  { registry with topic_mapping := registry.topic_mapping.set topic (registry.names topic ++ [name]) }

/-- No topics are the same as an empty list. -/
def register (plugin : Plugin) (topics : Option (List String)) : PluginRegistry :=
  (topics.getD []).foldl (fun r topic => r.bind_topic plugin.name topic)
    { registry with plugins := registry.plugins.set plugin.name plugin }

/-- One occurrence of the name is removed from each topic, and the topics that have no name left. -/
def unregister (name : String) : PluginRegistry :=
  if (registry.plugins.get? name).isSome then
    { registry with
      plugins := registry.plugins.pop name
      topic_mapping := registry.topic_mapping.filterMap fun _ names =>
        if (names.erase name).isEmpty then none else some (names.erase name) }
  else registry

def get (name : String) : Option Plugin := registry.plugins.get? name

/-- The plugins of a topic, in the order of their binding; a name without a plugin is left out. -/
def get_for_topic (topic : String) : List Plugin := (registry.names topic).filterMap registry.get

/-- Each plugin of the topic runs once for each time it is listed, whatever the others did. -/
def execute_all (execute : Plugin → Except String Json) (topic : String) :
    List (String × Except String Json) :=
  (registry.get_for_topic topic).map fun plugin => (plugin.name, execute plugin)

/-- `initialize_all`: each plugin gets its own section. -/
def initialize_all (configs : List (String × Json)) : PluginRegistry :=
  { registry with
    initialized := registry.initialized ++
      registry.plugins.items.map fun e => (e.1, (configs.lookup e.1).getD (.obj [])) }

def topics : List String := registry.topic_mapping.items.map Prod.fst

/-! ## What the operations do -/

variable {registry} {plugin : Plugin} {name : String}

theorem names_bind_topic (topic t : String) :
    (registry.bind_topic name topic).names t =
      registry.names t ++ if t = topic then [name] else [] := by
  unfold names bind_topic
  rw [Dict.get?_set]
  by_cases ht : t = topic
  · rw [if_pos ht, if_pos ht, ht]
    rfl
  · rw [if_neg ht, if_neg ht, List.append_nil]

theorem names_foldl_bind_topic (topics : List String) (t : String) :
    (topics.foldl (fun r topic => r.bind_topic name topic) registry).names t =
      registry.names t ++ List.replicate (topics.count t) name := by
  induction topics generalizing registry with
  | nil => simp
  | cons topic topics ih =>
    rw [List.foldl_cons, ih, names_bind_topic, List.append_assoc, List.count_cons]
    by_cases ht : t = topic
    · subst ht
      simp [List.replicate_succ]
    · have hne : topic ≠ t := fun h => ht h.symm
      simp [ht, hne]

/-- The name is appended once for each time the topic is given. -/
theorem names_register (topics : Option (List String)) (t : String) :
    (registry.register plugin topics).names t =
      registry.names t ++ List.replicate ((topics.getD []).count t) plugin.name :=
  names_foldl_bind_topic _ t

theorem plugins_foldl_bind_topic (topics : List String) :
    (topics.foldl (fun r topic => r.bind_topic name topic) registry).plugins = registry.plugins := by
  induction topics generalizing registry with
  | nil => rfl
  | cons topic topics ih => exact ih

theorem get_register (topics : Option (List String)) (n : String) :
    (registry.register plugin topics).get n = if n = plugin.name then some plugin else registry.get n := by
  unfold get register
  rw [plugins_foldl_bind_topic]
  exact Dict.get?_set ..

theorem get_unregister (n : String) :
    (registry.unregister name).get n = if n = name then none else registry.get n := by
  unfold unregister
  split
  · exact Dict.get?_pop ..
  · rename_i hnone
    rw [Bool.not_eq_true, Option.isSome_eq_false_iff, Option.isNone_iff_eq_none] at hnone
    split
    · rename_i hn
      rw [hn]
      exact hnone
    · rfl

/-- One occurrence of a registered name is removed. -/
theorem names_unregister (h : (registry.get name).isSome = true) (t : String) :
    (registry.unregister name).names t = (registry.names t).erase name := by
  have hsome : (registry.plugins.get? name).isSome = true := h
  unfold names unregister
  rw [if_pos hsome]
  show ((registry.topic_mapping.filterMap _).get? t).getD [] = _
  rw [Dict.get?_filterMap]
  cases registry.topic_mapping.get? t with
  | none => rfl
  | some names =>
    show (if (names.erase name).isEmpty then none else some (names.erase name)).getD [] = names.erase name
    split
    · rename_i hempty
      exact (List.isEmpty_iff.mp hempty).symm
    · rfl

/-! ## Integrity -/

/-- Every name that is bound is registered, a topic lists a plugin once, and no topic lists none. -/
structure Integral (registry : PluginRegistry) : Prop where
  registered : ∀ topic, ∀ name ∈ registry.names topic, (registry.get name).isSome = true
  once : ∀ topic, ((registry.get_for_topic topic).map Plugin.name).Nodup
  listed : ∀ topic ∈ registry.topics, registry.get_for_topic topic ≠ []

/-- What holds in all runs: a plugin is registered under its name, and no topic is left without names. -/
structure Inv (registry : PluginRegistry) : Prop where
  keyed : ∀ name plugin, registry.get name = some plugin → plugin.name = name
  nonempty : ∀ topic, registry.topic_mapping.get? topic ≠ some []

/-- The names of the plugins of a topic are those bound to it that are registered. -/
theorem map_name_get_for_topic (hinv : Inv registry) (topic : String) :
    (registry.get_for_topic topic).map Plugin.name =
      (registry.names topic).filter fun name => (registry.get name).isSome := by
  unfold get_for_topic
  induction registry.names topic with
  | nil => rfl
  | cons name names ih =>
    rw [List.filterMap_cons, List.filter_cons]
    cases hget : registry.get name with
    | none => simpa using ih
    | some plugin => simp [hinv.keyed name plugin hget, ih]

theorem mem_topics_iff {topic : String} :
    topic ∈ registry.topics ↔ (registry.topic_mapping.get? topic).isSome = true := by
  unfold topics Dict.get?
  rw [List.lookup_isSome_iff, List.mem_map]
  refine exists_congr fun e => and_congr_right fun _ => ?_
  rw [beq_iff_eq]
  exact eq_comm

/-- A registry is integral if the names of each topic are registered and none is there twice. -/
theorem integral_iff (hinv : Inv registry) : Integral registry ↔
    (∀ topic, ∀ name ∈ registry.names topic, (registry.get name).isSome = true) ∧
      ∀ topic, (registry.names topic).Nodup := by
  have hnames : (∀ topic, ∀ name ∈ registry.names topic, (registry.get name).isSome = true) →
      ∀ topic, (registry.get_for_topic topic).map Plugin.name = registry.names topic := by
    intro hreg topic
    rw [map_name_get_for_topic hinv]
    exact List.filter_eq_self.mpr (hreg topic)
  constructor
  · rintro ⟨hreg, honce, -⟩
    exact ⟨hreg, fun topic => hnames hreg topic ▸ honce topic⟩
  · rintro ⟨hreg, hnodup⟩
    refine ⟨hreg, fun topic => (hnames hreg topic).symm ▸ hnodup topic, fun topic htopic hnil => ?_⟩
    have hempty : registry.names topic = [] := by
      rw [← hnames hreg topic, hnil]
      rfl
    obtain ⟨names, hget⟩ := Option.isSome_iff_exists.mp (mem_topics_iff.mp htopic)
    refine hinv.nonempty topic ?_
    rw [hget, ← hempty]
    unfold PluginRegistry.names
    rw [hget]
    rfl

/-- What is executed on a topic is executed once. -/
theorem execute_all_nodup (h : Integral registry) (execute : Plugin → Except String Json)
    (topic : String) : ((registry.execute_all execute topic).map Prod.fst).Nodup := by
  unfold execute_all
  rw [List.map_map]
  exact h.once topic

/-! ## Operations one after the other -/

inductive Op where
  | register (plugin : Plugin) (topics : Option (List String))
  | unregister (name : String)

def apply (registry : PluginRegistry) : Op → PluginRegistry
  | .register plugin topics => registry.register plugin topics
  | .unregister name => registry.unregister name

/-- The operations do not raise. -/
def fire (registry : PluginRegistry) (op : Op) : Option PluginRegistry := some (registry.apply op)

/-- A registration binds the name to topics that are given once and do not have it yet. -/
def Unbound (registry : PluginRegistry) : Op → Prop
  | .register plugin topics => (topics.getD []).Nodup ∧
      ∀ topic ∈ topics.getD [], plugin.name ∉ registry.names topic
  | .unregister _ => True

theorem inv_empty : Inv empty := by
  constructor
  · intro name plugin h
    cases h
  · intro topic h
    cases h

theorem integral_empty : Integral empty := by
  constructor
  · intro topic name h
    cases h
  · intro topic
    exact List.nodup_nil
  · intro topic h
    cases h

theorem nonempty_foldl_bind_topic {topics : List String}
    (h : ∀ topic, registry.topic_mapping.get? topic ≠ some []) (topic : String) :
    (topics.foldl (fun r topic => r.bind_topic name topic) registry).topic_mapping.get? topic ≠
      some [] := by
  induction topics generalizing registry with
  | nil => exact h topic
  | cons t topics ih =>
    refine ih fun topic => ?_
    unfold bind_topic
    rw [Dict.get?_set]
    split
    · simp
    · exact h topic

theorem inv_register (hinv : Inv registry) (topics : Option (List String)) :
    Inv (registry.register plugin topics) := by
  constructor
  · intro n p h
    rw [get_register] at h
    split at h
    · rename_i hn
      rw [hn, ← Option.some.inj h]
    · exact hinv.keyed n p h
  · intro topic
    unfold register
    apply nonempty_foldl_bind_topic
    exact hinv.nonempty

theorem inv_unregister (hinv : Inv registry) : Inv (registry.unregister name) := by
  constructor
  · intro n p h
    rw [get_unregister] at h
    split at h
    · cases h
    · exact hinv.keyed n p h
  · intro topic
    unfold unregister
    split
    · show (registry.topic_mapping.filterMap _).get? topic ≠ some []
      rw [Dict.get?_filterMap]
      cases registry.topic_mapping.get? topic with
      | none => simp
      | some names =>
        show (if (names.erase name).isEmpty then none else some (names.erase name)) ≠ some []
        split
        · simp
        · rename_i hne
          exact fun h => hne (List.isEmpty_iff.mpr (Option.some.inj h))
    · exact hinv.nonempty topic

theorem inv_apply {op : Op} (hinv : Inv registry) : Inv (registry.apply op) := by
  cases op with
  | register plugin topics => exact inv_register hinv topics
  | unregister name => exact inv_unregister hinv

/-- **When a registration keeps the integrity**: no topic gets a name that it has. -/
theorem integral_register_iff (hinv : Inv registry) (h : Integral registry)
    (topics : Option (List String)) :
    Integral (registry.register plugin topics) ↔ Unbound registry (.register plugin topics) := by
  obtain ⟨hreg, hnodup⟩ := (integral_iff hinv).mp h
  have hreg' : ∀ topic, ∀ name ∈ (registry.register plugin topics).names topic,
      ((registry.register plugin topics).get name).isSome = true := by
    intro topic n hn
    rw [names_register, List.mem_append] at hn
    rw [get_register]
    split
    · rfl
    · rename_i hne
      obtain hold | hnew := hn
      · exact hreg topic n hold
      · exact absurd (List.eq_of_mem_replicate hnew) hne
  rw [integral_iff (inv_register hinv topics), and_iff_right hreg']
  simp only [names_register, List.nodup_append, List.nodup_replicate]
  constructor
  · intro hall
    constructor
    · rw [List.nodup_iff_count_le_one]
      exact fun topic => (hall topic).2.1
    · intro topic htopic hmem
      refine (hall topic).2.2 _ hmem plugin.name ?_ rfl
      exact List.mem_replicate.mpr ⟨(List.count_pos_iff.mpr htopic).ne', rfl⟩
  · rintro ⟨honce, hfree⟩ topic
    refine ⟨hnodup topic, List.nodup_iff_count_le_one.mp honce topic, ?_⟩
    rintro n hmem _ hnew rfl
    obtain ⟨hcount, rfl⟩ := List.mem_replicate.mp hnew
    exact hfree topic (List.count_pos_iff.mp (Nat.pos_of_ne_zero hcount)) hmem

/-- An integral registry stays so when a plugin is removed. -/
theorem integral_unregister (hinv : Inv registry) (h : Integral registry) :
    Integral (registry.unregister name) := by
  by_cases hname : (registry.get name).isSome = true
  · obtain ⟨hreg, hnodup⟩ := (integral_iff hinv).mp h
    rw [integral_iff (inv_unregister hinv)]
    constructor
    · intro topic n hn
      rw [names_unregister hname, (hnodup topic).mem_erase_iff] at hn
      rw [get_unregister, if_neg hn.1]
      exact hreg topic n hn.2
    · intro topic
      rw [names_unregister hname]
      exact (hnodup topic).erase name
  · have hsame : registry.unregister name = registry := if_neg hname
    rwa [hsame]

theorem integral_apply_iff {op : Op} (hinv : Inv registry) (h : Integral registry) :
    Integral (registry.apply op) ↔ Unbound registry op := by
  cases op with
  | register plugin topics => exact integral_register_iff hinv h topics
  | unregister name => exact iff_of_true (integral_unregister hinv h) trivial

/-! ## Unregistered names -/

/-- The operation binds the name to a topic. -/
def Binds (name : String) : Op → Prop
  | .register plugin topics => plugin.name = name ∧ topics.getD [] ≠ []
  | .unregister _ => False

/-- After a name was unregistered, a registration without topics leaves it bound to none, if it was not
bound in between. -/
def Released (ops : List Op) : Prop :=
  ∀ before name between plugin topics,
    before ++ .unregister name :: between ++ [.register plugin topics] <+: ops → plugin.name = name →
    topics.getD [] = [] → (∀ op ∈ between, ¬ Binds name op) → ∀ topic,
      name ∉ (Lts.exec fire empty
        (before ++ .unregister name :: between ++ [.register plugin topics])).names topic

/-- A name that is not registered is not bound in an integral registry. -/
theorem not_mem_names_unregister (hinv : Inv registry) (h : Integral registry) (topic : String) :
    name ∉ (registry.unregister name).names topic := by
  intro hmem
  have hget := (integral_unregister hinv h).registered topic name hmem
  rw [get_unregister, if_pos rfl] at hget
  cases hget

/-- Operations that do not bind a name leave it out of the topics that do not have it. -/
theorem not_mem_names_apply {op : Op} (hop : ¬ Binds name op)
    (h : ∀ topic, name ∉ registry.names topic) (topic : String) :
    name ∉ (registry.apply op).names topic := by
  cases op with
  | register plugin topics =>
    show name ∉ (registry.register plugin topics).names topic
    rw [names_register, List.mem_append, not_or]
    refine ⟨h topic, fun hmem => hop ?_⟩
    obtain ⟨hcount, rfl⟩ := List.mem_replicate.mp hmem
    refine ⟨rfl, fun hnil => hcount ?_⟩
    rw [hnil]
    rfl
  | unregister n =>
    show name ∉ (registry.unregister n).names topic
    by_cases hn : (registry.get n).isSome = true
    · rw [names_unregister hn]
      exact fun hmem => h topic (List.mem_of_mem_erase hmem)
    · have hsame : registry.unregister n = registry := if_neg hn
      rw [hsame]
      exact h topic

theorem not_mem_names_exec {ops : List Op} (hops : ∀ op ∈ ops, ¬ Binds name op)
    (h : ∀ topic, name ∉ registry.names topic) (topic : String) :
    name ∉ (Lts.exec fire registry ops).names topic := by
  induction ops generalizing registry with
  | nil => exact h topic
  | cons op ops ih =>
    obtain ⟨hop, hops⟩ := List.forall_mem_cons.mp hops
    exact ih hops (not_mem_names_apply hop h)

/-! ## Runs -/

theorem path_ops (ops : List Op) :
    Lts.Path (fun s op s' => fire s op = some s') empty (Lts.trace fire empty ops)
      (Lts.exec fire empty ops) :=
  Lts.path_trace fire empty ops fun _ _ => rfl

theorem inv_exec (ops : List Op) : Inv (Lts.exec fire empty ops) := by
  refine ((path_ops ops).throughout inv_empty ?_).1
  rintro s op _ hs ⟨⟩
  exact inv_apply hs

theorem integral_throughout_iff (ops : List Op) :
    Lts.Throughout Integral (Lts.trace fire empty ops) (Lts.exec fire empty ops) ↔
      Lts.AllMeet Unbound (Lts.trace fire empty ops) := by
  refine (path_ops ops).throughout_iff inv_empty ?_ integral_empty ?_
  · rintro s op _ hs - - ⟨⟩
    exact inv_apply hs
  · rintro s op _ hs h ⟨⟩
    exact integral_apply_iff hs h

theorem released_of_unbound {ops : List Op} (h : Lts.AllMeet Unbound (Lts.trace fire empty ops)) :
    Released ops := by
  rintro before name between plugin topics ⟨after, rfl⟩ hname htopics hbetween topic
  rw [List.append_assoc, List.append_assoc, Lts.trace_append] at h
  have hintegral := ((integral_throughout_iff before).mpr fun e he => h e (List.mem_append_left _ he)).1
  rw [List.append_assoc, Lts.exec_append, List.cons_append]
  have hlast : ¬ Binds name (.register plugin topics) := fun hbinds => hbinds.2 htopics
  have hgone : ∀ topic, name ∉ ((Lts.exec fire empty before).unregister name).names topic :=
    not_mem_names_unregister (inv_exec before) hintegral
  refine not_mem_names_exec ?_ hgone topic
  intro op hop
  obtain hop | hop := List.mem_append.mp hop
  · exact hbetween op hop
  · rw [List.mem_singleton.mp hop]
    exact hlast

/-- **When the registry is sound.** After every operation the bound names are registered, no topic lists a
plugin twice or none, and unregistered names stay unbound, exactly if no registration binds a name to a
topic twice. -/
theorem registry_integral_iff (ops : List Op) :
    Lts.Throughout Integral (Lts.trace fire empty ops) (Lts.exec fire empty ops) ∧ Released ops ↔
      Lts.AllMeet Unbound (Lts.trace fire empty ops) := by
  constructor
  · rintro ⟨h, -⟩
    exact (integral_throughout_iff ops).mp h
  · intro h
    exact ⟨(integral_throughout_iff ops).mpr h, released_of_unbound h⟩

/-- A plugin that is loaded again is listed twice. -/
theorem hot_reload :
    ¬ ∀ ops : List Op,
      Lts.Throughout Integral (Lts.trace fire empty ops) (Lts.exec fire empty ops) ∧ Released ops := by
  intro h
  have honce := (h [.register ⟨"scorer", "1.0.0"⟩ (some ["judge"]),
    .register ⟨"scorer", "1.0.1"⟩ (some ["judge"])]).1.1.once "judge"
  revert honce
  decide

end PluginRegistry

end Aqap.Plugins
