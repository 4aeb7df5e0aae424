import Aqap.Core.Validate
import Aqap.Plugin.Registry
import Aqap.Py.Call

/-!
# The plugins of the engine

`_init_plugins` goes through the entries of the configuration: it imports the class of an enabled entry,
constructs the plugin and registers it, and logs whatever raises. It gives the topics under the keyword
`topic_bind`, which `register` does not have, so no registration succeeds; and nothing calls
`initialize_all`.

* `start_registry`: the engine starts with the registry that was there before.
* `plugins_live_iff`: which configurations have all their plugins registered, initialised and bound.
-/

namespace Aqap.Plugins

open Py Aqap.Core

/-- What is passed to `register`. -/
inductive Argument where
  | plugin (plugin : Plugin)
  | value (v : Json)

/-- The parameters of `PluginRegistry.register` after `self`. -/
def register_params : List (String × Option Argument) := [("plugin", none), ("topics", some (.value .null))]

/-- The topics of a registration, a list of strings. -/
def topic_names : Json → Except String (List String)
  | .arr items => items.mapM fun item =>
      match item with
      | .str topic => .ok topic
      | v => .error ("topic is not a string: " ++ v.type_name)
  | v => if v.truthy then .error ("'" ++ v.type_name ++ "' object is not iterable") else .ok []

/-- `registry.register(*args, **kwargs)` -/
def call_register (registry : PluginRegistry) (args : List Argument) (kwargs : List (String × Argument)) :
    Except String PluginRegistry :=
  (bind_arguments register_params args kwargs).bind fun values =>
    match values with
    | [.plugin plugin, .value topics] =>
      (topic_names topics).map fun names => registry.register plugin (some names)
    | _ => .error "not a plugin"

section

-- Importing a module, taking a class from it and calling it, which leave the registry as it is.
variable (load : String → Except String Plugin)

/-- `module_path, class_name = class_path.rsplit(".", 1)` and what follows, up to the plugin. -/
def load_plugin : Json → Except String Plugin
  | .str class_path => load class_path
  | v => .error (no_attribute v "rsplit")

/-- What is done for one entry; the exceptions of loading and registering are logged. -/
def init_plugin (registry : PluginRegistry) (cfg : List (String × Json)) : PluginRegistry :=
  if !((cfg.lookup "enabled").getD (.bool true)).truthy then registry
  else if !((cfg.lookup "class").getD .null).truthy then registry
  else
    let registered := (load_plugin load ((cfg.lookup "class").getD .null)).bind fun plugin =>
      call_register registry [.plugin plugin]
        [("topic_bind", .value ((cfg.lookup "topic_bind").getD (.arr [])))]
    match registered with
    | .ok registry => registry
    | .error _ => registry

/-- The entries one after the other. An entry that is no dictionary raises. -/
def init_plugin_entries (registry : PluginRegistry) : List (String × Json) → Except String PluginRegistry
  | [] => .ok registry
  | (_, .obj cfg) :: entries => init_plugin_entries (init_plugin load registry cfg) entries
  | (_, v) :: _ => .error (no_attribute v "get")

/-- `_init_plugins`: the plugins of the configuration, one after another; an entry that is no dictionary ends it. -/
def _init_plugins (registry : PluginRegistry) (plugin_configs : Json) :
    Except String PluginRegistry :=
  if !plugin_configs.truthy then .ok registry
  else match plugin_configs with
    | .obj entries => init_plugin_entries load registry entries
    | v => .error (no_attribute v "items")

/-- The other steps of `start`; none of them uses the registry. -/
structure Startup where
  init_security : Except String Unit
  init_transport : Except String Unit
  init_agents : Except String Unit
  start_all : Except String Unit

/-- `start`, up to the first step of the agents. -/
def start (startup : Startup) (registry : PluginRegistry) (plugin_configs : Json) :
    Except String PluginRegistry := do
  startup.init_security
  startup.init_transport
  let registry ← _init_plugins load registry plugin_configs
  startup.init_agents
  startup.start_all
  pure registry

/-! ## What is registered -/

variable {load} {registry : PluginRegistry}

/-- The keyword is not one of `register`. -/
theorem call_register_topic_bind (registry : PluginRegistry) (plugin : Plugin) (topics : Json) :
    ∃ e, call_register registry [.plugin plugin] [("topic_bind", .value topics)] = .error e := by
  have hraises : ∃ e, bind_arguments register_params [.plugin plugin] [("topic_bind", .value topics)] =
      .error e := bind_arguments_unexpected List.mem_cons_self rfl
  obtain ⟨e, he⟩ := hraises
  unfold call_register
  rw [he]
  exact ⟨e, rfl⟩

theorem init_plugin_eq (cfg : List (String × Json)) : init_plugin load registry cfg = registry := by
  unfold init_plugin
  split
  · rfl
  · split
    · rfl
    · cases load_plugin load ((cfg.lookup "class").getD .null) with
      | error e => rfl
      | ok plugin =>
        obtain ⟨e, he⟩ := call_register_topic_bind registry plugin
          ((cfg.lookup "topic_bind").getD (.arr []))
        simp only [Except.bind, he]

theorem init_plugin_entries_eq {entries : List (String × Json)} {after : PluginRegistry}
    (h : init_plugin_entries load registry entries = .ok after) : after = registry := by
  induction entries with
  | nil => exact (Except.ok.inj h).symm
  | cons entry entries ih =>
    obtain ⟨name, cfg⟩ := entry
    cases cfg with
    | obj cfg =>
      rw [init_plugin_entries, init_plugin_eq] at h
      exact ih h
    | _ => cases h

/-- The engine starts with the registry as it was. -/
theorem start_registry {startup : Startup} {plugin_configs : Json} {after : PluginRegistry}
    (h : start load startup registry plugin_configs = .ok after) : after = registry := by
  obtain ⟨_, -, h⟩ := bind_ok h
  obtain ⟨_, -, h⟩ := bind_ok h
  obtain ⟨middle, hplugins, h⟩ := bind_ok h
  obtain ⟨_, -, h⟩ := bind_ok h
  obtain ⟨_, -, h⟩ := bind_ok h
  obtain rfl : middle = after := Except.ok.inj h
  unfold _init_plugins at hplugins
  split at hplugins
  · exact (Except.ok.inj hplugins).symm
  · cases plugin_configs with
    | obj entries => exact init_plugin_entries_eq hplugins
    | _ => cases hplugins

/-! ## Live plugins -/

/-- `cfg.get("enabled", True)` -/
def Enabled (cfg : List (String × Json)) : Prop :=
  ((cfg.lookup "enabled").getD (.bool true)).truthy = true

/-- An entry that names a class which can be imported: its configuration, the plugin that the class makes
and the stages of `topic_bind`. -/
structure Entry (load : String → Except String Plugin) (v : Json) where
  cfg : List (String × Json)
  class_path : String
  plugin : Plugin
  stages : List String
  is_cfg : v = .obj cfg
  has_class : cfg.lookup "class" = some (.str class_path)
  nonempty : class_path ≠ ""
  loads : load class_path = .ok plugin
  has_stages : topic_names ((cfg.lookup "topic_bind").getD (.arr [])) = .ok stages

/-- All entries name classes that can be imported, with different plugin names. -/
def Importable (load : String → Except String Plugin) (entries : List (String × Json)) : Prop :=
  (∀ e ∈ entries, Nonempty (Entry load e.2)) ∧
    entries.Pairwise fun e e' => ∀ (a : Entry load e.2) (b : Entry load e'.2),
      a.plugin.name ≠ b.plugin.name

/-- The plugin is registered, was initialised with its section of the configuration, and is listed for
the stages of its `topic_bind`. -/
structure Live (registry : PluginRegistry) (plugin : Plugin) (config : Json) (stages : List String) :
    Prop where
  registered : registry.get plugin.name = some plugin
  initialized : (plugin.name, config) ∈ registry.initialized
  bound : ∀ topic, plugin ∈ registry.get_for_topic topic ↔ topic ∈ stages

/-- **When the configured plugins are live** once the engine of a new process has started: when none is
enabled. -/
theorem plugins_live_iff {startup : Startup} {entries : List (String × Json)} {after : PluginRegistry}
    (hentries : Importable load entries)
    (hstart : start load startup .empty (.obj entries) = .ok after) :
    (∀ e ∈ entries, ∀ entry : Entry load e.2, Enabled entry.cfg →
        Live after entry.plugin ((entry.cfg.lookup "config").getD (.obj [])) entry.stages) ↔
      ∀ e ∈ entries, ∀ cfg, e.2 = .obj cfg → ¬ Enabled cfg := by
  obtain rfl := start_registry hstart
  constructor
  · intro hlive e he cfg hcfg henabled
    obtain ⟨entry⟩ := hentries.1 e he
    obtain rfl : entry.cfg = cfg := Json.obj.inj (entry.is_cfg.symm.trans hcfg)
    have hregistered := (hlive e he entry henabled).registered
    cases hregistered
  · intro hnone e he entry henabled
    exact absurd henabled (hnone e he entry.cfg entry.is_cfg)

/-- The entry of the scorer in the configuration. -/
def scorer_cfg (enabled : Bool) : List (String × Json) := [
  ("class", .str "aqap.plugins.scorer.ScorerPlugin"),
  ("enabled", .bool enabled),
  ("topic_bind", .arr [.str "judge"])]

def scorer_entries (enabled : Bool) : List (String × Json) := [("scorer", .obj (scorer_cfg enabled))]

def load_scorer (class_path : String) : Except String Plugin :=
  if class_path = "aqap.plugins.scorer.ScorerPlugin" then .ok ⟨"scorer", "1.0.0"⟩
  else .error "No module named 'aqap.plugins'"

def scorer_entry (enabled : Bool) : Entry load_scorer (.obj (scorer_cfg enabled)) where
  cfg := scorer_cfg enabled
  class_path := "aqap.plugins.scorer.ScorerPlugin"
  plugin := ⟨"scorer", "1.0.0"⟩
  stages := ["judge"]
  is_cfg := rfl
  has_class := rfl
  nonempty := by decide
  loads := rfl
  has_stages := rfl

theorem importable_scorer (enabled : Bool) : Importable load_scorer (scorer_entries enabled) := by
  constructor
  · intro e he
    rw [List.mem_singleton.mp he]
    exact ⟨scorer_entry enabled⟩
  · exact List.pairwise_singleton ..

/-- The scorer, enabled. -/
theorem plugins_live_iff_scorer :
    (∀ e ∈ scorer_entries true, ∀ entry : Entry load_scorer e.2, Enabled entry.cfg →
        Live .empty entry.plugin ((entry.cfg.lookup "config").getD (.obj [])) entry.stages) ↔
      ∀ e ∈ scorer_entries true, ∀ cfg, e.2 = .obj cfg → ¬ Enabled cfg := by
  have hstart : start load_scorer ⟨.ok (), .ok (), .ok (), .ok ()⟩ .empty
      (.obj (scorer_entries true)) = .ok .empty := rfl
  exact plugins_live_iff (importable_scorer true) hstart

/-- The scorer of the configuration is not registered. -/
theorem scorer_not_live :
    ¬ ∀ (load : String → Except String Plugin) (startup : Startup) (entries : List (String × Json))
      (after : PluginRegistry), Importable load entries →
      start load startup .empty (.obj entries) = .ok after →
      ∀ e ∈ entries, ∀ entry : Entry load e.2, Enabled entry.cfg →
        Live after entry.plugin ((entry.cfg.lookup "config").getD (.obj [])) entry.stages := by
  intro h
  have hlive := h load_scorer ⟨.ok (), .ok (), .ok (), .ok ()⟩ (scorer_entries true) .empty
    (importable_scorer true) rfl _ List.mem_cons_self (scorer_entry true) rfl
  cases hlive.registered

end

end Aqap.Plugins
