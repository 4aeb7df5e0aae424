import Aqap.Py.Case
import Aqap.Py.Str
import Aqap.Py.Yaml
import Mathlib.Data.List.Infix

/-!
# Configurations

`AQAPConfig` and `setup_logging` start from a copy of a dictionary of defaults. The copy is one level deep: its
keys are bound to the values of the defaults themselves, until they are assigned to. A change inside of such
a value is one of the defaults. The values are trees here; a load with the objects of its file is in
`Aqap.AQAPConfig`.

* `Copy`: a dictionary that was copied from another one, with what is still shared.
* `lookup_value_change`, `lookup_value_merge_entry`: what the operations do to the value of a copy, shared or
  not.
-/

namespace Aqap.Config

open Py
open Unicode (lower)

/-! ## Merging and assigning -/

mutual

/-- What a key is bound to after a merge, from what it was bound to before. -/
def merge_value (old : Option Yaml) : Yaml → Yaml
  | .map overlay =>
    match old with
    | some (.map base) => .map (_merge base overlay)
    | _ => .map overlay
  | value => value

/-- One turn of the loop of `_merge`. -/
def merge_item (base : YamlItems) : YamlKey × Yaml → YamlItems
  | (key, value) => Dict.setItem key (merge_value (base.lookup key) value) base

/-- `_merge(base, overlay)`, one item of the overlay after another. -/
def _merge (base : YamlItems) : YamlItems → YamlItems
  | [] => base
  | e :: overlay => _merge (merge_item base e) overlay

end

/-- The same function, of the logging configuration. -/
def _deep_merge (base override : YamlItems) : YamlItems := _merge base override

/-- The exception of `part not in v`, `v[part] = {}` or `v[part]`, for a value that is no dictionary. -/
def through_error (v : Yaml) (part : String) : String :=
  match v with
  | .str s =>
    if part.toList <:+: s.toList then "string indices must be integers, not 'str'"
    else "'str' object does not support item assignment"
  | .seq _ => "list indices must be integers or slices, not str"
  | .bytes _ => "a bytes-like object is required, not 'str'"
  | .set items =>
    if .str part ∈ items then "'set' object is not subscriptable"
    else "'set' object does not support item assignment"
  | v => "argument of type '" ++ v.type_name ++ "' is not iterable"

/-- The exception of `v[key] = x`. -/
def assign_error : Yaml → String
  | .seq _ => "list indices must be integers or slices, not str"
  | v => "'" ++ v.type_name ++ "' object does not support item assignment"

/-- The value that a variable stands for. -/
def convert (val : String) : Except String Yaml :=
  if lower val = "true" ∨ lower val = "false" then .ok (.bool (lower val = "true"))
  else if isdigit val.toList then (int val.toList).map fun n => .int n
  else .ok (.str val)

/-- The loop over `parts[:-1]` from a target, and the assignment to `parts[-1]`. The dictionaries that are
missing are created, also if the assignment raises. -/
def assign_parts (val : String) (target : Yaml) : List String → Yaml × Except String Unit
  | [] => (target, .ok ())
  | [key_part] =>
    match convert val with
    | .error e => (target, .error e)
    | .ok c =>
      match target with
      | .map items => (.map (Dict.setItem (.str key_part) c items), .ok ())
      | v => (target, .error (assign_error v))
  | part :: parts =>
    match target with
    | .map items =>
      let child := assign_parts val ((items.lookup (.str part)).getD (.map [])) parts
      (.map (Dict.setItem (.str part) child.1 items), child.2)
    | v => (target, .error (through_error v part))

/-! ## A copy of the defaults -/

/-- What a key of a copy is bound to: the object that the copied dictionary has, or one of its own. -/
inductive Entry where
  | shared
  | own (v : Yaml)

/-- A dictionary that was copied from `original`. -/
structure Copy where
  original : YamlItems
  items : List (YamlKey × Entry)

namespace Copy

/-- `dict(original)` -/
def of (original : YamlItems) : Copy := ⟨original, original.map fun e => (e.1, .shared)⟩

variable (self : Copy)

/-- The value of an entry. -/
def resolve (key : YamlKey) : Entry → Yaml
  | .shared => (self.original.lookup key).getD .null
  | .own v => v

/-- The items of the copy. -/
def value : YamlItems := self.items.map fun e => (e.1, self.resolve e.1 e.2)

/-- `data[key] = v` -/
def assign (key : YamlKey) (v : Yaml) : Copy := { self with items := Dict.setItem key (.own v) self.items }

/-- The object `data[key]` changes to `v` in its place. -/
def change (key : YamlKey) (v : Yaml) : Copy :=
  match self.items.lookup key with
  | some .shared => { self with original := Dict.setItem key v self.original }
  | _ => self.assign key v

/-- One turn of the loop of `_merge` on the copy. -/
def merge_entry (e : YamlKey × Yaml) : Copy :=
  match self.value.lookup e.1, e.2 with
  | some (.map base), .map overlay => self.change e.1 (.map (_merge base overlay))
  | _, v => self.assign e.1 v

/-- `_merge(data, overlay)` -/
def merge (overlay : YamlItems) : Copy := overlay.foldl merge_entry self

/-- One turn of the loop of `_env_override`. -/
def env_step (parts : List String) (val : String) : Copy × Except String Unit :=
  match parts with
  | [] => (self, .ok ())
  | [key_part] =>
    match convert val with
    | .error e => (self, .error e)
    | .ok c => (self.assign (.str key_part) c, .ok ())
  | part :: parts =>
    let child := assign_parts val ((self.value.lookup (.str part)).getD (.map [])) parts
    (self.change (.str part) child.1, child.2)

/-! ### The value of a copy -/

variable {self} {k k' : YamlKey} {v : Yaml}

theorem lookup_value : self.value.lookup k = (self.items.lookup k).map (self.resolve k) := by
  unfold value
  induction self.items with
  | nil => rfl
  | cons e items ih =>
    rw [List.map_cons, Dict.lookup_cons_eq, Dict.lookup_cons_eq, ih]
    by_cases h : k = e.1
    · rw [if_pos h, if_pos h, h]
      rfl
    · rw [if_neg h, if_neg h]

@[simp] theorem lookup_value_assign :
    (self.assign k v).value.lookup k' = if k' = k then some v else self.value.lookup k' := by
  rw [lookup_value, lookup_value, assign, Dict.lookup_setItem]
  by_cases h : k' = k
  · rw [if_pos h, if_pos h]
    rfl
  · rw [if_neg h, if_neg h]
    rfl

/-- A change in place is seen as an assignment, whoever has the object. -/
@[simp] theorem lookup_value_change :
    (self.change k v).value.lookup k' = if k' = k then some v else self.value.lookup k' := by
  unfold change
  split
  · rename_i hshared
    rw [lookup_value, lookup_value]
    dsimp only
    by_cases h : k' = k
    · rw [if_pos h, h, hshared, Option.map_some, resolve, Dict.lookup_setItem, if_pos rfl]
      rfl
    · rw [if_neg h]
      cases self.items.lookup k' with
      | none => rfl
      | some entry =>
        cases entry with
        | own v => rfl
        | shared =>
          rw [Option.map_some, Option.map_some, resolve, resolve, Dict.lookup_setItem, if_neg h]
  · exact lookup_value_assign

theorem lookup_value_merge_entry (e : YamlKey × Yaml) :
    (self.merge_entry e).value.lookup k' = (merge_item self.value e).lookup k' := by
  obtain ⟨k, v⟩ := e
  rw [merge_item, Dict.lookup_setItem]
  unfold merge_entry
  split
  · rename_i base overlay hbase hv
    dsimp only at hbase hv
    rw [lookup_value_change, hv, hbase, merge_value]
  · rename_i hother
    rw [lookup_value_assign]
    cases v with
    | map overlay =>
      rw [merge_value]
      exact fun base hbase => hother base overlay hbase rfl
    | _ => rfl

/-- What is shared with the defaults are their own values. -/
theorem lookup_of_shared (hshared : self.items.lookup k = some .shared) (h : self.value.lookup k = some v)
    (hv : v ≠ .null) : self.original.lookup k = some v := by
  rw [lookup_value, hshared, Option.map_some, Option.some.injEq, resolve] at h
  cases horiginal : self.original.lookup k with
  | none =>
    rw [horiginal] at h
    exact absurd h.symm hv
  | some w =>
    rw [horiginal] at h
    exact congrArg some h

end Copy

/-! ## `AQAPConfig` -/

def ENV_PREFIX : List Char := "AQAP_".toList

/-- `key[len(prefix):].lower().split("_")` -/
def parts (key : String) : List String :=
  ((lower (String.ofList (key.toList.drop ENV_PREFIX.length))).toList.splitOn '_').map String.ofList

/-- `_env_override`: the variables in the order of the environment, up to the first that raises. -/
def _env_override (data : Copy) : List (String × String) → Copy × Except String Unit
  | [] => (data, .ok ())
  | (key, val) :: environ =>
    if ENV_PREFIX.isPrefixOf key.toList then
      match data.env_step (parts key) val with
      | (data, .error e) => (data, .error e)
      | (data, .ok ()) => _env_override data environ
    else _env_override data environ

theorem env_override_cons (data : Copy) (key val : String) (environ : List (String × String)) :
    _env_override data ((key, val) :: environ) =
      if ENV_PREFIX.isPrefixOf key.toList then
        match data.env_step (parts key) val with
        | (data, .error e) => (data, .error e)
        | (data, .ok ()) => _env_override data environ
      else _env_override data environ := rfl

/-- What a configuration is loaded from: the result of reading the file, if it exists, and the
environment. -/
structure Source where
  file : Option (Except String Yaml)
  environ : List (String × String)

/-- `_load`, with the defaults that the class has. -/
def _load (defaults : YamlItems) (source : Source) : Copy × Except String Unit :=
  match source.file with
  | none => _env_override (.of defaults) source.environ
  | some (.error e) => (.of defaults, .error e)
  | some (.ok user_cfg) =>
    if user_cfg.truthy then
      match user_cfg with
      | .map overlay => _env_override ((Copy.of defaults).merge overlay) source.environ
      | v => (.of defaults, .error ("'" ++ v.type_name ++ "' object has no attribute 'items'"))
    else _env_override (.of defaults) source.environ

/-- `get(*keys)`, with `default=None` -/
def get (data : Yaml) : List String → Yaml
  | [] => data
  | k :: keys =>
    match data with
    | .map items => get ((items.lookup (.str k)).getD .null) keys
    | _ => .null

def DEFAULTS : YamlItems := [
  (.str "app", .map [
    (.str "name", .str "Agent Quality Assurance"),
    (.str "version", .str "1.0.0"),
    (.str "debug", .bool false)]),
  (.str "logging", .map [
    (.str "level", .str "DEBUG"),
    (.str "format", .str "detailed"),
    (.str "loggers", .map [])]),
  (.str "transport", .map [
    (.str "backend", .str "redis-streams"),
    (.str "redis_url", .str "redis://127.0.0.1:6379"),
    (.str "kafka_servers", .str "127.0.0.1:9092")]),
  (.str "security", .map [
    (.str "enabled", .bool false),
    (.str "secret", .str "")]),
  (.str "agents", .map []),
  (.str "plugins", .map []),
  (.str "supervisor", .map [
    (.str "heartbeat_timeout", .int 90)])]

/-! ## `setup_logging` -/

/-- `key in v` -/
def contains (v : Yaml) (key : String) : Except String Bool :=
  match v with
  | .map items => .ok (items.lookup (.str key)).isSome
  | .seq items => .ok (items.any fun item =>
      match item with
      | .str s => s == key
      | _ => false)
  | .str s => .ok (key.toList <:+: s.toList)
  | .bytes _ => .error "a bytes-like object is required, not 'str'"
  | .set items => .ok (items.contains (.str key))
  | v => .error ("argument of type '" ++ v.type_name ++ "' is not iterable")

/-- `v[k₁]…[kₙ]["level"] = "DEBUG"` -/
def set_level (v : Yaml) : List String → Except String Yaml
  | [] =>
    match v with
    | .map items => .ok (.map (Dict.setItem (.str "level") (.str "DEBUG") items))
    | v => .error (assign_error v)
  | k :: keys =>
    match v with
    | .map items =>
      match items.lookup (.str k) with
      | some child => (set_level child keys).map fun child => .map (Dict.setItem (.str k) child items)
      | none => .error ("'" ++ k ++ "'")
    | v => .error (through_error v k)

/-- The level of `cfg[key]…` is set, if the condition holds. -/
def Copy.debug_level (cfg : Copy) (key : String) (keys : List String) : Copy × Except String Unit :=
  match cfg.value.lookup (.str key) with
  | none => (cfg, .ok ())
  | some v =>
    match set_level v keys with
    | .error e => (cfg, .error e)
    | .ok v => (cfg.change (.str key) v, .ok ())

/-- `if debug: …` -/
def set_debug (cfg : Copy) : Copy × Except String Unit :=
  match (cfg.value.lookup (.str "loggers")).elim (.ok false) fun v => contains v "aqap" with
  | .error e => (cfg, .error e)
  | .ok false => cfg.debug_level "root" []
  | .ok true =>
    match cfg.debug_level "loggers" ["aqap"] with
    | (cfg, .error e) => (cfg, .error e)
    | (cfg, .ok ()) => cfg.debug_level "root" []

/-- The arguments of `setup_logging`. -/
structure Setup where
  debug : Bool
  config : Option (Dict YamlKey Yaml)

/-- `setup_logging`, up to the call of `dictConfig` on the copy. An empty `config` is the same as none. -/
def setup_logging (defaults : YamlItems) (setup : Setup) : Copy × Except String Unit :=
  let cfg := (Copy.of defaults).merge (setup.config.getD .empty).items
  if setup.debug then set_debug cfg else (cfg, .ok ())

def DEFAULT_LOGGING_CONFIG : YamlItems := [
  (.str "version", .int 1),
  (.str "disable_existing_loggers", .bool false),
  (.str "formatters", .map [
    (.str "standard", .map [
      (.str "format", .str "%(asctime)s [%(levelname)s] %(name)s: %(message)s"),
      (.str "datefmt", .str "%Y-%m-%d %H:%M:%S")]),
    (.str "detailed", .map [
      (.str "format", .str ("%(asctime)s.%(msecs)03d [%(levelname)-5s] " ++
        "%(name)s (%(filename)s:%(lineno)d): %(message)s")),
      (.str "datefmt", .str "%Y-%m-%d %H:%M:%S")])]),
  (.str "handlers", .map [
    (.str "console", .map [
      (.str "class", .str "logging.StreamHandler"),
      (.str "level", .str "DEBUG"),
      (.str "formatter", .str "detailed"),
      (.str "stream", .str "ext://sys.stderr")])]),
  (.str "root", .map [
    (.str "level", .str "INFO"),
    (.str "handlers", .seq [.str "console"])]),
  (.str "loggers", .map [
    (.str "aqap", .map [
      (.str "level", .str "DEBUG"),
      (.str "handlers", .seq [.str "console"]),
      (.str "propagate", .bool false)])])]

end Aqap.Config
