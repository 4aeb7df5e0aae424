import Aqap.Py.Dict
import Aqap.Py.Json

/-!
# YAML values as Python objects

What `yaml.safe_load` returns, as a tree: a mapping lists its items in their order, and a value is found under a
path of keys. That an alias is a second name of a mapping is not seen of a tree; the objects of a document are in
`Aqap.AQAPConfig.Document`.

* `setItem_of_lookup`: an assignment of what is there.
-/

namespace Py

/-- A key of a mapping; those that are no strings are told apart by a number. -/
inductive YamlKey where
  | str (s : String)
  | other (n : Nat)
  deriving DecidableEq

inductive Yaml where
  | null
  | bool (b : Bool)
  | int (n : Int)
  | float (x : PyFloat)
  | str (s : String)
  | bytes (b : List UInt8)
  | set (items : List YamlKey)
  /-- A date, with or without a time, by the name of its type and its text. -/
  | other (type text : String)
  | seq (items : List Yaml)
  | map (items : List (YamlKey × Yaml))

/-- The items of a mapping. -/
abbrev YamlItems := List (YamlKey × Yaml)

namespace Yaml

/-- `bool(v)` -/
def truthy : Yaml → Bool
  | null => false
  | bool b => b
  | int n => n != 0
  | float (.finite _ m) => m != 0
  | float (.inf _) => true
  | str s => s != ""
  | bytes b => !b.isEmpty
  | set items => !items.isEmpty
  | other _ _ => true
  | seq items => !items.isEmpty
  | map items => !items.isEmpty

/-- `type(v).__name__` -/
def type_name : Yaml → String
  | null => "NoneType"
  | bool _ => "bool"
  | int _ => "int"
  | float _ => "float"
  | str _ => "str"
  | bytes _ => "bytes"
  | set _ => "set"
  | other type _ => type
  | seq _ => "list"
  | map _ => "dict"

/-- It is no mapping and no sequence. -/
def isScalar : Yaml → Bool
  | map _ | seq _ => false
  | _ => true

/-- `isinstance(v, dict)` -/
def IsMap (v : Yaml) : Prop := ∃ items, v = map items

instance (v : Yaml) : Decidable v.IsMap :=
  match v with
  | map items => isTrue ⟨items, rfl⟩
  | null => isFalse nofun
  | bool _ => isFalse nofun
  | int _ => isFalse nofun
  | float _ => isFalse nofun
  | str _ => isFalse nofun
  | bytes _ => isFalse nofun
  | set _ => isFalse nofun
  | other _ _ => isFalse nofun
  | seq _ => isFalse nofun

@[simp] theorem isMap_map (items : YamlItems) : (map items).IsMap := ⟨items, rfl⟩

/-- What is under a path of keys. -/
def at_path (v : Yaml) : List YamlKey → Option Yaml
  | [] => some v
  | k :: path =>
    match v with
    | map items => (items.lookup k).bind fun child => child.at_path path
    | _ => none

@[simp] theorem at_path_nil (v : Yaml) : v.at_path [] = some v := rfl

theorem at_path_cons (items : YamlItems) (k : YamlKey) (path : List YamlKey) :
    (map items).at_path (k :: path) = (items.lookup k).bind fun child => child.at_path path := rfl

/-- An assignment of what is there. -/
theorem setItem_of_lookup {items : YamlItems} {k : YamlKey} {v : Yaml} (h : items.lookup k = some v) :
    Dict.setItem k v items = items := by
  induction items with
  | nil => cases h
  | cons e items ih =>
    rw [Dict.lookup_cons_eq] at h
    rw [Dict.setItem]
    by_cases hk : k = e.1
    · rw [if_pos hk, Option.some.injEq] at h
      rw [if_pos hk.symm, ← h]
    · rw [if_neg hk] at h
      rw [if_neg (Ne.symm hk), ih h]

end Yaml

end Py
