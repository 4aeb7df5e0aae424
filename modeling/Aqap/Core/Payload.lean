import Aqap.Core.Validate
import Aqap.Py.Dict

/-!
# Payloads as dictionaries

The agents take a payload for a dictionary. After decryption it may be any JSON value, on which the
methods of a dictionary raise.
-/

namespace Aqap.Core.Payload

open Py

/-- `v.get(key, default)` -/
def get (v : Json) (key : String) (default : Json) : Except String Json :=
  match v with
  | .obj fields => .ok ((fields.lookup key).getD default)
  | v => .error (no_attribute v "get")

/-- `v.copy()` -/
def copy (v : Json) : Except String Json :=
  match v with
  | .obj fields => .ok (.obj fields)
  | .arr items => .ok (.arr items)
  | v => .error (no_attribute v "copy")

/-- `v[key] = x` -/
def set (v : Json) (key : String) (x : Json) : Except String Json :=
  match v with
  | .obj fields => .ok (.obj (Dict.setItem key x fields))
  | .arr _ => .error "list indices must be integers or slices, not str"
  | v => .error ("'" ++ v.type_name ++ "' object does not support item assignment")

end Aqap.Core.Payload
