import Mathlib.Data.Rat.Defs

/-!
# JSON values as Python objects

`Json` is what `json.loads` returns: `None`, `bool`, `int`, `float`, `str`, `list` and `dict`. The
model has what the agents do with such a value: its truth, its key in a dictionary (`True`, `1` and
`1.0` are one key; a `list` and a `dict` have none), the name of its type and its text.
-/

namespace Py

/-- A `float`: a finite value with a sign, or an infinity. -/
inductive PyFloat where
  | finite (neg : Bool) (magnitude : Rat)
  | inf (neg : Bool)
  deriving DecidableEq

inductive Json where
  | null
  | bool (b : Bool)
  | int (n : Int)
  | float (x : PyFloat)
  | str (s : String)
  | arr (items : List Json)
  | obj (fields : List (String × Json))

namespace Json

/-- `bool(v)`. -/
def truthy : Json → Bool
  | null => false
  | bool b => b
  | int n => n != 0
  | float (.finite _ m) => m != 0
  | float (.inf _) => true
  | str s => s != ""
  | arr items => !items.isEmpty
  | obj fields => !fields.isEmpty

/-- `type(v).__name__`. -/
def type_name : Json → String
  | null => "NoneType"
  | bool _ => "bool"
  | int _ => "int"
  | float _ => "float"
  | str _ => "str"
  | arr _ => "list"
  | obj _ => "dict"

/-- `v == s` for a string `s`. -/
def eq_str (v : Json) (s : String) : Bool :=
  match v with
  | str t => t == s
  | _ => false

/-- `str(v)`; `repr` is the text of a float, a list or a dict. -/
def text (repr : Json → String) : Json → String
  | null => "None"
  | bool b => if b then "True" else "False"
  | int n => toString n
  | str s => s
  | v => repr v

end Json

/-- What a hashable value is as a key of a dictionary; equal numbers are one key. -/
inductive Key where
  | none
  | num (q : Rat)
  | inf (neg : Bool)
  | str (s : String)
  deriving DecidableEq

/-- The key of a value; hashing a list or a dict raises. -/
def Json.key : Json → Except String Key
  | null => .ok .none
  | bool b => .ok (.num (if b then 1 else 0))
  | int n => .ok (.num n)
  | float (.finite neg m) => .ok (.num (if neg then -m else m))
  | float (.inf neg) => .ok (.inf neg)
  | str s => .ok (.str s)
  | arr _ => .error "unhashable type: 'list'"
  | obj _ => .error "unhashable type: 'dict'"

/-- `hash(v)` does not raise. -/
def Json.Hashable : Json → Prop
  | arr _ => False
  | obj _ => False
  | _ => True

theorem Json.key_isOk_iff {v : Json} : (∃ k, v.key = .ok k) ↔ v.Hashable := by
  cases v with
  | float x => cases x <;> simp [Json.key, Json.Hashable]
  | _ => simp [Json.key, Json.Hashable]

/-- What a sequence of steps that raised nothing went through. -/
theorem bind_ok {α β : Type} {x : Except String α} {f : α → Except String β} {b : β}
    (h : x >>= f = .ok b) : ∃ a, x = .ok a ∧ f a = .ok b := by
  cases x with
  | error e => cases h
  | ok a => exact ⟨a, rfl, h⟩

end Py
