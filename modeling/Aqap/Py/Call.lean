import Mathlib.Tactic.Common

/-!
# Python calls

How the arguments of a call are bound to the parameters of a function: by position, by keyword, or to the
default.

* `bind_arguments_unexpected`: a keyword that names no parameter raises.
-/

namespace Py

variable {α : Type}

/-- The parameters from left to right; a parameter without a default has to be given. -/
def bind_params (kwargs : List (String × α)) :
    List (String × Option α) → List α → Except String (List α)
  | [], [] => .ok []
  | [], _ :: _ => .error "too many positional arguments"
  | (name, _) :: params, arg :: args =>
    if (kwargs.lookup name).isSome then .error ("got multiple values for argument '" ++ name ++ "'")
    else (bind_params kwargs params args).map (arg :: ·)
  | (name, default) :: params, [] =>
    match (kwargs.lookup name).or default with
    | some arg => (bind_params kwargs params []).map (arg :: ·)
    | none => .error ("missing a required argument: '" ++ name ++ "'")

/-- `f(*args, **kwargs)`: the values of the parameters of `f`, or the text of a `TypeError`. -/
def bind_arguments (params : List (String × Option α)) (args : List α) (kwargs : List (String × α)) :
    Except String (List α) :=
  match kwargs.find? fun kwarg => (params.lookup kwarg.1).isNone with
  | some kwarg => .error ("got an unexpected keyword argument '" ++ kwarg.1 ++ "'")
  | none => bind_params kwargs params args

/-- A keyword that names no parameter raises, whatever else is given. -/
theorem bind_arguments_unexpected {params : List (String × Option α)} {args : List α}
    {kwargs : List (String × α)} {kwarg : String × α} (hmem : kwarg ∈ kwargs)
    (hname : params.lookup kwarg.1 = none) : ∃ e, bind_arguments params args kwargs = .error e := by
  unfold bind_arguments
  cases hfind : kwargs.find? fun kwarg => (params.lookup kwarg.1).isNone with
  | some k => exact ⟨_, rfl⟩
  | none =>
    have hnone := List.find?_eq_none.mp hfind kwarg hmem
    rw [hname] at hnone
    exact absurd rfl hnone

end Py
