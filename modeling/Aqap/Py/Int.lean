import Aqap.Py.Str

/-!
# `int(s)` and `s.strip()`

The integer literals that `int` accepts: white space around it, a sign, and the decimal digits of any script
with single underscores between them.
-/

namespace Py

/-- Of the separators of ASCII, `int` knows none. -/
def int_space (c : Char) : Bool := isspace c && !(0x1c ≤ c.toNat && c.toNat ≤ 0x1f)

/-- What the text of the `ValueError` says. -/
inductive IntError where
  | invalid_literal (s : List Char)
  | too_many_digits (count : Nat)
  deriving DecidableEq

/-- Whether there is a minus, and the rest. -/
def sign : List Char → Bool × List Char
  | '+' :: s => (false, s)
  | '-' :: s => (true, s)
  | s => (false, s)

def in_numeral (c : Char) : Bool := c == '_' || (decimal c).isSome

/-- `int(s)` -/
def int_of (s : List Char) : Except IntError Int :=
  let (neg, rest) := sign (s.dropWhile int_space)
  let numeral := rest.takeWhile in_numeral
  let digits := numeral.filter (· ≠ '_')
  if (numeral.splitOn '_').any List.isEmpty then .error (.invalid_literal s)
  else if int_max_str_digits < digits.length then .error (.too_many_digits digits.length)
  else if (rest.dropWhile in_numeral).all int_space then
    let value : Nat := digits.foldl (fun n c => 10 * n + (decimal c).getD 0) 0
    .ok (if neg then -value else value)
  else .error (.invalid_literal s)

/-- `s.strip()` -/
def strip (s : List Char) : List Char := ((s.dropWhile isspace).reverse.dropWhile isspace).reverse

end Py
