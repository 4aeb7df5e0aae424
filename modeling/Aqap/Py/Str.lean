import Mathlib.Tactic.Common

/-!
# Python string methods

What `str.isdigit`, `int`, `str.strip`, `str.split` and `str.upper` do on a string, as a list of
characters; the tables are those of Unicode 14, which Python 3.11 has. A failing function gives the
text of its exception. `Text` is a `bytes` or a `str`.

* `int_isOk_iff`: `int(s)` succeeds on a string of digits exactly if they are decimal digits and not
  more than 4300.
-/

namespace Py

/-- The zeros of the decimal digit blocks; the nine characters after a zero are the other digits. -/
def decimal_zeros : List Nat := [
  0x30, 0x660, 0x6f0, 0x7c0, 0x966, 0x9e6, 0xa66, 0xae6, 0xb66, 0xbe6, 0xc66, 0xce6, 0xd66, 0xde6,
  0xe50, 0xed0, 0xf20, 0x1040, 0x1090, 0x17e0, 0x1810, 0x1946, 0x19d0, 0x1a80, 0x1a90, 0x1b50,
  0x1bb0, 0x1c40, 0x1c50, 0xa620, 0xa8d0, 0xa900, 0xa9d0, 0xa9f0, 0xaa50, 0xabf0, 0xff10, 0x104a0,
  0x10d30, 0x11066, 0x110f0, 0x11136, 0x111d0, 0x112f0, 0x11450, 0x114d0, 0x11650, 0x116c0, 0x11730,
  0x118e0, 0x11950, 0x11c50, 0x11d50, 0x11da0, 0x16a60, 0x16ac0, 0x16b50, 0x1d7ce, 0x1d7d8, 0x1d7e2,
  0x1d7ec, 0x1d7f6, 0x1e140, 0x1e2f0, 0x1e950, 0x1fbf0]

/-- The characters that `isdigit` accepts and `int` does not: superscripts, circled digits and so
on. -/
def other_digits : List (Nat × Nat) := [
  (0xb2, 0xb3), (0xb9, 0xb9), (0x1369, 0x1371), (0x19da, 0x19da), (0x2070, 0x2070), (0x2074, 0x2079),
  (0x2080, 0x2089), (0x2460, 0x2468), (0x2474, 0x247c), (0x2488, 0x2490), (0x24ea, 0x24ea),
  (0x24f5, 0x24fd), (0x24ff, 0x24ff), (0x2776, 0x277e), (0x2780, 0x2788), (0x278a, 0x2792),
  (0x10a40, 0x10a43), (0x10e60, 0x10e68), (0x11052, 0x1105a), (0x1f100, 0x1f10a)]

/-- The value of a decimal digit. -/
def decimal (c : Char) : Option Nat :=
  (decimal_zeros.find? fun z => z ≤ c.toNat ∧ c.toNat < z + 10).map fun z => c.toNat - z

/-- `s.isdigit()`. -/
def isdigit (s : List Char) : Bool :=
  !s.isEmpty && s.all fun c =>
    (decimal c).isSome || other_digits.any fun r => r.1 ≤ c.toNat ∧ c.toNat ≤ r.2

/-- `sys.get_int_max_str_digits()`. -/
def int_max_str_digits : Nat := 4300

/-- `int(s)` on a string that `isdigit` accepts. -/
def int (s : List Char) : Except String Nat :=
  if s.any fun c => (decimal c).isNone then
    .error ("invalid literal for int() with base 10: '" ++ String.ofList s ++ "'")
  else if int_max_str_digits < s.length then
    .error ("Exceeds the limit (4300 digits) for integer string conversion: value has " ++
      toString s.length ++ " digits; use sys.set_int_max_str_digits() to increase the limit")
  else
    .ok (s.foldl (fun n c => 10 * n + (decimal c).getD 0) 0)

/-- `int` succeeds on decimal digits, up to the limit. -/
theorem int_isOk_iff {s : List Char} :
    (∃ n, int s = .ok n) ↔ (∀ c ∈ s, (decimal c).isSome) ∧ s.length ≤ int_max_str_digits := by
  have hany : (s.any fun c => (decimal c).isNone) = true ↔ ¬ ∀ c ∈ s, (decimal c).isSome := by
    rw [List.any_eq_true]
    push Not
    refine exists_congr fun c => and_congr_right fun _ => ?_
    cases decimal c <;> simp
  unfold int
  split
  · rename_i h
    simp [hany.mp h]
  · rename_i h
    have hall : ∀ c ∈ s, (decimal c).isSome := not_not.mp fun hn => h (hany.mpr hn)
    split
    · rename_i hlen
      simp [Nat.not_le.mpr hlen]
    · rename_i hlen
      exact ⟨fun _ => ⟨hall, Nat.not_lt.mp hlen⟩, fun _ => ⟨_, rfl⟩⟩

/-- The characters that `strip` removes. -/
def isspace (c : Char) : Bool :=
  [0x9, 0xa, 0xb, 0xc, 0xd, 0x1c, 0x1d, 0x1e, 0x1f, 0x20, 0x85, 0xa0, 0x1680, 0x2028, 0x2029, 0x202f,
    0x205f, 0x3000].contains c.toNat || (0x2000 ≤ c.toNat && c.toNat ≤ 0x200a)

/-- `not s.strip()`. -/
def is_blank (s : String) : Bool := s.toList.all isspace

/-- `s.split(".")[0] if "." in s else s`: what stands before the first dot. -/
def before_dot (s : String) : List Char := s.toList.takeWhile (· ≠ '.')

/-- `s.upper()`, up to the characters whose upper case is not ASCII: these are left as they are. -/
def upper (s : String) : String :=
  String.ofList (s.toList.flatMap fun c =>
    match c with
    | 'ß' => ['S', 'S']
    | 'ı' => ['I']
    | 'ſ' => ['S']
    | 'ﬀ' => ['F', 'F']
    | 'ﬁ' => ['F', 'I']
    | 'ﬂ' => ['F', 'L']
    | 'ﬃ' => ['F', 'F', 'I']
    | 'ﬄ' => ['F', 'F', 'L']
    | 'ﬅ' => ['S', 'T']
    | 'ﬆ' => ['S', 'T']
    | c => [c.toUpper])

/-- A `bytes` or a `str`. -/
inductive Text where
  | bytes (b : List UInt8)
  | str (s : String)
  deriving DecidableEq

/-- `v.decode() if isinstance(v, bytes) else v`; `none` is a `UnicodeDecodeError`. -/
def Text.decode : Text → Option String
  | bytes b => String.fromUTF8? ⟨b.toArray⟩
  | str s => some s

end Py
