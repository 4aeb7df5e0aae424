import Mathlib.Data.List.Basic

/-!
# Methods of `bytes`

`b.find(part)`, and `b.decode(errors="replace")`: a sequence that is no character of UTF-8 is replaced as far as
it is the beginning of one.

* `find_append`, `find_of_append`, `find_of_short`: the first occurrence does not depend on what follows it.
-/

namespace Py.Bytes

section

variable {α : Type} [DecidableEq α]

/-- `data.find(part)`; `none` is `-1`. -/
def find (part : List α) : List α → Option Nat
  | [] => if part = [] then some 0 else none
  | a :: data => if part <+: a :: data then some 0 else (find part data).map (· + 1)

theorem find_eq_zero {part : List α} {data : List α} (h : part <+: data) : find part data = some 0 := by
  cases data with
  | nil => rw [find, if_pos (List.prefix_nil.mp h)]
  | cons a data => rw [find, if_pos h]

/-- Where it is found, it is. -/
theorem prefix_of_find {part data : List α} {i : Nat} (h : find part data = some i) : part <+: data.drop i := by
  induction data generalizing i with
  | nil =>
    obtain ⟨hpart, -⟩ := Option.ite_none_right_eq_some.mp h
    exact hpart ▸ List.nil_prefix
  | cons a data ih =>
    rw [find] at h
    by_cases hbegins : part <+: a :: data
    · rw [if_pos hbegins] at h
      cases h
      exact hbegins
    · rw [if_neg hbegins, Option.map_eq_some_iff] at h
      obtain ⟨j, hj, rfl⟩ := h
      exact ih hj

theorem le_length_of_find {part data : List α} {i : Nat} (hpart : part ≠ []) (h : find part data = some i) :
    i + part.length ≤ data.length := by
  have hle := (prefix_of_find h).length_le
  have hpos := List.length_pos_iff.mpr hpart
  rw [List.length_drop] at hle
  omega

theorem find_append {part data : List α} {i : Nat} (h : find part data = some i) (rest : List α) :
    find part (data ++ rest) = some i := by
  induction data generalizing i with
  | nil =>
    obtain ⟨rfl, hi⟩ := Option.ite_none_right_eq_some.mp h
    rw [find_eq_zero List.nil_prefix, ← hi]
  | cons a data ih =>
    rw [find] at h
    show (if part <+: a :: (data ++ rest) then some 0 else (find part (data ++ rest)).map (· + 1)) = some i
    by_cases hbegins : part <+: a :: data
    · rw [if_pos hbegins] at h
      rw [if_pos (show part <+: a :: (data ++ rest) from hbegins.trans (List.prefix_append (a :: data) rest)), h]
    · rw [if_neg hbegins, Option.map_eq_some_iff] at h
      obtain ⟨j, hj, rfl⟩ := h
      have hnot : ¬ part <+: a :: (data ++ rest) := by
        intro hfull
        refine hbegins (List.prefix_of_prefix_length_le hfull (List.prefix_append (a :: data) rest) ?_)
        have hle := (prefix_of_find hj).length_le
        rw [List.length_drop] at hle
        rw [List.length_cons]
        omega
      rw [if_neg hnot, ih hj]
      rfl

/-- Too little was received for the occurrence. -/
theorem find_of_short {part data rest : List α} {i : Nat} (hpart : part ≠ []) (h : find part (data ++ rest) = some i)
    (hshort : data.length < i + part.length) : find part data = none := by
  cases hfind : find part data with
  | none => rfl
  | some j =>
    have hsame : some j = some i := (find_append hfind rest).symm.trans h
    have hle := le_length_of_find hpart hfind
    rw [Option.some.inj hsame] at hle
    omega

theorem find_of_append {part data rest : List α} {i : Nat} (h : find part (data ++ rest) = some i)
    (hle : i + part.length ≤ data.length) : find part data = some i := by
  induction data generalizing i with
  | nil =>
    obtain ⟨hi, hpart⟩ : i = 0 ∧ part.length = 0 := by
      rw [List.length_nil] at hle
      omega
    rw [hi, List.length_eq_zero_iff.mp hpart]
    rfl
  | cons a data ih =>
    have h : (if part <+: a :: (data ++ rest) then some 0 else (find part (data ++ rest)).map (· + 1)) = some i := h
    rw [find]
    by_cases hbegins : part <+: a :: (data ++ rest)
    · rw [if_pos hbegins] at h
      cases h
      have hlength : part.length ≤ (a :: data).length := by omega
      rw [if_pos (List.prefix_of_prefix_length_le hbegins (List.prefix_append (a :: data) rest) hlength)]
    · rw [if_neg hbegins, Option.map_eq_some_iff] at h
      obtain ⟨j, hj, rfl⟩ := h
      have hnot : ¬ part <+: a :: data := fun hpart => hbegins (hpart.trans (List.prefix_append (a :: data) rest))
      rw [List.length_cons] at hle
      rw [if_neg hnot, ih hj (by omega)]
      rfl

end


def REPLACEMENT : Char := '\uFFFD'

/-- A character that has begun: its first byte if that is the last one read, how many bytes are missing, and the
bits so far. -/
structure Begun where
  lead : Option UInt8
  missing : Nat
  bits : Nat

/-- What a byte is where a character can begin. -/
def begin_char (b : UInt8) : List Char × Option Begun :=
  if b < 0x80 then ([Char.ofNat b.toNat], none)
  else if 0xc2 ≤ b ∧ b ≤ 0xdf then ([], some ⟨some b, 1, b.toNat - 0xc0⟩)
  else if 0xe0 ≤ b ∧ b ≤ 0xef then ([], some ⟨some b, 2, b.toNat - 0xe0⟩)
  else if 0xf0 ≤ b ∧ b ≤ 0xf4 then ([], some ⟨some b, 3, b.toNat - 0xf0⟩)
  else ([REPLACEMENT], none)

/-- Whether the character can go on with the byte. A surrogate, a character behind the last one and one that has
a shorter form end with the first byte. -/
def Begun.accepts (begun : Begun) (b : UInt8) : Bool :=
  let continuation := 0x80 ≤ b && b ≤ 0xbf
  match begun.lead with
  | some 0xe0 => continuation && 0xa0 ≤ b
  | some 0xed => continuation && b < 0xa0
  | some 0xf0 => continuation && 0x90 ≤ b
  | some 0xf4 => continuation && b < 0x90
  | _ => continuation

def decode_from : Option Begun → List UInt8 → List Char
  | none, [] => []
  | some _, [] => [REPLACEMENT]
  | none, b :: bytes =>
    let (chars, begun) := begin_char b
    chars ++ decode_from begun bytes
  | some begun, b :: bytes =>
    if begun.accepts b then
      let bits := begun.bits * 64 + (b.toNat - 0x80)
      if begun.missing = 1 then Char.ofNat bits :: decode_from none bytes
      else decode_from (some ⟨none, begun.missing - 1, bits⟩) bytes
    else
      let (chars, next) := begin_char b
      REPLACEMENT :: chars ++ decode_from next bytes

/-- `bytes.decode(errors="replace")` -/
def decode_replace (bytes : List UInt8) : List Char := decode_from none bytes

end Py.Bytes
