import Mathlib.Data.List.Basic
import Mathlib.Data.Prod.Lex
import Mathlib.Data.String.Basic

/-!
# Decimal numbers as strings

How the order of strings, which is that of their characters from the left, compares with the order of the
numbers they stand for: they agree on numbers with the same count of digits (`value_lt_iff`), and so they
do on dotted lists of such numbers (`precedence_le_of_text_le`).
-/

namespace Rust.Decimal

/-- A string of ASCII digits. -/
def Digits (s : List Char) : Prop := ∀ c ∈ s, 48 ≤ c.toNat ∧ c.toNat ≤ 57

/-- The number that the digits stand for after `n`. -/
def valueFrom (n : Nat) (s : List Char) : Nat := s.foldl (fun n c => 10 * n + (c.toNat - 48)) n

/-- The number that the digits stand for. -/
def value (s : List Char) : Nat := valueFrom 0 s

/-- What was smaller before equally many digits is smaller after them. -/
theorem valueFrom_lt_of_lt {n n' : Nat} {s s' : List Char} (hn : n < n') (hs : Digits s)
    (hlen : s.length = s'.length) : valueFrom n s < valueFrom n' s' := by
  induction s generalizing n n' s' with
  | nil =>
    obtain rfl := List.eq_nil_of_length_eq_zero hlen.symm
    exact hn
  | cons c s ih =>
    obtain ⟨c', s', rfl⟩ := List.exists_cons_of_length_eq_add_one hlen.symm
    obtain ⟨hc, hs⟩ := List.forall_mem_cons.mp hs
    have hfirst : 10 * n + (c.toNat - 48) < 10 * n' + (c'.toNat - 48) := by omega
    show valueFrom (10 * n + (c.toNat - 48)) s < valueFrom (10 * n' + (c'.toNat - 48)) s'
    rw [List.length_cons, List.length_cons, Nat.add_right_cancel_iff] at hlen
    exact ih hfirst hs hlen

theorem valueFrom_lt_iff {n : Nat} {s s' : List Char} (hs : Digits s) (hs' : Digits s')
    (hlen : s.length = s'.length) : valueFrom n s < valueFrom n s' ↔ s < s' := by
  induction s generalizing n s' with
  | nil =>
    obtain rfl := List.eq_nil_of_length_eq_zero hlen.symm
    simp
  | cons c s ih =>
    obtain ⟨c', s', rfl⟩ := List.exists_cons_of_length_eq_add_one hlen.symm
    obtain ⟨hc, hrest⟩ := List.forall_mem_cons.mp hs
    obtain ⟨hc', hrest'⟩ := List.forall_mem_cons.mp hs'
    rw [List.length_cons, List.length_cons, Nat.add_right_cancel_iff] at hlen
    rw [List.cons_lt_cons_iff]
    show valueFrom (10 * n + (c.toNat - 48)) s < valueFrom (10 * n + (c'.toNat - 48)) s' ↔ _
    obtain hlt | heq | hgt := lt_trichotomy c.toNat c'.toNat
    · have hfirst : c < c' := hlt
      exact iff_of_true (valueFrom_lt_of_lt (by omega) hrest hlen) (.inl hfirst)
    · obtain rfl : c = c' := Char.toNat_inj.mp heq
      rw [ih hrest hrest' hlen]
      simp
    · have hback : valueFrom (10 * n + (c'.toNat - 48)) s' < valueFrom (10 * n + (c.toNat - 48)) s :=
        valueFrom_lt_of_lt (by omega) hrest' hlen.symm
      refine iff_of_false (Nat.lt_asymm hback) ?_
      rintro (hlt | ⟨rfl, -⟩)
      · exact Nat.lt_asymm hgt hlt
      · exact Nat.lt_irrefl _ hgt

/-- Numbers of the same length are ordered as their digits. -/
theorem value_lt_iff {s s' : List Char} (hs : Digits s) (hs' : Digits s') (hlen : s.length = s'.length) :
    value s < value s' ↔ s < s' :=
  valueFrom_lt_iff hs hs' hlen

theorem value_inj {s s' : List Char} (hs : Digits s) (hs' : Digits s') (hlen : s.length = s'.length) :
    value s = value s' ↔ s = s' := by
  constructor
  · intro h
    obtain hlt | heq | hgt := lt_trichotomy s s'
    · exact absurd ((value_lt_iff hs hs' hlen).mpr hlt) (by omega)
    · exact heq
    · exact absurd ((value_lt_iff hs' hs hlen.symm).mpr hgt) (by omega)
  · rintro rfl
    rfl

/-- The order of lists that start with parts of the same length. -/
theorem append_lt_append_iff {s s' t t' : List Char} (hlen : s.length = s'.length) :
    s ++ t < s' ++ t' ↔ s < s' ∨ s = s' ∧ t < t' := by
  induction s generalizing s' with
  | nil =>
    obtain rfl := List.eq_nil_of_length_eq_zero hlen.symm
    simp
  | cons c s ih =>
    obtain ⟨c', s', rfl⟩ := List.exists_cons_of_length_eq_add_one hlen.symm
    rw [List.length_cons, List.length_cons, Nat.add_right_cancel_iff] at hlen
    rw [List.cons_append, List.cons_append, List.cons_lt_cons_iff, List.cons_lt_cons_iff, ih hlen,
      List.cons.injEq]
    tauto

/-- What stands before the first dot, and what after it. -/
theorem append_dot_inj {s s' t t' : List Char} (hs : Digits s) (hs' : Digits s') :
    s ++ '.' :: t = s' ++ '.' :: t' ↔ s = s' ∧ t = t' := by
  have hdot : ∀ {s : List Char}, Digits s → '.' ∉ s := fun h hmem => absurd (h _ hmem) (by decide)
  constructor
  · intro h
    induction s generalizing s' with
    | nil =>
      cases s' with
      | nil => exact ⟨rfl, List.tail_eq_of_cons_eq h⟩
      | cons c s' =>
        obtain ⟨rfl, -⟩ := List.cons.inj h
        exact absurd List.mem_cons_self (hdot hs')
    | cons c s ih =>
      cases s' with
      | nil =>
        obtain ⟨rfl, -⟩ := List.cons.inj h
        exact absurd List.mem_cons_self (hdot hs)
      | cons c' s' =>
        obtain ⟨rfl, hrest⟩ := List.cons.inj h
        obtain ⟨rfl, ht⟩ := ih (List.forall_mem_cons.mp hs).2 (List.forall_mem_cons.mp hs').2 hrest
        exact ⟨rfl, ht⟩
  · rintro ⟨rfl, rfl⟩
    rfl

/-! ## Versions -/

/-- MAJOR.MINOR.PATCH -/
structure Version where
  major : List Char
  minor : List Char
  patch : List Char

namespace Version

def text (v : Version) : String :=
  String.ofList (v.major ++ '.' :: (v.minor ++ '.' :: v.patch))

/-- Each part is a number. -/
structure Valid (v : Version) : Prop where
  major : v.major ≠ [] ∧ Digits v.major
  minor : v.minor ≠ [] ∧ Digits v.minor
  patch : v.patch ≠ [] ∧ Digits v.patch

/-- The numbers, the first one first. -/
def precedence (v : Version) : Nat ×ₗ Nat ×ₗ Nat :=
  toLex (value v.major, toLex (value v.minor, value v.patch))

/-- The parts have the same lengths. -/
structure SameWidth (v w : Version) : Prop where
  major : v.major.length = w.major.length
  minor : v.minor.length = w.minor.length
  patch : v.patch.length = w.patch.length

/-- Versions with parts of the same lengths are ordered as their texts. -/
theorem precedence_lt_iff {v w : Version} (hv : v.Valid) (hw : w.Valid) (h : SameWidth v w) :
    v.precedence < w.precedence ↔ v.text < w.text := by
  rw [String.lt_iff_toList_lt]
  unfold text precedence
  rw [String.toList_ofList, String.toList_ofList, append_lt_append_iff h.major, Prod.Lex.toLex_lt_toLex,
    Prod.Lex.toLex_lt_toLex, value_lt_iff hv.major.2 hw.major.2 h.major,
    value_inj hv.major.2 hw.major.2 h.major, value_lt_iff hv.minor.2 hw.minor.2 h.minor,
    value_inj hv.minor.2 hw.minor.2 h.minor, value_lt_iff hv.patch.2 hw.patch.2 h.patch,
    List.cons_lt_cons_iff, append_lt_append_iff h.minor, List.cons_lt_cons_iff]
  simp

/-- A text is that of one version. -/
theorem text_inj {v w : Version} (hv : v.Valid) (hw : w.Valid) (h : v.text = w.text) : v = w := by
  have hlist := String.ofList_injective h
  obtain ⟨hmajor, hrest⟩ := (append_dot_inj hv.major.2 hw.major.2).mp hlist
  obtain ⟨hminor, hpatch⟩ := (append_dot_inj hv.minor.2 hw.minor.2).mp hrest
  obtain ⟨major, minor, patch⟩ := v
  obtain ⟨major', minor', patch'⟩ := w
  rw [Version.mk.injEq]
  exact ⟨hmajor, hminor, hpatch⟩

theorem precedence_le_of_text_le {v w : Version} (hv : v.Valid) (hw : w.Valid) (h : SameWidth v w)
    (hle : v.text ≤ w.text) : v.precedence ≤ w.precedence := by
  have hwidth : SameWidth w v := ⟨h.major.symm, h.minor.symm, h.patch.symm⟩
  rw [← not_lt, precedence_lt_iff hw hv hwidth, not_lt]
  exact hle

end Version

end Rust.Decimal
