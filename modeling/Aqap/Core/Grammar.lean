import Aqap.Sdk.Message

/-!
# The envelopes of the protocol

`Envelope` is the grammar that `validate_message` checks against: the required fields, their types, and
a version MAJOR.MINOR with the major number one. The checks take a null for a missing field and a false
version for a missing one, look at the first part of the version only, and raise on a major part of more
than 4300 digits.

* `validate_message_iff_envelope`: on which envelopes the validation and the grammar agree.
-/

namespace Aqap.Core

open Py

/-! ## The grammar -/

/-- A number in decimal digits. -/
def Digits (s : List Char) : Prop := s ≠ [] ∧ ∀ c ∈ s, (decimal c).isSome

/-- The value of a number in decimal digits. -/
def number (s : List Char) : Nat := s.foldl (fun n c => 10 * n + (decimal c).getD 0) 0

/-- MAJOR.MINOR with MAJOR equal to one. -/
def VersionText (version : String) : Prop :=
  ∃ major minor, version.toList = major ++ '.' :: minor ∧ Digits major ∧ Digits minor ∧
    number major = 1

/-- What the schema says of each field of an envelope. -/
structure Envelope (data : List (String × Json)) : Prop where
  type : KnownType (data.lookup "type")
  source : ∃ s, data.lookup "source" = some (.str s) ∧ is_blank s = false
  payload : ∃ fields, data.lookup "payload" = some (.obj fields)
  version : ∃ s, data.lookup "version" = some (.str s) ∧ VersionText s
  target : ∀ v, data.lookup "target" = some v → ∃ s, v = .str s
  correlation_id : ∀ v, data.lookup "correlation_id" = some v → ∃ s, v = .str s

/-! ## Versions -/

/-- What stands before the first dot is the number one. -/
def MajorOne (version : String) : Prop :=
  Digits (before_dot version) ∧ number (before_dot version) = 1

/-- What stands after the first dot is a number. -/
def HasMinor (version : String) : Prop :=
  ∃ minor, version.toList = before_dot version ++ '.' :: minor ∧ Digits minor

/-- `int` does not take more digits. -/
def ShortMajor (version : String) : Prop := (before_dot version).length ≤ int_max_str_digits

theorem digits_of_isdigit {s : List Char} (h : isdigit s = true) (hdecimal : ∀ c ∈ s, (decimal c).isSome) :
    Digits s := by
  simp only [isdigit, Bool.and_eq_true, Bool.not_eq_true'] at h
  exact ⟨fun hnil => by simp [hnil] at h, hdecimal⟩

theorem Digits.isdigit {s : List Char} (h : Digits s) : isdigit s = true := by
  simp only [Py.isdigit, Bool.and_eq_true, Bool.not_eq_true', List.all_eq_true, Bool.or_eq_true]
  exact ⟨List.isEmpty_eq_false_iff.mpr h.1, fun c hc => .inl (h.2 c hc)⟩

theorem int_eq_ok_iff {s : List Char} {n : Nat} :
    int s = .ok n ↔ (∀ c ∈ s, (decimal c).isSome) ∧ s.length ≤ int_max_str_digits ∧ number s = n := by
  constructor
  · intro h
    have hok := int_isOk_iff.mp ⟨n, h⟩
    refine ⟨hok.1, hok.2, ?_⟩
    unfold int at h
    split at h
    · cases h
    · split at h
      · cases h
      · exact Except.ok.inj h
  · rintro ⟨hdecimal, hlen, rfl⟩
    have hany : (s.any fun c => (decimal c).isNone) = false := by
      rw [List.any_eq_false]
      intro c hc
      obtain ⟨d, hd⟩ := Option.isSome_iff_exists.mp (hdecimal c hc)
      simp [hd]
    unfold int
    rw [hany, if_neg Bool.false_ne_true, if_neg (Nat.not_lt.mpr hlen)]
    rfl

/-- Which versions pass the check of the code. -/
theorem versionOne_str_iff {s : String} :
    VersionOne (.str s) ↔ s = "" ∨ MajorOne s ∧ ShortMajor s := by
  have hfalse : (Json.str s).truthy = false ↔ s = "" := by simp [Json.truthy]
  unfold VersionOne MajorOne ShortMajor
  rw [hfalse]
  refine or_congr_right ?_
  constructor
  · rintro ⟨_, ⟨⟩, hdigit, hint⟩
    obtain ⟨hdecimal, hlen, hone⟩ := int_eq_ok_iff.mp hint
    exact ⟨⟨digits_of_isdigit hdigit hdecimal, hone⟩, hlen⟩
  · rintro ⟨⟨hdigits, hone⟩, hlen⟩
    exact ⟨s, rfl, hdigits.isdigit, int_eq_ok_iff.mpr ⟨hdigits.2, hlen, hone⟩⟩

/-- A dot is no digit. -/
theorem ne_dot_of_decimal {c : Char} (h : (decimal c).isSome) : c ≠ '.' := by
  rintro rfl
  exact absurd h (by decide)

theorem before_dot_eq {s : String} {major minor : List Char} (h : s.toList = major ++ '.' :: minor)
    (hmajor : ∀ c ∈ major, (decimal c).isSome) : before_dot s = major := by
  have hne : ∀ c ∈ major, decide (c ≠ '.') = true := fun c hc =>
    decide_eq_true (ne_dot_of_decimal (hmajor c hc))
  unfold before_dot
  rw [h, List.takeWhile_append_of_pos hne]
  simp

theorem versionText_iff {s : String} : VersionText s ↔ MajorOne s ∧ HasMinor s := by
  constructor
  · rintro ⟨major, minor, hs, hmajor, hminor, hone⟩
    have hbefore : before_dot s = major := before_dot_eq hs hmajor.2
    exact ⟨⟨hbefore ▸ hmajor, hbefore ▸ hone⟩, minor, hbefore ▸ hs, hminor⟩
  · rintro ⟨⟨hmajor, hone⟩, minor, hs, hminor⟩
    exact ⟨before_dot s, minor, hs, hmajor, hminor, hone⟩

/-! ## Where validation and grammar agree -/

/-- None of these fields is null. -/
def NoNull (data : List (String × Json)) : Prop :=
  ∀ field ∈ ["type", "payload", "target", "correlation_id"], data.lookup field ≠ some .null

/-- Without a null, a field that may be null or a string is a string if it is there. -/
theorem string_of_stringOrNull {val : Option Json} (h : StringOrNull val) (hnull : val ≠ some .null) :
    ∀ v, val = some v → ∃ s, v = .str s := by
  rintro v rfl
  obtain h | h | ⟨s, h⟩ := h
  · cases h
  · exact absurd h hnull
  · exact ⟨s, Option.some.inj h⟩

theorem stringOrNull_of_string {val : Option Json} (h : ∀ v, val = some v → ∃ s, v = .str s) :
    StringOrNull val ∧ val ≠ some .null := by
  cases val with
  | none => exact ⟨.inl rfl, fun hnull => by cases hnull⟩
  | some v =>
    obtain ⟨s, rfl⟩ := h v rfl
    exact ⟨.inr (.inr ⟨s, rfl⟩), fun hnull => by cases hnull⟩

theorem not_knownType_null : ¬ KnownType (some .null) := by
  rintro ⟨s, h, -⟩
  cases h

/-- The grammar is what the validation asks of the other fields, without nulls, and the version. -/
theorem envelope_iff {data : List (String × Json)} :
    Envelope data ↔ Plausible data ∧ NoNull data ∧
      ∃ s, data.lookup "version" = some (.str s) ∧ VersionText s := by
  simp only [NoNull, List.mem_cons, List.not_mem_nil, or_false, forall_eq_or_imp, forall_eq]
  constructor
  · rintro ⟨htype, hsource, ⟨fields, hpayload⟩, ⟨s, hs, hversion⟩, htarget, hcorrelation_id⟩
    obtain ⟨ht, htarget⟩ := stringOrNull_of_string htarget
    obtain ⟨hc, hcorrelation_id⟩ := stringOrNull_of_string hcorrelation_id
    refine ⟨⟨.inr htype, hsource, .inr ⟨fields, hpayload⟩, by rw [hs]; rfl, ht, hc⟩,
      ⟨?_, ?_, htarget, hcorrelation_id⟩, s, hs, hversion⟩
    · intro hnull
      rw [hnull] at htype
      exact not_knownType_null htype
    · rw [hpayload]
      exact fun hnull => by cases hnull
  · rintro ⟨⟨htype, hsource, hpayload, -, ht, hc⟩, ⟨hn₁, hn₂, hn₃, hn₄⟩, hversion⟩
    exact ⟨htype.resolve_left hn₁, hsource, hpayload.resolve_left hn₂, hversion,
      string_of_stringOrNull ht hn₃, string_of_stringOrNull hc hn₄⟩

/-- **When the validation accepts an envelope exactly if the grammar does**: another field is wrong for
both, or the version is no string but true, or its major part is not the number one, or that part has at
most 4300 digits exactly if no field is null and the rest of the version is a number. -/
theorem validate_message_iff_envelope {data : List (String × Json)} :
    (validate_message data = .ok [] ↔ Envelope data) ↔
      ¬ Plausible data ∨ ((data.lookup "version").getD (.str "")).truthy = true ∧
        ∀ s, data.lookup "version" = some (.str s) → MajorOne s →
          (ShortMajor s ↔ NoNull data ∧ HasMinor s) := by
  rw [validate_message_accepts_iff, envelope_iff]
  by_cases hknown : Plausible data
  · obtain ⟨version, hversion⟩ := Option.isSome_iff_exists.mp hknown.version
    simp only [hknown, true_and, not_true_eq_false, false_or, hversion, Option.getD_some,
      Option.some.injEq]
    by_cases hstr : ∃ s, version = .str s
    · obtain ⟨s, rfl⟩ := hstr
      have htruthy : (Json.str s).truthy = true ↔ s ≠ "" := by simp [Json.truthy]
      simp only [Json.str.injEq, exists_eq_left', forall_eq', versionOne_str_iff, versionText_iff, htruthy]
      have hempty : s = "" → ¬ MajorOne s := by
        rintro rfl ⟨⟨hne, -⟩, -⟩
        exact hne rfl
      tauto
    · have hnone : ∀ s, version ≠ .str s := fun s hs => hstr ⟨s, hs⟩
      have hone : VersionOne version ↔ version.truthy = false := by
        unfold VersionOne
        simp [hnone]
      simp [hone, hnone]
  · simp [hknown]

/-- An envelope whose version has no minor part. -/
def major_only : List (String × Json) := [
  ("type", .str "HEARTBEAT"), ("source", .str "agent-1"), ("payload", .obj []), ("version", .str "1")]

/-- The validation accepts a version without a minor part, the grammar does not. -/
theorem major_only_accepted :
    ¬ ∀ data : List (String × Json), validate_message data = .ok [] ↔ Envelope data := by
  intro h
  obtain ⟨s, hs, hversion⟩ := ((h major_only).mp rfl).version
  obtain rfl : "1" = s := Json.str.inj (Option.some.inj hs)
  obtain ⟨minor, hminor, -⟩ := (versionText_iff.mp hversion).2
  have hlen := congrArg List.length hminor
  rw [List.length_append] at hlen
  have hone : "1".toList.length = 1 ∧ (before_dot "1").length = 1 := by decide
  rw [hone.1, hone.2, List.length_cons] at hlen
  omega

end Aqap.Core
