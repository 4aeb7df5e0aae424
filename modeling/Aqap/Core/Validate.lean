import Aqap.Core.Message

/-!
# Message validation

`validate_message` returns the list of errors of an envelope. It assumes that the version is a
string: any other value that is true raises, and so does a version whose major part is made of digits
that `int` does not take.

* `validate_message_isOk_iff`: on which versions the validation returns (`VersionReadable`).
* `validate_message_accepts_iff`: which envelopes have no errors.
* `validate_message_eq_nil_iff`: which envelopes with a known type have none (`WellFormed`).
-/

namespace Aqap.Core

open Py

def KNOWN_MESSAGE_TYPES : List String := [
  "UNKNOWN",
  "HEARTBEAT", "REGISTER", "SHUTDOWN",
  "TASK_DISPATCH", "TASK_RESULT",
  "JUDGE_REQUEST", "JUDGE_VERDICT",
  "REPORT_REQUEST", "REPORT_DELIVER",
  "ERROR", "LOG", "PLUGIN_EVENT"]

/-- The required fields that are missing. -/
def missing_errors (data : List (String × Json)) : List String :=
  (["type", "source", "payload", "version"].filter fun field => (data.lookup field).isNone).map
    fun field => "缺少必填字段: " ++ field

/-- The source is a string that is not blank. -/
def source_errors (source : Json) : List String :=
  match source with
  | .str s => if is_blank s then ["source 不能为空"] else []
  | _ => ["source 不能为空"]

/-- The type is a string that names a known type, up to upper case. -/
def type_errors (raw_type : Option Json) : List String :=
  match raw_type with
  | none => []
  | some .null => []
  | some (.str s) =>
    if KNOWN_MESSAGE_TYPES.contains s || KNOWN_MESSAGE_TYPES.contains (upper s) then []
    else ["未知消息类型: " ++ s]
  | some v => ["type 必须是字符串, 收到 " ++ v.type_name]

/-- The error of a version that is not `1.x`. -/
def version_mismatch (version : String) : String := "协议版本不匹配: 期望 1.x, 收到 " ++ version

/-- What calling a method that a list or a dict does not have raises. -/
def no_attribute (v : Json) (name : String) : String :=
  "'" ++ v.type_name ++ "' object has no attribute '" ++ name ++ "'"

/-- The version check. On a list or a dict, `"." in version` is a membership test, and the next method
call raises; on a number it raises itself. -/
def version_errors (version : Json) : Except String (List String) :=
  if !version.truthy then .ok []
  else match version with
    | .str s =>
      if !isdigit (before_dot s) then .ok [version_mismatch s]
      else (int (before_dot s)).map fun n => if n ≠ 1 then [version_mismatch s] else []
    | .arr items =>
      .error (no_attribute version (if items.any (·.eq_str ".") then "split" else "isdigit"))
    | .obj fields =>
      .error (no_attribute version (if (fields.lookup ".").isSome then "split" else "isdigit"))
    | v => .error ("argument of type '" ++ v.type_name ++ "' is not iterable")

/-- A field that has to be a string, when it is there. -/
def string_errors (field : String) (val : Option Json) : List String :=
  match val with
  | none => []
  | some .null => []
  | some (.str _) => []
  | some v => [field ++ " 必须是字符串, 收到 " ++ v.type_name]

/-- The payload is an object, if it is there. -/
def payload_errors (payload : Option Json) : List String :=
  match payload with
  | none => []
  | some .null => []
  | some (.obj _) => []
  | some _ => ["payload 必须是 JSON Object"]

/-- The errors of an envelope, or the exception that the version check raises. -/
def validate_message (data : List (String × Json)) : Except String (List String) :=
  (version_errors ((data.lookup "version").getD (.str ""))).map fun version =>
    missing_errors data ++ source_errors ((data.lookup "source").getD (.str "")) ++
      type_errors (data.lookup "type") ++ version ++
      string_errors "target" (data.lookup "target") ++
      string_errors "correlation_id" (data.lookup "correlation_id") ++
      payload_errors (data.lookup "payload")

/-! ## When the version check returns -/

/-- The version is false, or it is a string whose major part, if it is made of digits, is one that
`int` takes. -/
def VersionReadable (version : Json) : Prop :=
  version.truthy = false ∨ ∃ s, version = .str s ∧
    (isdigit (before_dot s) → (∀ c ∈ before_dot s, (decimal c).isSome) ∧
      (before_dot s).length ≤ int_max_str_digits)

theorem version_errors_isOk_iff (version : Json) :
    (∃ errors, version_errors version = .ok errors) ↔ VersionReadable version := by
  unfold version_errors VersionReadable
  cases ht : version.truthy with
  | false => simp
  | true =>
    simp only [Bool.not_true, Bool.false_eq_true, if_false, Bool.true_eq_false, false_or]
    cases version with
    | str s =>
      simp only [Json.str.injEq, exists_eq_left']
      by_cases hd : isdigit (before_dot s)
      · simp only [hd, Bool.not_true, Bool.false_eq_true, if_false, true_imp_iff, ← int_isOk_iff]
        cases int (before_dot s) <;> simp [Except.map]
      · simp [hd]
    | _ => simp

theorem validate_message_isOk_iff (data : List (String × Json)) :
    (∃ errors, validate_message data = .ok errors) ↔
      VersionReadable ((data.lookup "version").getD (.str "")) := by
  rw [← version_errors_isOk_iff, validate_message]
  cases version_errors ((data.lookup "version").getD (.str "")) <;> simp [Except.map]

/-! ## When there are no errors -/

/-- The type is a string that names a known type, up to upper case. -/
def KnownType (raw_type : Option Json) : Prop :=
  ∃ s, raw_type = some (.str s) ∧ (s ∈ KNOWN_MESSAGE_TYPES ∨ upper s ∈ KNOWN_MESSAGE_TYPES)

/-- The field is missing, null or a string. -/
def StringOrNull (val : Option Json) : Prop :=
  val = none ∨ val = some .null ∨ ∃ s, val = some (.str s)

/-- The field is missing, null or an object. -/
def ObjectOrNull (val : Option Json) : Prop :=
  val = none ∨ val = some .null ∨ ∃ fields, val = some (.obj fields)

/-- The version is false, or a string whose major part is the number one. -/
def VersionOne (version : Json) : Prop :=
  version.truthy = false ∨
    ∃ s, version = .str s ∧ isdigit (before_dot s) = true ∧ int (before_dot s) = .ok 1

/-- What the validation asks of the fields other than the type; of payload and version only if they are
there. -/
structure WellFormed (data : List (String × Json)) : Prop where
  source : ∃ s, data.lookup "source" = some (.str s) ∧ is_blank s = false
  target : StringOrNull (data.lookup "target")
  correlation_id : StringOrNull (data.lookup "correlation_id")
  payload : ObjectOrNull (data.lookup "payload")
  version : VersionOne ((data.lookup "version").getD (.str ""))

theorem source_errors_eq_nil_iff {source : Json} :
    source_errors source = [] ↔ ∃ s, source = .str s ∧ is_blank s = false := by
  unfold source_errors
  cases source with
  | str s => cases hs : is_blank s <;> simp [hs]
  | _ => simp

theorem type_errors_eq_nil {raw_type : Option Json} (h : KnownType raw_type) :
    type_errors raw_type = [] := by
  obtain ⟨s, rfl, hs⟩ := h
  simp [type_errors, hs]

theorem string_errors_eq_nil_iff {field : String} {val : Option Json} :
    string_errors field val = [] ↔ StringOrNull val := by
  unfold string_errors StringOrNull
  cases val with
  | none => simp
  | some v => cases v <;> simp

theorem payload_errors_eq_nil_iff {payload : Option Json} :
    payload_errors payload = [] ↔ ObjectOrNull payload := by
  unfold payload_errors ObjectOrNull
  cases payload with
  | none => simp
  | some v => cases v <;> simp

theorem version_errors_eq_nil_iff {version : Json} :
    version_errors version = .ok [] ↔ VersionOne version := by
  unfold version_errors VersionOne
  cases ht : version.truthy with
  | false => simp
  | true =>
    simp only [Bool.not_true, Bool.false_eq_true, if_false, Bool.true_eq_false, false_or]
    cases version with
    | str s =>
      simp only [Json.str.injEq, exists_eq_left']
      by_cases hd : isdigit (before_dot s)
      · simp only [hd, Bool.not_true, Bool.false_eq_true, if_false, true_and]
        cases int (before_dot s) <;> simp [Except.map]
      · simp [hd]
    | _ => simp

theorem type_errors_eq_nil_iff {raw_type : Option Json} :
    type_errors raw_type = [] ↔ raw_type = none ∨ raw_type = some .null ∨ KnownType raw_type := by
  constructor
  · intro h
    cases raw_type with
    | none => exact .inl rfl
    | some v =>
      cases v with
      | null => exact .inr (.inl rfl)
      | str s =>
        refine .inr (.inr ⟨s, rfl, ?_⟩)
        by_contra hs
        simp [type_errors, hs] at h
      | _ => cases h
  · rintro (rfl | rfl | h)
    · rfl
    · rfl
    · exact type_errors_eq_nil h

theorem missing_errors_eq_nil_iff {data : List (String × Json)} :
    missing_errors data = [] ↔ (data.lookup "type").isSome = true ∧
      (data.lookup "source").isSome = true ∧ (data.lookup "payload").isSome = true ∧
        (data.lookup "version").isSome = true := by
  simp [missing_errors]

/-- What the validation asks of an envelope, its version apart. -/
structure Plausible (data : List (String × Json)) : Prop where
  type : data.lookup "type" = some .null ∨ KnownType (data.lookup "type")
  source : ∃ s, data.lookup "source" = some (.str s) ∧ is_blank s = false
  payload : data.lookup "payload" = some .null ∨ ∃ fields, data.lookup "payload" = some (.obj fields)
  version : (data.lookup "version").isSome = true
  target : StringOrNull (data.lookup "target")
  correlation_id : StringOrNull (data.lookup "correlation_id")

/-- **When an envelope has no errors.** -/
theorem validate_message_accepts_iff {data : List (String × Json)} :
    validate_message data = .ok [] ↔
      Plausible data ∧ VersionOne ((data.lookup "version").getD (.str "")) := by
  have hall : validate_message data = .ok [] ↔
      version_errors ((data.lookup "version").getD (.str "")) = .ok [] ∧ missing_errors data = [] ∧
        source_errors ((data.lookup "source").getD (.str "")) = [] ∧
        type_errors (data.lookup "type") = [] ∧
        string_errors "target" (data.lookup "target") = [] ∧
        string_errors "correlation_id" (data.lookup "correlation_id") = [] ∧
        payload_errors (data.lookup "payload") = [] := by
    rw [validate_message]
    cases version_errors ((data.lookup "version").getD (.str "")) with
    | error e => simp [Except.map]
    | ok errors => simp [Except.map]; tauto
  have hsource : source_errors ((data.lookup "source").getD (.str "")) = [] ↔
      ∃ s, data.lookup "source" = some (.str s) ∧ is_blank s = false := by
    rw [source_errors_eq_nil_iff]
    cases data.lookup "source" with
    | none => simp [is_blank]
    | some v => simp
  rw [hall, hsource, missing_errors_eq_nil_iff, version_errors_eq_nil_iff, type_errors_eq_nil_iff,
    string_errors_eq_nil_iff, string_errors_eq_nil_iff, payload_errors_eq_nil_iff]
  constructor
  · rintro ⟨hone, ⟨htype, -, hpayload, hversion⟩, hs, ht, htarget, hcorrelation_id, hp⟩
    refine ⟨⟨?_, hs, ?_, hversion, htarget, hcorrelation_id⟩, hone⟩
    · exact ht.resolve_left fun hnone => by simp [hnone] at htype
    · exact hp.resolve_left fun hnone => by simp [hnone] at hpayload
  · rintro ⟨⟨ht, hs, hp, hversion, htarget, hcorrelation_id⟩, hone⟩
    refine ⟨hone, ⟨?_, ?_, ?_, hversion⟩, hs, .inr ht, htarget, hcorrelation_id, .inr hp⟩
    · obtain h | ⟨s, h, -⟩ := ht <;> rw [h] <;> rfl
    · obtain ⟨s, h, -⟩ := hs
      rw [h]
      rfl
    · obtain h | ⟨fields, h⟩ := hp <;> rw [h] <;> rfl

/-- **When an envelope with a known type has no errors.** -/
theorem validate_message_eq_nil_iff {data : List (String × Json)}
    (htype : KnownType (data.lookup "type")) :
    validate_message data = .ok [] ↔ WellFormed data ∧
      (data.lookup "payload").isSome = true ∧ (data.lookup "version").isSome = true := by
  rw [validate_message_accepts_iff]
  constructor
  · rintro ⟨⟨-, hs, hp, hversion, ht, hc⟩, hone⟩
    refine ⟨⟨hs, ht, hc, .inr hp, hone⟩, ?_, hversion⟩
    obtain h | ⟨fields, h⟩ := hp <;> rw [h] <;> rfl
  · rintro ⟨⟨hs, ht, hc, hpayload, hone⟩, hp, hversion⟩
    refine ⟨⟨.inr htype, hs, ?_, hversion, ht, hc⟩, hone⟩
    exact hpayload.resolve_left fun hnone => by simp [hnone] at hp

end Aqap.Core
