import Aqap.Core.Validate

/-!
# The message envelope of the SDK

`AQAPMessage` has the fields of the core's `Message`; its types, topics and known types are those of the
core. It differs in how it reads an envelope: a false id, trace id or timestamp is replaced by a new one,
and a type that is not a string raises.

* `agree_iff`: on which complete envelopes `AQAPMessage` and `Message` agree.
* `accepts_iff`: on which envelopes the receive paths of the core and of the SDK agree. The core
  validates what `from_dict` has completed, so it does not miss a payload or a version.
-/

namespace Aqap.Sdk

open Py Aqap.Core

structure AQAPMessage where
  type : MessageType
  source : Json
  payload : Json
  message_id : Json
  target : Json
  topic : Json
  trace_id : Json
  correlation_id : Json
  version : Json
  timestamp : Json

/-- `v or default` -/
def or_default (v : Json) (default : String) : Json := if v.truthy then v else .str default

namespace AQAPMessage

def PROTOCOL_VERSION : String := "1.0"

/-- A string that is no type, also in upper case, gives `UNKNOWN`. Another value is no type either, and
has no `upper`. -/
def resolve_type : Json → Except String MessageType
  | .str raw => .ok (((MessageType.of_value raw).or (MessageType.of_value (upper raw))).getD .UNKNOWN)
  | raw => .error (no_attribute raw "upper")

/-- `__init__` with a resolved type. -/
def new (fresh : Fresh) (type : MessageType)
    (source payload message_id target topic trace_id correlation_id version timestamp : Json) :
    AQAPMessage where
  type
  source
  payload
  message_id := or_default message_id fresh.message_id
  target
  topic
  trace_id := or_default trace_id fresh.trace_id
  correlation_id
  version
  timestamp := or_default timestamp fresh.timestamp

def to_dict (self : AQAPMessage) : List (String × Json) := [
  ("type", .str self.type.value),
  ("message_id", self.message_id),
  ("source", self.source),
  ("target", self.target),
  ("topic", self.topic),
  ("trace_id", self.trace_id),
  ("correlation_id", self.correlation_id),
  ("version", self.version),
  ("payload", self.payload),
  ("timestamp", self.timestamp)]

def from_dict (fresh : Fresh) (data : List (String × Json)) : Except String AQAPMessage := do
  let type ← resolve_type ((data.lookup "type").getD (.str ""))
  pure (new fresh type
    ((data.lookup "source").getD (.str ""))
    ((data.lookup "payload").getD (.obj []))
    ((data.lookup "message_id").getD .null)
    ((data.lookup "target").getD (.str ""))
    ((data.lookup "topic").getD (.str ""))
    ((data.lookup "trace_id").getD .null)
    ((data.lookup "correlation_id").getD (.str ""))
    ((data.lookup "version").getD (.str PROTOCOL_VERSION))
    ((data.lookup "timestamp").getD .null))

end AQAPMessage

/-- The SDK's copy of the validation: the same text, with the same known types. -/
def validate_message (data : List (String × Json)) : Except String (List String) :=
  Core.validate_message data

/-! ## Envelopes that both read -/

/-- Both calls raise, or both return the same. -/
inductive Agree {α : Type} : Except String α → Except String α → Prop
  | raised {e e' : String} : Agree (.error e) (.error e')
  | returned (a : α) : Agree (.ok a) (.ok a)

/-- The fields of an envelope. -/
def envelope_fields : List String :=
  ["type", "message_id", "source", "target", "topic", "trace_id", "correlation_id", "version",
    "payload", "timestamp"]

/-- All fields are there. -/
def Complete (data : List (String × Json)) : Prop :=
  ∀ field ∈ envelope_fields, ∃ v, data.lookup field = some v

/-- `uuid4().hex` and `isoformat()` are not empty. -/
structure Filled (fresh : Fresh) : Prop where
  message_id : fresh.message_id ≠ ""
  trace_id : fresh.trace_id ≠ ""
  timestamp : fresh.timestamp ≠ ""

/-- The type is a string, and no id, trace id or timestamp is false. -/
structure Explicit (data : List (String × Json)) : Prop where
  type : ∃ s, data.lookup "type" = some (.str s)
  filled : ∀ field ∈ ["message_id", "trace_id", "timestamp"], ∀ v, data.lookup field = some v →
    v.truthy = true

theorem or_default_eq_iff {v : Json} {default : String} (h : default ≠ "") :
    or_default v default = v ↔ v.truthy = true := by
  unfold or_default
  split
  · rename_i hv
    exact iff_of_true rfl hv
  · rename_i hv
    refine iff_of_false ?_ hv
    rintro rfl
    exact hv (by simpa [Json.truthy] using h)

theorem AQAPMessage.resolve_type_str (s : String) :
    resolve_type (.str s) = .ok (Message.parse_type (.str s)) := rfl

/-- A type that is not a string raises. -/
theorem AQAPMessage.from_dict_raises {fresh : Fresh} {data : List (String × Json)} {type : Json}
    (htype : data.lookup "type" = some type) (hstr : ¬ ∃ s, type = .str s) :
    ∃ e, from_dict fresh data = .error e := by
  unfold from_dict
  rw [htype]
  cases type with
  | str s => exact absurd ⟨s, rfl⟩ hstr
  | _ => exact ⟨_, rfl⟩

theorem agree_ok_iff {α : Type} {a b : α} :
    Agree (.ok a : Except String α) (.ok b) ↔ a = b := by
  constructor
  · rintro ⟨⟩
    rfl
  · rintro rfl
    exact .returned a

/-- **When the two envelope classes agree**: `from_dict` raises in both, or both write the same
dictionary. -/
theorem agree_iff {fresh fresh' : Fresh} {data : List (String × Json)} (hfresh : Filled fresh)
    (hdata : Complete data) :
    Agree ((AQAPMessage.from_dict fresh data).map AQAPMessage.to_dict)
      (.ok (Message.from_dict fresh' data).to_dict) ↔ Explicit data := by
  obtain ⟨type, htype⟩ := hdata "type" (by decide)
  obtain ⟨message_id, hmessage_id⟩ := hdata "message_id" (by decide)
  obtain ⟨source, hsource⟩ := hdata "source" (by decide)
  obtain ⟨target, htarget⟩ := hdata "target" (by decide)
  obtain ⟨topic, htopic⟩ := hdata "topic" (by decide)
  obtain ⟨trace_id, htrace_id⟩ := hdata "trace_id" (by decide)
  obtain ⟨correlation_id, hcorrelation_id⟩ := hdata "correlation_id" (by decide)
  obtain ⟨version, hversion⟩ := hdata "version" (by decide)
  obtain ⟨payload, hpayload⟩ := hdata "payload" (by decide)
  obtain ⟨timestamp, htimestamp⟩ := hdata "timestamp" (by decide)
  by_cases hstr : ∃ s, type = .str s
  · obtain ⟨s, rfl⟩ := hstr
    have hexplicit : Explicit data ↔
        message_id.truthy = true ∧ trace_id.truthy = true ∧ timestamp.truthy = true := by
      constructor
      · rintro ⟨-, h⟩
        exact ⟨h _ (by decide) _ hmessage_id, h _ (by decide) _ htrace_id,
          h _ (by decide) _ htimestamp⟩
      · rintro ⟨h₁, h₂, h₃⟩
        refine ⟨⟨s, htype⟩, ?_⟩
        simp only [List.mem_cons, List.not_mem_nil, or_false, forall_eq_or_imp, forall_eq,
          hmessage_id, htrace_id, htimestamp, Option.some.injEq, forall_eq']
        exact ⟨h₁, h₂, h₃⟩
    have hsdk : (AQAPMessage.from_dict fresh data).map AQAPMessage.to_dict =
        .ok (AQAPMessage.new fresh (Message.parse_type (.str s)) source payload message_id target topic
          trace_id correlation_id version timestamp).to_dict := by
      simp only [AQAPMessage.from_dict, htype, hmessage_id, hsource, htarget, htopic, htrace_id,
        hcorrelation_id, hversion, hpayload, htimestamp, Option.getD_some,
        AQAPMessage.resolve_type_str]
      rfl
    rw [hexplicit, hsdk, agree_ok_iff, ← or_default_eq_iff (v := message_id) hfresh.message_id,
      ← or_default_eq_iff (v := trace_id) hfresh.trace_id,
      ← or_default_eq_iff (v := timestamp) hfresh.timestamp]
    simp [AQAPMessage.to_dict, AQAPMessage.new, Message.to_dict, Message.from_dict, htype, hmessage_id,
      hsource, htarget, htopic, htrace_id, hcorrelation_id, hversion, hpayload, htimestamp]
  · obtain ⟨e, he⟩ := @AQAPMessage.from_dict_raises fresh _ _ htype hstr
    rw [he]
    refine iff_of_false (fun h => nomatch h) fun h => hstr ?_
    obtain ⟨s, hs⟩ := h.type
    exact ⟨s, Option.some.inj (htype.symm.trans hs)⟩

/-- An envelope with the id `message_id`. -/
def sample_envelope (message_id : String) : List (String × Json) := [
  ("type", .str "TASK_DISPATCH"),
  ("message_id", .str message_id),
  ("source", .str "client"),
  ("target", .str ""),
  ("topic", .str Topic.AGENT_PROBE),
  ("trace_id", .str "8899aabbccddeeff"),
  ("correlation_id", .str ""),
  ("version", .str "1.0"),
  ("payload", .obj []),
  ("timestamp", .str "2026-01-01T00:00:00+00:00")]

def sample_fresh : Fresh := ⟨"0011223344556677", "8899aabbccddeeff", "2026-01-01T00:00:00+00:00"⟩

theorem filled_sample_fresh : Filled sample_fresh := ⟨by decide, by decide, by decide⟩

theorem complete_sample_envelope (message_id : String) : Complete (sample_envelope message_id) := by
  simp [Complete, envelope_fields, sample_envelope, List.lookup_cons]

/-- An envelope with an id is read alike. -/
theorem agree_iff_sample :
    Agree ((AQAPMessage.from_dict sample_fresh (sample_envelope "m-1")).map AQAPMessage.to_dict)
      (.ok (Message.from_dict sample_fresh (sample_envelope "m-1")).to_dict) ↔
      Explicit (sample_envelope "m-1") :=
  agree_iff filled_sample_fresh (complete_sample_envelope "m-1")

/-- The core keeps an empty id, the SDK replaces it. -/
theorem empty_id_replaced :
    ¬ ∀ (fresh fresh' : Fresh) (data : List (String × Json)), Filled fresh → Filled fresh' →
      Complete data → Agree ((AQAPMessage.from_dict fresh data).map AQAPMessage.to_dict)
        (.ok (Message.from_dict fresh' data).to_dict) := by
  intro h
  have hagree := h sample_fresh sample_fresh (sample_envelope "") filled_sample_fresh
    filled_sample_fresh (complete_sample_envelope "")
  have hid := congrArg (fun wire => ((wire.lookup "message_id").getD .null).truthy)
    (agree_ok_iff.mp hagree)
  revert hid
  decide

/-! ## Envelopes that both accept -/

theorem value_mem_known (t : MessageType) : t.value ∈ KNOWN_MESSAGE_TYPES := by
  cases t <;> decide

/-- A default that is a string makes no difference. -/
theorem stringOrNull_getD {val : Option Json} {s : String} :
    StringOrNull (some (val.getD (.str s))) ↔ StringOrNull val := by
  cases val <;> simp [StringOrNull]

theorem objectOrNull_getD {val : Option Json} {fields : List (String × Json)} :
    ObjectOrNull (some (val.getD (.obj fields))) ↔ ObjectOrNull val := by
  cases val <;> simp [ObjectOrNull]

/-- The default version of the core passes the check, and so does no version. -/
theorem versionOne_getD {val : Option Json} :
    VersionOne (val.getD (.str "1.0")) ↔ VersionOne (val.getD (.str "")) := by
  cases val with
  | none => exact iff_of_true (.inr ⟨"1.0", rfl, by decide, by decide⟩) (.inl (by decide))
  | some v => exact Iff.rfl

/-- The defaults of `from_dict` make no field valid that was not, a missing payload or version apart. -/
theorem wellFormed_from_dict {fresh : Fresh} {data : List (String × Json)} :
    WellFormed (Message.from_dict fresh data).to_dict ↔ WellFormed data := by
  have hsource : (∃ s, some ((data.lookup "source").getD (.str "")) = some (.str s) ∧
      is_blank s = false) ↔ ∃ s, data.lookup "source" = some (.str s) ∧ is_blank s = false := by
    cases data.lookup "source" with
    | none => simp [is_blank]
    | some v => simp
  constructor
  · rintro ⟨hs, ht, hc, hp, hv⟩
    exact ⟨hsource.mp hs, stringOrNull_getD.mp ht, stringOrNull_getD.mp hc, objectOrNull_getD.mp hp,
      versionOne_getD.mp hv⟩
  · rintro ⟨hs, ht, hc, hp, hv⟩
    exact ⟨hsource.mpr hs, stringOrNull_getD.mpr ht, stringOrNull_getD.mpr hc,
      objectOrNull_getD.mpr hp, versionOne_getD.mpr hv⟩

/-- The core accepts what has no invalid field. -/
theorem core_accepts_iff {fresh : Fresh} {data : List (String × Json)} :
    Core.validate_message (Message.from_dict fresh data).to_dict = .ok [] ↔ WellFormed data := by
  have htype : KnownType ((Message.from_dict fresh data).to_dict.lookup "type") :=
    ⟨_, rfl, .inl (value_mem_known _)⟩
  rw [validate_message_eq_nil_iff htype, wellFormed_from_dict]
  exact and_iff_left ⟨rfl, rfl⟩

/-- **When the two receive paths accept the same envelope**, for a known type: it has a payload and a
version, or another field is invalid. -/
theorem accepts_iff {fresh : Fresh} {data : List (String × Json)}
    (htype : KnownType (data.lookup "type")) :
    (Core.validate_message (Message.from_dict fresh data).to_dict = .ok [] ↔
        validate_message data = .ok []) ↔
      (data.lookup "payload").isSome = true ∧ (data.lookup "version").isSome = true ∨
        ¬ WellFormed data := by
  rw [core_accepts_iff, validate_message, validate_message_eq_nil_iff htype]
  tauto

/-- An envelope without a payload. -/
def no_payload : List (String × Json) := [
  ("type", .str "TASK_DISPATCH"), ("source", .str "client"), ("version", .str "1.0")]

theorem accepts_iff_sample :
    (Core.validate_message (Message.from_dict sample_fresh (sample_envelope "m-1")).to_dict = .ok [] ↔
        validate_message (sample_envelope "m-1") = .ok []) ↔
      ((sample_envelope "m-1").lookup "payload").isSome = true ∧
        ((sample_envelope "m-1").lookup "version").isSome = true ∨ ¬ WellFormed (sample_envelope "m-1") :=
  accepts_iff ⟨"TASK_DISPATCH", rfl, .inl (by decide)⟩

/-- The core accepts an envelope without a payload, the SDK does not. -/
theorem missing_payload_accepted :
    ¬ ∀ (fresh : Fresh) (data : List (String × Json)), KnownType (data.lookup "type") →
      (Core.validate_message (Message.from_dict fresh data).to_dict = .ok [] ↔
        validate_message data = .ok []) := by
  intro h
  have hcore : Core.validate_message (Message.from_dict sample_fresh no_payload).to_dict = .ok [] := rfl
  have hsdk := (h sample_fresh no_payload ⟨"TASK_DISPATCH", rfl, .inl (by decide)⟩).mp hcore
  cases hsdk

end Aqap.Sdk
