import Aqap.Sdk.Message

/-!
# What a hop keeps of an envelope

A hop decodes an envelope and encodes it again. `from_dict` reads the ten fields of a `Message` and
nothing else, so a field of another name is gone after one hop; further hops change nothing more.

* `hop_hop`: an envelope that crossed a hop is the same after the next one.
* `relay_keeps_iff`: which accepted envelopes arrive as they were sent.
-/

namespace Aqap.Core

open Py Sdk

/-- `Message.from_dict(data).to_dict()`. -/
def hop (fresh : Fresh) (data : List (String × Json)) : List (String × Json) :=
  (Message.from_dict fresh data).to_dict

/-- The envelope after the hops, one after the other. -/
def relay (hops : List Fresh) (data : List (String × Json)) : List (String × Json) :=
  hops.foldl (fun data fresh => hop fresh data) data

/-- A value as it was sent; the type may be written in upper case. -/
def SameValue (key : String) (v v' : Json) : Prop :=
  v' = v ∨ key = "type" ∧ ∃ s s', v = .str s ∧ v' = .str s' ∧ upper s' = upper s

/-- Every field of `data` is in `data'` with the same value. -/
def Keeps (data data' : List (String × Json)) : Prop :=
  ∀ key v, data.lookup key = some v → ∃ v', data'.lookup key = some v' ∧ SameValue key v v'

/-! ## The type -/

theorem MessageType.value_of_value {s : String} {t : MessageType} (h : of_value s = some t) :
    t.value = s := by
  unfold of_value at h
  have hvalue := List.find?_some h
  simpa using hvalue

theorem MessageType.upper_value (t : MessageType) : upper t.value = t.value := by
  cases t <;> decide

theorem mem_known_iff {s : String} :
    s ∈ KNOWN_MESSAGE_TYPES ↔ ∃ t, MessageType.of_value s = some t := by
  constructor
  · intro h
    simp only [KNOWN_MESSAGE_TYPES, List.mem_cons, List.not_mem_nil, or_false] at h
    rcases h with rfl | rfl | rfl | rfl | rfl | rfl | rfl | rfl | rfl | rfl | rfl | rfl | rfl <;>
      exact ⟨_, rfl⟩
  · rintro ⟨t, ht⟩
    rw [← MessageType.value_of_value ht]
    exact value_mem_known t

/-- A known type is read up to its letter case. -/
theorem upper_parse_type {s : String} (h : KnownType (some (.str s))) :
    upper (Message.parse_type (.str s)).value = upper s := by
  obtain ⟨_, ⟨⟩, hs⟩ := h
  rw [mem_known_iff, mem_known_iff] at hs
  show upper (((MessageType.of_value s).or (MessageType.of_value (upper s))).getD .UNKNOWN).value = _
  cases hexact : MessageType.of_value s with
  | some t =>
    show upper t.value = upper s
    rw [MessageType.value_of_value hexact]
  | none =>
    rw [hexact] at hs
    obtain ⟨_, ⟨⟩⟩ | ⟨t, ht⟩ := hs
    rw [ht]
    show upper t.value = upper s
    rw [MessageType.upper_value, MessageType.value_of_value ht]

/-! ## Hops -/

theorem hop_hop (fresh fresh' : Fresh) (data : List (String × Json)) :
    hop fresh' (hop fresh data) = hop fresh data := by
  unfold hop
  rw [Message.from_dict_to_dict]
  rfl

/-- All that happens to an envelope happens at the first hop. -/
theorem relay_cons (fresh : Fresh) (hops : List Fresh) (data : List (String × Json)) :
    relay (fresh :: hops) data = hop fresh data := by
  induction hops generalizing fresh data with
  | nil => rfl
  | cons fresh' hops ih =>
    calc relay (fresh :: fresh' :: hops) data
        = relay (fresh' :: hops) (hop fresh data) := rfl
      _ = hop fresh' (hop fresh data) := ih fresh' (hop fresh data)
      _ = hop fresh data := hop_hop fresh fresh' data

/-- A hop writes the ten fields of the envelope. -/
theorem lookup_hop_isSome {fresh : Fresh} {data : List (String × Json)} {key : String} :
    ((hop fresh data).lookup key).isSome = true ↔ key ∈ envelope_fields := by
  rw [List.lookup_isSome_iff]
  simp [hop, Message.to_dict, envelope_fields]

/-- It copies the fields that it reads, the type apart. -/
theorem lookup_hop {fresh : Fresh} {data : List (String × Json)} {key : String} {v : Json}
    (hkey : key ∈ envelope_fields) (htype : key ≠ "type") (h : data.lookup key = some v) :
    (hop fresh data).lookup key = some v := by
  simp only [envelope_fields, List.mem_cons, List.not_mem_nil, or_false] at hkey
  rcases hkey with rfl | rfl | rfl | rfl | rfl | rfl | rfl | rfl | rfl | rfl
  · exact absurd rfl htype
  all_goals
    simp only [hop, Message.to_dict, Message.from_dict, h]
    rfl

theorem lookup_hop_type {fresh : Fresh} {data : List (String × Json)} {v : Json}
    (h : data.lookup "type" = some v) :
    (hop fresh data).lookup "type" = some (.str (Message.parse_type v).value) := by
  simp only [hop, Message.to_dict, Message.from_dict, h]
  rfl

/-- **Which accepted envelopes arrive as they were sent**: those that have only the fields of a message,
and whose type is not null. -/
theorem relay_keeps_iff {fresh : Fresh} {hops : List Fresh} {data : List (String × Json)}
    (haccepted : validate_message data = .ok []) :
    Keeps data (relay (fresh :: hops) data) ↔
      (∀ key, (data.lookup key).isSome = true → key ∈ envelope_fields) ∧
        data.lookup "type" ≠ some .null := by
  rw [relay_cons]
  constructor
  · intro hkeeps
    constructor
    · intro key hkey
      obtain ⟨v, hv⟩ := Option.isSome_iff_exists.mp hkey
      obtain ⟨v', hv', -⟩ := hkeeps key v hv
      have hhop : ((hop fresh data).lookup key).isSome = true := by
        rw [hv']
        rfl
      exact lookup_hop_isSome.mp hhop
    · intro hnull
      obtain ⟨v', hv', hsame⟩ := hkeeps "type" .null hnull
      rw [lookup_hop_type hnull] at hv'
      obtain ⟨⟩ := hv'
      obtain hsame | ⟨-, s, s', hs, -⟩ := hsame
      · cases hsame
      · cases hs
  · rintro ⟨hfields, hnull⟩ key v hv
    have hkey : key ∈ envelope_fields := hfields key (by rw [hv]; rfl)
    by_cases htype : key = "type"
    · subst htype
      obtain h | h := (validate_message_accepts_iff.mp haccepted).1.type
      · exact absurd h hnull
      · rw [hv] at h
        obtain ⟨s, ⟨⟩, -⟩ := id h
        exact ⟨_, lookup_hop_type hv, .inr ⟨rfl, s, _, rfl, rfl, upper_parse_type h⟩⟩
    · exact ⟨v, lookup_hop hkey htype hv, .inl rfl⟩

/-- An envelope with a field that the class does not know. -/
def extended_envelope : List (String × Json) := [
  ("type", .str "HEARTBEAT"), ("source", .str "agent-1"), ("payload", .obj []), ("version", .str "1.0"),
  ("priority", .int 5)]

theorem relay_keeps_iff_sample :
    Keeps (sample_envelope "m-1") (relay [sample_fresh, sample_fresh] (sample_envelope "m-1")) ↔
      (∀ key, ((sample_envelope "m-1").lookup key).isSome = true → key ∈ envelope_fields) ∧
        (sample_envelope "m-1").lookup "type" ≠ some .null :=
  relay_keeps_iff rfl

/-- The field is gone after one hop. -/
theorem unknown_field_dropped :
    ¬ ∀ (fresh : Fresh) (data : List (String × Json)), validate_message data = .ok [] →
      Keeps data (Message.from_dict fresh data).to_dict := by
  intro h
  obtain ⟨v, hv, -⟩ := h sample_fresh extended_envelope rfl "priority" (.int 5) rfl
  cases hv

end Aqap.Core
