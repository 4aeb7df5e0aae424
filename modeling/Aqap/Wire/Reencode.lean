import Aqap.Wire.Header

/-!
# Headers of Python, and headers that are encoded again

`WireHeader::py_new` takes the arguments of a Python call. It drops the reserved bits of the flags, but leaves
the key id as it is, and `encode_header` has two bits for it.

* `header_fields_of_decode`: bytes 0-55 of a decoded header that is encoded again.
* `header_round_trip`: what a constructed header decodes to, and what an accepted buffer is encoded to.
* `key_id_cut`: a constructed header that is not read back.
-/

namespace Aqap.Wire

open Rust Rust.Res

/-! ## The constructor -/

/-- What `py_new` extracts from the object that it is given as a message id. -/
structure PyMessageId where
  /-- The attribute `hex`, if the object has one. -/
  hex : Option (Except String String)
  text : Except String String

/-- The arguments of `py_new`. -/
structure PyHeader where
  message_id : PyMessageId
  topic_len : UInt16
  header_count : UInt16
  total_len : UInt32
  timestamp_ms : Int64
  ttl_ms : UInt32
  max_body_size : UInt32
  priority : String := "normal"
  flags : UInt8 := 0
  key_id : UInt8 := 0

/-- Objects of `uuid.UUID` have `hex`; others are to be strings. -/
def PyMessageId.uuid_str (message_id : PyMessageId) : Except String String :=
  match message_id.hex with
  | some hex_attr => hex_attr
  | none => message_id.text

def Priority.of_name : String → Except String Priority
  | "low" => .ok .Low
  | "normal" => .ok .Normal
  | "high" => .ok .High
  | "critical" => .ok .Critical
  | priority => .error ("invalid priority: " ++ priority)

/-- `try_parse` is `Uuid::try_parse`. -/
def py_new (try_parse : String → Except String Uuid) (args : PyHeader) : Except String WireHeader := do
  let uuid_str ← args.message_id.uuid_str
  let parsed ← (try_parse uuid_str).mapError ("invalid UUID: " ++ ·)
  let prio ← Priority.of_name args.priority
  pure {
    message_id := parsed
    topic_len := args.topic_len
    header_count := args.header_count
    total_len := args.total_len
    timestamp_ms := args.timestamp_ms
    ttl_ms := args.ttl_ms
    max_body_size := args.max_body_size
    flags := Flags.from_byte args.flags
    priority := prio
    key_id := args.key_id }

/-! ## Encoding and decoding -/

theorem decode_encode_header (header : WireHeader) :
    decode_header (encode_header header) = .ok { header with key_id := header.key_id &&& 0x03 } := by
  have h := decode_header_encode header (toBe 8 0) [] (length_toBe 8 0)
  rwa [List.append_nil] at h

/-! ## Decoding and encoding -/

/-- The bits of a byte of the header that have no meaning. -/
def reserved : Nat → UInt8
  | 10 => 0b0000_0011 -- below the flags
  | 12 => 0xFF
  | 13 => 0xFF
  | 14 => 0b0011_1111 -- below the key id
  | 15 => 0xFF
  | _ => 0

/-- Bytes 0-55 are those of the buffer with the reserved bits zero, except for the minor version and the
patch version. -/
def Reproduced (buf encoded : Bytes) : Prop :=
  ∀ i < 56, (6 ≤ i ∧ i < 10) ∨ encoded[i]? = buf[i]?.map (· &&& ~~~ reserved i)

theorem toBe_field {w o : Nat} {buf : Bytes} (h : o + w ≤ buf.length) :
    toBe w (field w buf o) = (buf.drop o).take w := by
  have hlen : ((buf.drop o).take w).length = w := by
    rw [List.length_take, List.length_drop]
    omega
  have hbytes := toBe_ofBe ((buf.drop o).take w)
  rwa [hlen] at hbytes

/-- Two fields that are next to each other. -/
theorem take_drop_append {buf : Bytes} {o p m n : Nat} (h : o + m = p) :
    (buf.drop o).take m ++ (buf.drop p).take n = (buf.drop o).take (m + n) := by
  rw [List.take_add, List.drop_drop, h]

theorem priority_of_decode {p : UInt8} {priority : Priority} (h : decode_priority p = .ok priority) :
    priority.toUInt8 = p := by
  unfold decode_priority at h
  split at h
  case h_5 => cases h
  all_goals
    rename_i hp
    cases h
    exact UInt8.toNat_inj.mp hp.symm

private theorem key_ttl_bytes : ∀ k : BitVec 8, toBe 2 (key_ttl ⟨k⟩).toNat =
    [((⟨k⟩ : UInt8) &&& 0x03) <<< 6, 0] := by
  decide

private theorem key_bits : ∀ b : BitVec 8, ((⟨b⟩ : UInt8) >>> 6 &&& 0x03) <<< 6 = ⟨b⟩ &&& ~~~ reserved 14 := by
  decide

/-- The key id is in the upper two bits of byte 14. -/
theorem key_id_of_bytes (b c : UInt8) : key_id_of (UInt16.ofNat (ofBe [b, c])) = b >>> 6 := by
  have hb := b.toNat_lt
  have hc := c.toNat_lt
  have hvalue : ofBe [b, c] = b.toNat * 256 + c.toNat := by simp [ofBe]
  rw [← UInt8.toNat_inj, key_id_of, UInt16.toNat_toUInt8, UInt16.toNat_and, UInt16.toNat_shiftRight,
    UInt16.toNat_ofNat', hvalue, UInt8.toNat_shiftRight]
  have hmask : ∀ n : Nat, n &&& (0x03 : UInt16).toNat = n % 4 := fun n => Nat.and_two_pow_sub_one_eq_mod n 2
  rw [hmask]
  simp only [UInt16.reduceToNat, UInt8.reduceToNat, Nat.shiftRight_eq_div_pow, Nat.reduceMod, Nat.reducePow]
  omega

/-- Bytes 14 and 15 keep the two bits of the key id. -/
theorem key_ttl_of_bytes (b c : UInt8) :
    toBe 2 (key_ttl (key_id_of (UInt16.ofNat (ofBe [b, c])))).toNat = [b &&& ~~~ reserved 14, 0] := by
  rw [key_id_of_bytes, ← key_bits b.toBitVec]
  exact key_ttl_bytes (b >>> 6).toBitVec

section

variable {buf : Bytes} {header : WireHeader}

/-- **Bytes 0-55 of an accepted header, encoded again.** -/
theorem header_fields_of_decode (h : decode_header buf = .ok header) :
    ∃ b10 b11 b14, buf[10]? = some b10 ∧ buf[11]? = some b11 ∧ buf[14]? = some b14 ∧
      header_fields header =
        buf.take 6 ++ ([0, 0, 0, 0, b10 &&& ~~~ reserved 10, b11, 0, 0, b14 &&& ~~~ reserved 14, 0] ++
          (buf.drop 16).take 40) := by
  have hat := decode_header_eq_ok_iff.mp h
  have hlen : 64 ≤ buf.length := hat.length
  obtain ⟨b10, hb10, hflags⟩ := Option.map_eq_some_iff.mp hat.flags
  obtain ⟨b11, hb11, hpriority⟩ := Option.map_eq_some_iff.mp hat.priority
  have hb14 : buf[14]? = some buf[14] := List.getElem?_eq_getElem (by omega)
  have hb15 : buf[15]? = some buf[15] := List.getElem?_eq_getElem (by omega)
  refine ⟨b10, b11, buf[14], hb10, hb11, hb14, ?_⟩
  have hkey : field 2 buf 14 = ofBe [buf[14], buf[15]] := by
    rw [field, List.drop_eq_getElem_cons (by omega), List.drop_eq_getElem_cons (by omega)]
    rfl
  have hid : header.message_id.bytes = (buf.drop 16).take 16 := Uuid.bytes_of_from_slice hat.message_id
  have htimestamp : header.timestamp_ms.toUInt64.toNat = field 8 buf 32 := by
    rw [hat.timestamp_ms, UInt64.toUInt64_toInt64, UInt64.toNat_ofNat_of_lt' (field_lt 8 buf 32)]
  have httl : header.ttl_ms.toNat = field 4 buf 40 := by
    rw [hat.ttl_ms, UInt32.toNat_ofNat_of_lt' (field_lt 4 buf 40)]
  have hbody : header.max_body_size.toNat = field 4 buf 44 := by
    rw [hat.max_body_size, UInt32.toNat_ofNat_of_lt' (field_lt 4 buf 44)]
  have htopic : header.topic_len.toNat = field 2 buf 48 := by
    rw [hat.topic_len, UInt16.toNat_ofNat_of_lt' (field_lt 2 buf 48)]
  have hcount : header.header_count.toNat = field 2 buf 50 := by
    rw [hat.header_count, UInt16.toNat_ofNat_of_lt' (field_lt 2 buf 50)]
  have htotal : header.total_len.toNat = field 4 buf 52 := by
    rw [hat.total_len, UInt32.toNat_ofNat_of_lt' (field_lt 4 buf 52)]
  have hflag : header.flags.as_byte = b10 &&& ~~~ reserved 10 := by
    rw [← hflags]
    rfl
  rw [header_fields, ← hat.magic, ← hat.version, hflag, priority_of_decode hpriority, hat.key_id, hkey,
    key_ttl_of_bytes, hid, htimestamp, httl, hbody, htopic, hcount, htotal]
  rw [toBe_field (show 0 + 4 ≤ buf.length by omega), toBe_field (show 4 + 2 ≤ buf.length by omega),
    toBe_field (show 32 + 8 ≤ buf.length by omega), toBe_field (show 40 + 4 ≤ buf.length by omega),
    toBe_field (show 44 + 4 ≤ buf.length by omega), toBe_field (show 48 + 2 ≤ buf.length by omega),
    toBe_field (show 50 + 2 ≤ buf.length by omega), toBe_field (show 52 + 4 ≤ buf.length by omega),
    take_drop_append (show 0 + 4 = 4 from rfl)]
  simp only [List.append_assoc]
  rw [take_drop_append (show 50 + 2 = 52 from rfl), take_drop_append (show 48 + 2 = 50 from rfl),
    take_drop_append (show 44 + 4 = 48 from rfl), take_drop_append (show 40 + 4 = 44 from rfl),
    take_drop_append (show 32 + 8 = 40 from rfl), take_drop_append (show 16 + 16 = 32 from rfl)]
  rfl

theorem reserved_eq_zero {i : Nat} (h : i < 10 ∨ i = 11 ∨ 16 ≤ i) : reserved i = 0 := by
  unfold reserved
  split <;> first | omega | rfl

/-- A byte without reserved bits is reproduced. -/
theorem map_unreserved {i : Nat} (h : i < 10 ∨ i = 11 ∨ 16 ≤ i) (b : Option UInt8) :
    b.map (· &&& ~~~ reserved i) = b := by
  rw [reserved_eq_zero h]
  cases b <;> simp

theorem reproduced_of_decode (h : decode_header buf = .ok header) : Reproduced buf (encode_header header) := by
  intro i hi
  obtain ⟨b10, b11, b14, hb10, hb11, hb14, hfields⟩ := header_fields_of_decode h
  have hlen := length_of_decode_header h
  have hstart : (buf.take 6).length = 6 := by
    rw [List.length_take]
    omega
  rw [encode_header, List.getElem?_append_left (by rw [length_header_fields]; exact hi), hfields]
  by_cases hless : i < 6
  · right
    rw [List.getElem?_append_left (by omega), List.getElem?_take_of_lt hless, map_unreserved (.inl (by omega))]
  rw [List.getElem?_append_right (by omega), hstart]
  by_cases hmore : 16 ≤ i
  · right
    have hoffset : 16 + (i - 6 - 10) = i := by omega
    rw [List.getElem?_append_right (by simp; omega), List.length_cons]
    simp only [List.length_cons, List.length_nil, Nat.zero_add, Nat.reduceAdd]
    rw [List.getElem?_take_of_lt (by omega), List.getElem?_drop, hoffset, map_unreserved (.inr (.inr hmore))]
  rw [List.getElem?_append_left (by simp; omega)]
  by_cases hversion : 6 ≤ i ∧ i < 10
  · exact .inl hversion
  right
  have hzero {j : Nat} (hj : j < buf.length) (hreserved : reserved j = 0xFF) :
      buf[j]?.map (· &&& ~~~ reserved j) = some 0 := by
    rw [List.getElem?_eq_getElem hj, hreserved]
    exact congrArg some UInt8.and_zero
  obtain rfl | rfl | rfl | rfl | rfl | rfl : i = 10 ∨ i = 11 ∨ i = 12 ∨ i = 13 ∨ i = 14 ∨ i = 15 := by omega
  · rw [hb10]
    rfl
  · rw [map_unreserved (.inr (.inl rfl)), hb11]
    rfl
  · exact (hzero (by omega) rfl).symm
  · exact (hzero (by omega) rfl).symm
  · rw [hb14]
    rfl
  · exact (hzero (by omega) rfl).symm

end

/-! ## The round trip -/

/-- **Header round trip.** A constructed header is read back with the two lower bits of its key id, and what is
accepted is reproduced up to the bits without a meaning. -/
theorem header_round_trip (try_parse : String → Except String Uuid) :
    (∀ args header, py_new try_parse args = .ok header →
      decode_header (encode_header header) = .ok { header with key_id := header.key_id &&& 0x03 } ∧
      (decode_header (encode_header header) = .ok header ↔ header.key_id ≤ 3)) ∧
    ∀ buf header, decode_header buf = .ok header → Reproduced buf (encode_header header) := by
  refine ⟨fun args header _ => ⟨decode_encode_header header, ?_⟩, fun buf header => reproduced_of_decode⟩
  rw [decode_encode_header, ok.injEq]
  constructor
  · intro h
    have hkey : header.key_id &&& 0x03 = header.key_id := congrArg WireHeader.key_id h
    rw [← hkey, UInt8.le_iff_toNat_le, UInt8.toNat_and]
    exact Nat.and_le_right
  · intro h
    rw [key_id_and_mask h]

/-- `Uuid::try_parse`, as far as the samples use it. -/
def try_parse_nil (s : String) : Except String Uuid :=
  if s = "00000000-0000-0000-0000-000000000000" then .ok .nil else .error "invalid length"

/-- The arguments of a header with the given key id. -/
def key_sample (key_id : UInt8) : PyHeader where
  message_id := ⟨none, .ok "00000000-0000-0000-0000-000000000000"⟩
  topic_len := 5
  header_count := 1
  total_len := 64
  timestamp_ms := -1
  ttl_ms := 30000
  max_body_size := 1024
  key_id

/-- The header with the given key id. -/
def key_header (key_id : UInt8) : WireHeader where
  message_id := .nil
  topic_len := 5
  header_count := 1
  total_len := 64
  timestamp_ms := -1
  ttl_ms := 30000
  max_body_size := 1024
  flags := Flags.from_byte 0
  priority := .Normal
  key_id

theorem py_new_key_sample (key_id : UInt8) :
    py_new try_parse_nil (key_sample key_id) = .ok (key_header key_id) := rfl

/-- The key id 2 is read back, and the bytes are reproduced. -/
theorem header_round_trip_two :
    decode_header (encode_header (key_header 2)) = .ok (key_header 2) ∧
      Reproduced (encode_header (key_header 2)) (encode_header (key_header 2)) := by
  have h := ((header_round_trip try_parse_nil).1 _ _ (py_new_key_sample 2)).2.mpr (by decide)
  exact ⟨h, (header_round_trip try_parse_nil).2 _ _ h⟩

/-- The key id 4 is read back as 0. -/
theorem key_id_cut :
    ¬ ∀ args header, py_new try_parse_nil args = .ok header →
      decode_header (encode_header header) = .ok header := by
  intro h
  have heq := (decode_encode_header (key_header 4)).symm.trans (h _ _ (py_new_key_sample 4))
  have hkey : (4 : UInt8) &&& 0x03 = 4 := congrArg WireHeader.key_id (ok.inj heq)
  revert hkey
  decide

end Aqap.Wire
