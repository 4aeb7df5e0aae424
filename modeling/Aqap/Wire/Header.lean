import Aqap.Rust.Bytes
import Aqap.Wire.Types

/-!
# The fixed wire header (`aqap-kernel/src/wire.rs`, `encode_header` and `decode_header`)

64 bytes: magic, version, flags, priority, the key id packed into the top two bits of bytes 14-15,
and the big-endian integer fields. `encode_header` leaves the checksum field (bytes 56-63) zero.

* `length_encode_header`: the header has 64 bytes.
* `decode_header_encode`: a buffer that starts with the first 56 bytes of an encoded header, and has
  8 bytes more, decodes to the header with the key id cut to two bits.
* `decode_header_eq_ok_iff`: exactly the headers that `decode_header` accepts (`HeaderAt`).
* `safe_decode_header`: no buffer makes `decode_header` panic.
-/

namespace Aqap.Wire

open Rust Rust.Res

/-- A 16-byte UUID. -/
structure Uuid where
  bytes : Bytes
  len : bytes.length = 16
  deriving DecidableEq

/-- `Uuid::from_slice`: an error unless the slice has 16 bytes. -/
def Uuid.from_slice (bs : Bytes) : Option Uuid :=
  if h : bs.length = 16 then some ⟨bs, h⟩ else none

/-- `Uuid::nil`. -/
def Uuid.nil : Uuid := ⟨List.replicate 16 0, rfl⟩

@[simp] theorem Uuid.from_slice_bytes (u : Uuid) : Uuid.from_slice u.bytes = some u := dif_pos u.len

theorem Uuid.bytes_of_from_slice {bs : Bytes} {u : Uuid} (h : Uuid.from_slice bs = some u) :
    u.bytes = bs := by
  unfold Uuid.from_slice at h
  split at h
  · cases h; rfl
  · cases h

/-- The fixed header. -/
structure WireHeader where
  message_id : Uuid
  topic_len : UInt16
  header_count : UInt16
  total_len : UInt32
  timestamp_ms : Int64
  ttl_ms : UInt32
  max_body_size : UInt32
  flags : Flags
  priority : Priority
  key_id : UInt8
  deriving DecidableEq

/-- `key_id` in the top 2 bits of the 16-bit field. -/
def key_ttl (key_id : UInt8) : UInt16 := (key_id &&& 0x03).toUInt16 <<< 14

/-- `((key_ttl >> 14) & 0x03) as u8`. -/
def key_id_of (key_ttl : UInt16) : UInt8 := ((key_ttl >>> 14) &&& 0x03).toUInt8

/-- Bytes 0-55 of an encoded header. -/
def header_fields (header : WireHeader) : Bytes :=
  toBe 4 MAGIC.toNat ++                              -- 0-3
  toBe 2 VERSION_MAJOR.toNat ++                      -- 4-5
  toBe 2 VERSION_MINOR.toNat ++                      -- 6-7
  toBe 2 VERSION_PATCH.toNat ++                      -- 8-9
  [header.flags.as_byte] ++                          -- 10
  [header.priority.toUInt8] ++                       -- 11
  [0, 0] ++                                          -- 12-13, reserved
  toBe 2 (key_ttl header.key_id).toNat ++            -- 14-15
  header.message_id.bytes ++                         -- 16-31
  toBe 8 header.timestamp_ms.toUInt64.toNat ++       -- 32-39
  toBe 4 header.ttl_ms.toNat ++                      -- 40-43
  toBe 4 header.max_body_size.toNat ++               -- 44-47
  toBe 2 header.topic_len.toNat ++                   -- 48-49
  toBe 2 header.header_count.toNat ++                -- 50-51
  toBe 4 header.total_len.toNat                      -- 52-55

/-- The checksum (56-63) is a zero placeholder. -/
def encode_header (header : WireHeader) : Bytes :=
  header_fields header ++ toBe 8 0

/-- `{:08X}` and `{:016x}`: hexadecimal digits, padded with zeros. -/
def fmtHex (width n : Nat) (upper : Bool) : String :=
  let digits := (Nat.toDigits 16 n).map fun c => if upper then c.toUpper else c
  String.ofList (List.replicate (width - digits.length) '0' ++ digits)

/-- The value of the `w` big-endian bytes at offset `o`. -/
def beAt (w : Nat) (buf : Bytes) (o : Nat) : Res KernelError Nat := do
  let bs ← slice buf o (o + w)
  return ofBe bs

/-- The `match buf[11]` of `decode_header`. -/
def decode_priority (p : UInt8) : Res KernelError Priority :=
  match p.toNat with
  | 0 => .ok .Low
  | 1 => .ok .Normal
  | 2 => .ok .High
  | 3 => .ok .Critical
  | v => .err ⟨.InvalidPriority, s!"invalid priority value: {v}"⟩

/-- `decode_header`: magic, version and priority are checked, the rest is read. -/
def decode_header (buf : Bytes) : Res KernelError WireHeader := do
  ensure (HEADER_SIZE ≤ buf.length)
    ⟨.MalformedWire, s!"buffer too short: {buf.length} < {HEADER_SIZE}"⟩
  let magic ← beAt 4 buf 0
  ensure (magic = MAGIC.toNat)
    ⟨.MagicMismatch, s!"expected 0x{fmtHex 8 MAGIC.toNat true}, got 0x{fmtHex 8 magic true}"⟩
  let version_major ← beAt 2 buf 4
  ensure (version_major = VERSION_MAJOR.toNat)
    ⟨.VersionMismatch, s!"expected major={VERSION_MAJOR.toNat}, got {version_major}"⟩
  let flags ← index buf 10
  let p ← index buf 11
  let priority ← decode_priority p
  let key_ttl ← beAt 2 buf 14
  let id ← slice buf 16 32
  let message_id ← okOr ⟨.MalformedWire, "invalid UUID: "⟩ (Uuid.from_slice id)
  let timestamp_ms ← beAt 8 buf 32
  let ttl_ms_lo ← beAt 4 buf 40
  let max_body_size ← beAt 4 buf 44
  let topic_len ← beAt 2 buf 48
  let header_count ← beAt 2 buf 50
  let total_len ← beAt 4 buf 52
  return {
    message_id
    topic_len := UInt16.ofNat topic_len
    header_count := UInt16.ofNat header_count
    total_len := UInt32.ofNat total_len
    timestamp_ms := (UInt64.ofNat timestamp_ms).toInt64
    ttl_ms := UInt32.ofNat ttl_ms_lo
    max_body_size := UInt32.ofNat max_body_size
    flags := Flags.from_byte flags
    priority
    key_id := key_id_of (UInt16.ofNat key_ttl) }

/-! ## Sizes and reads -/

@[simp] theorem length_header_fields (header : WireHeader) : (header_fields header).length = 56 := by
  simp [header_fields, header.message_id.len]

@[simp] theorem length_encode_header (header : WireHeader) :
    (encode_header header).length = HEADER_SIZE := by
  simp [encode_header, HEADER_SIZE]

theorem safe_beAt {w o : Nat} {buf : Bytes} (h : o + w ≤ buf.length) : (beAt w buf o).Safe :=
  (safe_slice (by omega) h).bind fun _ _ => safe_ok _

theorem beAt_lt {w o n : Nat} {buf : Bytes} (h : beAt w buf o = .ok n) : n < 256 ^ w := by
  obtain ⟨bs, hbs, hn⟩ := bind_ok_iff.mp h
  rw [pure_eq, ok.injEq] at hn
  have hl := slice_length hbs
  rw [Nat.add_sub_cancel_left] at hl
  rw [← hn, ← hl]
  exact ofBe_lt bs

/-- Reading a field of `w` bytes at the cursor. -/
theorem beAt_ok {w n o : Nat} {buf rest : Bytes} (h : At buf o (toBe w n ++ rest))
    (hn : n < 256 ^ w) : beAt w buf o = .ok n := by
  have hs : (slice buf o (o + (toBe w n).length) : Res KernelError Bytes) = _ := h.slice
  rw [length_toBe] at hs
  simp only [beAt, hs, ok_bind, pure_eq, ofBe_toBe_of_lt hn]

theorem safe_decode_priority (p : UInt8) : (decode_priority p).Safe := by
  unfold decode_priority
  split <;> simp

@[simp] theorem decode_priority_toUInt8 (p : Priority) : decode_priority p.toUInt8 = .ok p := by
  cases p <;> rfl

/-- **No buffer makes `decode_header` panic.** -/
theorem safe_decode_header (buf : Bytes) : (decode_header buf).Safe := by
  unfold decode_header
  refine Safe.bind safe_ensure fun _ hlen => ?_
  rw [ensure_eq_ok_iff, HEADER_SIZE] at hlen
  refine (safe_beAt (by omega)).bind fun magic _ => ?_
  refine Safe.bind safe_ensure fun _ _ => ?_
  refine (safe_beAt (by omega)).bind fun version_major _ => ?_
  refine Safe.bind safe_ensure fun _ _ => ?_
  refine (safe_index (by omega)).bind fun flags _ => ?_
  refine (safe_index (by omega)).bind fun p _ => ?_
  refine (safe_decode_priority p).bind fun priority _ => ?_
  refine (safe_beAt (by omega)).bind fun key_ttl _ => ?_
  refine (safe_slice (by omega) (by omega)).bind fun id _ => ?_
  refine Safe.bind safe_okOr fun message_id _ => ?_
  refine (safe_beAt (by omega)).bind fun timestamp_ms _ => ?_
  refine (safe_beAt (by omega)).bind fun ttl_ms_lo _ => ?_
  refine (safe_beAt (by omega)).bind fun max_body_size _ => ?_
  refine (safe_beAt (by omega)).bind fun topic_len _ => ?_
  refine (safe_beAt (by omega)).bind fun header_count _ => ?_
  exact (safe_beAt (by omega)).bind fun total_len _ => safe_ok _

/-- The value of the field of `w` bytes at offset `o` of a buffer that has one. -/
def field (w : Nat) (buf : Bytes) (o : Nat) : Nat := ofBe ((buf.drop o).take w)

theorem beAt_eq {w o : Nat} {buf : Bytes} (h : o + w ≤ buf.length) :
    beAt w buf o = .ok (field w buf o) := by
  rw [beAt, slice_ok (by omega) h, ok_bind, Nat.add_sub_cancel_left]
  rfl

theorem field_lt (w : Nat) (buf : Bytes) (o : Nat) : field w buf o < 256 ^ w := by
  refine Nat.lt_of_lt_of_le (ofBe_lt _) (Nat.pow_le_pow_right (by decide) ?_)
  rw [List.length_take]
  exact Nat.min_le_left _ _

/-- The field at a cursor that has the bytes `x` before it. -/
theorem field_at {w o : Nat} {buf x rest : Bytes} (hat : At buf o (x ++ rest)) (hx : x.length = w) :
    field w buf o = ofBe x := by
  obtain ⟨pre, rfl, rfl⟩ := hat
  rw [field, List.drop_left, List.take_left' hx]

theorem field_toBe {w n o : Nat} {buf rest : Bytes} (hat : At buf o (toBe w n ++ rest))
    (hn : n < 256 ^ w) : field w buf o = n := by
  rw [field_at hat (length_toBe w n), ofBe_toBe_of_lt hn]

/-- The 64 bytes of a header that `decode_header` accepts, and what it makes of them. -/
structure HeaderAt (buf : Bytes) (header : WireHeader) : Prop where
  length : HEADER_SIZE ≤ buf.length
  magic : field 4 buf 0 = MAGIC.toNat
  version : field 2 buf 4 = VERSION_MAJOR.toNat
  flags : buf[10]?.map Flags.from_byte = some header.flags
  priority : buf[11]?.map decode_priority = some (.ok header.priority)
  key_id : header.key_id = key_id_of (UInt16.ofNat (field 2 buf 14))
  message_id : Uuid.from_slice ((buf.drop 16).take 16) = some header.message_id
  timestamp_ms : header.timestamp_ms = (UInt64.ofNat (field 8 buf 32)).toInt64
  ttl_ms : header.ttl_ms = UInt32.ofNat (field 4 buf 40)
  max_body_size : header.max_body_size = UInt32.ofNat (field 4 buf 44)
  topic_len : header.topic_len = UInt16.ofNat (field 2 buf 48)
  header_count : header.header_count = UInt16.ofNat (field 2 buf 50)
  total_len : header.total_len = UInt32.ofNat (field 4 buf 52)

/-- **Exactly the headers that `decode_header` accepts.** -/
theorem decode_header_eq_ok_iff {buf : Bytes} {header : WireHeader} :
    decode_header buf = .ok header ↔ HeaderAt buf header := by
  constructor
  · intro h
    unfold decode_header at h
    obtain ⟨_, hlen, h⟩ := bind_ok_iff.mp h
    rw [ensure_eq_ok_iff] at hlen
    have hlen' : 64 ≤ buf.length := hlen
    rw [beAt_eq (by omega), ok_bind] at h
    obtain ⟨_, hmagic, h⟩ := bind_ok_iff.mp h
    rw [beAt_eq (by omega), ok_bind] at h
    obtain ⟨_, hversion, h⟩ := bind_ok_iff.mp h
    obtain ⟨flags, hflags, h⟩ := bind_ok_iff.mp h
    obtain ⟨p, hp, h⟩ := bind_ok_iff.mp h
    obtain ⟨priority, hpriority, h⟩ := bind_ok_iff.mp h
    rw [beAt_eq (by omega), ok_bind, slice_ok (by omega) (by omega), ok_bind] at h
    obtain ⟨message_id, hid, h⟩ := bind_ok_iff.mp h
    rw [beAt_eq (by omega), ok_bind, beAt_eq (by omega), ok_bind, beAt_eq (by omega), ok_bind,
      beAt_eq (by omega), ok_bind, beAt_eq (by omega), ok_bind, beAt_eq (by omega), ok_bind,
      pure_eq, ok.injEq] at h
    subst h
    rw [index_eq_ok_iff] at hflags hp
    exact ⟨hlen, ensure_eq_ok_iff.mp hmagic, ensure_eq_ok_iff.mp hversion, by rw [hflags]; rfl,
      by rw [hp]; exact congrArg some hpriority, rfl, okOr_eq_ok_iff.mp hid, rfl, rfl, rfl, rfl, rfl,
      rfl⟩
  · intro h
    have hlen : 64 ≤ buf.length := h.length
    obtain ⟨flags, hflags, hf⟩ := Option.map_eq_some_iff.mp h.flags
    obtain ⟨p, hp, hpriority⟩ := Option.map_eq_some_iff.mp h.priority
    unfold decode_header
    rw [ensure_ok _ h.length, ok_bind, beAt_eq (by omega), ok_bind, ensure_ok _ h.magic, ok_bind,
      beAt_eq (by omega), ok_bind, ensure_ok _ h.version, ok_bind, index_eq_ok_iff.mpr hflags, ok_bind,
      index_eq_ok_iff.mpr hp, ok_bind, hpriority, ok_bind, beAt_eq (by omega), ok_bind,
      slice_ok (by omega) (by omega), ok_bind, h.message_id, okOr_some, ok_bind,
      beAt_eq (by omega), ok_bind, beAt_eq (by omega), ok_bind, beAt_eq (by omega), ok_bind,
      beAt_eq (by omega), ok_bind, beAt_eq (by omega), ok_bind, beAt_eq (by omega), ok_bind,
      ← h.timestamp_ms, ← h.ttl_ms, ← h.max_body_size, ← h.topic_len, ← h.header_count,
      ← h.total_len, ← h.key_id, hf]
    rfl

/-- An accepted header needs 64 bytes. -/
theorem length_of_decode_header {buf : Bytes} {header : WireHeader}
    (h : decode_header buf = .ok header) : 64 ≤ buf.length :=
  (decode_header_eq_ok_iff.mp h).length

/-- A decoded key id has two bits. -/
theorem key_id_of_le (v : UInt16) : key_id_of v ≤ 3 := by
  rw [UInt8.le_iff_toNat_le, key_id_of, UInt16.toNat_toUInt8, UInt16.toNat_and]
  exact Nat.le_trans (Nat.mod_le _ _) Nat.and_le_right

/-! ## The round trip -/

private theorem key_id_key_ttl : ∀ k : BitVec 8,
    key_id_of (key_ttl ⟨k⟩) = ⟨k⟩ &&& 0x03 := by
  decide

theorem key_id_of_key_ttl (k : UInt8) : key_id_of (key_ttl k) = k &&& 0x03 :=
  key_id_key_ttl k.toBitVec

/-- The two bits are the whole key id of a key id below 4. -/
theorem key_id_and_mask {k : UInt8} (h : k ≤ 3) : k &&& 0x03 = k := by
  have hk : ∀ k : BitVec 8, k ≤ 3#8 → k &&& 3#8 = k := by decide
  exact UInt8.eq_of_toBitVec_eq (hk k.toBitVec h)

/-- **Header round trip.** `decode_header` reads every field of an encoded header, whatever follows
it; of the key id it reads the two bits that the header has room for. -/
theorem decode_header_encode (header : WireHeader) (checksum rest : Bytes)
    (hc : checksum.length = 8) :
    decode_header (header_fields header ++ (checksum ++ rest)) =
      .ok { header with key_id := header.key_id &&& 0x03 } := by
  generalize hbuf : header_fields header ++ (checksum ++ rest) = buf
  have hlen : HEADER_SIZE ≤ buf.length := by
    rw [← hbuf]; simp [HEADER_SIZE, hc]; omega
  -- The cursor goes over the fields in the order of `header_fields`.
  have c0 : At buf 0 (header_fields header ++ (checksum ++ rest)) := hbuf ▸ At.start _
  simp only [header_fields, List.append_assoc] at c0
  have c4 := c0.advance
  have c6 := c4.advance
  have c8 := c6.advance
  have c10 := c8.advance
  have c11 := c10.advance
  have c12 := c11.advance
  have c14 := c12.advance
  have c16 := c14.advance
  have c32 := c16.advance
  have c40 := c32.advance
  have c44 := c40.advance
  have c48 := c44.advance
  have c50 := c48.advance
  have c52 := c50.advance
  simp only [length_toBe, header.message_id.len, List.length_cons, List.length_nil, Nat.zero_add,
    Nat.reduceAdd] at c4 c6 c8 c10 c11 c12 c14 c16 c32 c40 c44 c48 c50 c52
  have hid : (slice buf 16 (16 + header.message_id.bytes.length) : Res KernelError Bytes) = _ :=
    c16.slice
  rw [header.message_id.len] at hid
  unfold decode_header
  rw [ensure_ok _ hlen, ok_bind, beAt_ok c0 (UInt32.toNat_lt _), ok_bind, ensure_ok _ rfl, ok_bind,
    beAt_ok c4 (UInt16.toNat_lt _), ok_bind, ensure_ok _ rfl, ok_bind, c10.index, ok_bind, c11.index,
    ok_bind, decode_priority_toUInt8, ok_bind, beAt_ok c14 (UInt16.toNat_lt _), ok_bind, hid, ok_bind,
    Uuid.from_slice_bytes, okOr_some, ok_bind, beAt_ok c32 (UInt64.toNat_lt _), ok_bind,
    beAt_ok c40 (UInt32.toNat_lt _), ok_bind, beAt_ok c44 (UInt32.toNat_lt _), ok_bind,
    beAt_ok c48 (UInt16.toNat_lt _), ok_bind, beAt_ok c50 (UInt16.toNat_lt _), ok_bind,
    beAt_ok c52 (UInt32.toNat_lt _), ok_bind]
  simp [Flags.from_byte_as_byte, key_id_of_key_ttl]

end Aqap.Wire
