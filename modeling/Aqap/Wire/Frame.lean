import Aqap.Wire.Message

/-!
# The parts of a frame

`decode_message` cuts a buffer into header, topic, message block and signature by the topic length
and the signature mode of its header.

* `decode_message_eq`: past its checks, `decode_message` decompresses the block and decodes it.
* `decode_message_eq_ok_iff`: exactly what an accepted buffer went through.
* `decode_message_append`: the same for a buffer that is given by its parts.
-/

namespace Aqap.Wire

open Rust Rust.Res

variable {V : Type} (K : Crates V)

/-- `&buf[topic_start..topic_end]`. -/
def frame_topic (header : WireHeader) (buf : Bytes) : Bytes :=
  (buf.drop HEADER_SIZE).take header.topic_len.toNat

/-- `&buf[msg_start..msg_end]`, the compressed message block. -/
def frame_compressed (header : WireHeader) (buf : Bytes) : Bytes :=
  (buf.drop (HEADER_SIZE + header.topic_len.toNat)).take
    (buf.length - header.flags.signature_mode.sig_len - (HEADER_SIZE + header.topic_len.toNat))

/-- `&buf[msg_end..]`. -/
def frame_signature (header : WireHeader) (buf : Bytes) : Bytes :=
  buf.drop (buf.length - header.flags.signature_mode.sig_len)

/-- The checksum field, bytes 56-63. -/
def frame_checksum (buf : Bytes) : Nat := field 8 buf 56

/-- What the checksum field is compared with. -/
def frame_digest (header : WireHeader) (buf : Bytes) : UInt64 :=
  K.xxh64 (buf.take 56 ++ frame_topic header buf ++ frame_compressed header buf)

/-- The buffer has room for the topic and the signature. -/
def HasRoom (header : WireHeader) (buf : Bytes) : Prop :=
  HEADER_SIZE + header.topic_len.toNat + header.flags.signature_mode.sig_len ≤ buf.length

/-- The message that `decode_message` puts together. -/
def message_of (header : WireHeader) (topic : String) (block : Block V) (signature : Bytes) :
    WireMessage V where
  message_id := header.message_id
  topic
  timestamp_ms := header.timestamp_ms
  ttl_ms := header.ttl_ms
  max_body_size := header.max_body_size
  flags := header.flags
  priority := header.priority
  key_id := header.key_id
  trace_id := block.trace_id
  span_id := block.span_id
  correlation_id := block.correlation_id
  msg_type := block.msg_type
  source := block.source
  target := block.target
  headers := block.headers
  body := block.body
  signature

variable {K} {header : WireHeader} {buf : Bytes}

theorem length_frame_signature (hroom : HasRoom header buf) :
    (frame_signature header buf).length = header.flags.signature_mode.sig_len := by
  rw [HasRoom] at hroom
  rw [frame_signature, List.length_drop]
  omega

/-- `decode_signature` takes what the header's signature mode says. -/
theorem decode_signature_eq (hroom : HasRoom header buf) :
    decode_signature buf header.flags.signature_mode.sig_len
      (buf.length - header.flags.signature_mode.sig_len) = .ok (frame_signature header buf) := by
  rw [HasRoom] at hroom
  unfold decode_signature frame_signature
  split
  · rw [slice_ok (by omega) (Nat.le_refl _), List.take_of_length_le (by simp)]
  · rw [List.drop_of_length_le (by simp only [HEADER_SIZE] at hroom; omega)]

/-- **`decode_message` past its checks.** -/
theorem decode_message_eq {topic : String} (hheader : decode_header buf = .ok header)
    (hroom : HasRoom header buf) (htopic : from_utf8 (frame_topic header buf) = some topic)
    (hsum : frame_checksum buf = 0 ∨ (frame_digest K header buf).toNat = frame_checksum buf) :
    decode_message K buf =
      (decompress_if_needed K (frame_compressed header buf) header.flags.compression >>=
        fun msg_block => decode_block K msg_block header.flags.encoding >>= fun block =>
          .ok (message_of header topic block (frame_signature header buf))) := by
  have hlen := length_of_decode_header hheader
  have hsig := decode_signature_eq hroom
  rw [HasRoom] at hroom
  have htb : (slice buf HEADER_SIZE (HEADER_SIZE + header.topic_len.toNat) :
      Res KernelError Bytes) = .ok (frame_topic header buf) := by
    rw [slice_ok (by omega) (by omega), Nat.add_sub_cancel_left, frame_topic]
  have hcb : (slice buf (HEADER_SIZE + header.topic_len.toNat)
      (buf.length - header.flags.signature_mode.sig_len) : Res KernelError Bytes) =
        .ok (frame_compressed header buf) := by
    rw [slice_ok (by omega) (by omega), frame_compressed]
  have hck : beAt 8 buf 56 = .ok (frame_checksum buf) := beAt_eq (by omega)
  have hhdr : (slice buf 0 56 : Res KernelError Bytes) = .ok (buf.take 56) := by
    rw [slice_ok (by omega) (by omega)]
    rfl
  rw [frame_digest] at hsum
  unfold decode_message
  rw [hheader, ok_bind]
  simp only []
  rw [ensure_ok _ (by omega), ok_bind, htb, ok_bind, htopic, okOr_some, ok_bind,
    usizeSub_ok (by omega), ok_bind, hcb, ok_bind, hck, ok_bind, hhdr, ok_bind,
    ensure_ok _ hsum, ok_bind]
  congr 1
  funext msg_block
  congr 1
  funext block
  rw [hsig, ok_bind]
  rfl

variable (K) in
/-- The buffer passes the checks of `decode_message` before its message block, which decompresses to
`msg_block`. -/
structure Unpacks (buf : Bytes) (header : WireHeader) (topic : String) (msg_block : Bytes) :
    Prop where
  header_ok : decode_header buf = .ok header
  room : HasRoom header buf
  topic_ok : from_utf8 (frame_topic header buf) = some topic
  checksum : frame_checksum buf = 0 ∨ (frame_digest K header buf).toNat = frame_checksum buf
  block : decompress_if_needed K (frame_compressed header buf) header.flags.compression =
    .ok msg_block

theorem Unpacks.decode {topic : String} {msg_block : Bytes}
    (h : Unpacks K buf header topic msg_block) :
    decode_message K buf = (decode_block K msg_block header.flags.encoding >>= fun block =>
      .ok (message_of header topic block (frame_signature header buf))) := by
  rw [decode_message_eq h.header_ok h.room h.topic_ok h.checksum, h.block, ok_bind]

theorem Unpacks.accepted_iff {topic : String} {msg_block : Bytes}
    (h : Unpacks K buf header topic msg_block) :
    (∃ msg, decode_message K buf = .ok msg) ↔
      ∃ block, decode_block K msg_block header.flags.encoding = .ok block := by
  simp only [h.decode, bind_ok_iff]
  constructor
  · rintro ⟨_, block, hdec, -⟩
    exact ⟨block, hdec⟩
  · rintro ⟨block, hdec⟩
    exact ⟨_, block, hdec, rfl⟩

/-- **Exactly what an accepted buffer went through.** -/
theorem decode_message_eq_ok_iff {msg : WireMessage V} :
    decode_message K buf = .ok msg ↔
      ∃ header topic msg_block block, Unpacks K buf header topic msg_block ∧
        decode_block K msg_block header.flags.encoding = .ok block ∧
        msg = message_of header topic block (frame_signature header buf) := by
  constructor
  · intro h
    have h' := h
    unfold decode_message at h
    obtain ⟨header, hheader, h⟩ := bind_ok_iff.mp h
    obtain ⟨_, -, h⟩ := bind_ok_iff.mp h
    simp only [] at h
    obtain ⟨topic_bytes, htb, h⟩ := bind_ok_iff.mp h
    obtain ⟨topic, htopic, h⟩ := bind_ok_iff.mp h
    obtain ⟨msg_end, hend, h⟩ := bind_ok_iff.mp h
    obtain ⟨compressed, hcompressed, h⟩ := bind_ok_iff.mp h
    obtain ⟨expected_checksum, hck, h⟩ := bind_ok_iff.mp h
    obtain ⟨hdr, hhdr, h⟩ := bind_ok_iff.mp h
    obtain ⟨_, hsum, -⟩ := bind_ok_iff.mp h
    have hlen := length_of_decode_header hheader
    obtain ⟨-, -, rfl⟩ := slice_eq_ok_iff.mp htb
    obtain ⟨hsig, rfl⟩ := usizeSub_eq_ok_iff.mp hend
    obtain ⟨hle, -, rfl⟩ := slice_eq_ok_iff.mp hcompressed
    obtain ⟨-, -, rfl⟩ := slice_eq_ok_iff.mp hhdr
    rw [okOr_eq_ok_iff, Nat.add_sub_cancel_left] at htopic
    rw [beAt_eq (by omega), ok.injEq] at hck
    subst hck
    have hroom : HasRoom header buf := by rw [HasRoom]; omega
    have hsum := ensure_eq_ok_iff.mp hsum
    simp only [Nat.add_sub_cancel_left, Nat.sub_zero, List.drop_zero] at hsum
    rw [decode_message_eq hheader hroom htopic hsum] at h'
    obtain ⟨msg_block, hblock, h'⟩ := bind_ok_iff.mp h'
    obtain ⟨block, hdecode, h'⟩ := bind_ok_iff.mp h'
    exact ⟨header, topic, msg_block, block, ⟨hheader, hroom, htopic, hsum, hblock⟩, hdecode,
      (ok.inj h').symm⟩
  · rintro ⟨header, topic, msg_block, block, hunpacks, hdecode, rfl⟩
    rw [hunpacks.decode, hdecode, ok_bind]

/-! ## A buffer given by its parts -/

/-- A buffer that is laid out as its header says is cut into the parts that it was made of. -/
theorem frame_parts {hdr checksum topic compressed signature : Bytes}
    (hhdr : hdr.length = 56) (hck : checksum.length = 8)
    (htopic : topic.length = header.topic_len.toNat)
    (hsig : signature.length = header.flags.signature_mode.sig_len)
    (hbuf : buf = hdr ++ (checksum ++ (topic ++ (compressed ++ signature)))) :
    HasRoom header buf ∧ buf.take 56 = hdr ∧ frame_checksum buf = ofBe checksum ∧
      frame_topic header buf = topic ∧ frame_compressed header buf = compressed ∧
      frame_signature header buf = signature := by
  have h64 : (hdr ++ checksum).length = HEADER_SIZE := by simp [hhdr, hck, HEADER_SIZE]
  have hlen : buf.length = 64 + topic.length + compressed.length + signature.length := by
    rw [hbuf]
    simp only [List.length_append]
    omega
  have hmid : buf.drop HEADER_SIZE = topic ++ (compressed ++ signature) := by
    rw [hbuf, ← List.append_assoc, List.drop_left' h64]
  have hend : buf.length - header.flags.signature_mode.sig_len -
      (HEADER_SIZE + header.topic_len.toNat) = compressed.length := by
    rw [HEADER_SIZE]
    omega
  refine ⟨?_, ?_, ?_, ?_, ?_, ?_⟩
  · rw [HasRoom, HEADER_SIZE]
    omega
  · rw [hbuf, List.take_left' hhdr]
  · rw [frame_checksum, field, hbuf, List.drop_left' hhdr, List.take_left' hck]
  · rw [frame_topic, hmid, List.take_left' htopic]
  · rw [frame_compressed, hend, ← List.drop_drop, hmid, List.drop_left' htopic, List.take_left]
  · have hsplit : buf.length - header.flags.signature_mode.sig_len =
        HEADER_SIZE + (topic ++ compressed).length := by
      rw [HEADER_SIZE, List.length_append]
      omega
    rw [frame_signature, hsplit, ← List.drop_drop, hmid, ← List.append_assoc, List.drop_left]

/-- **What `decode_message` makes of the parts of a frame.** -/
theorem decode_message_append {hdr checksum compressed signature : Bytes} {topic : String}
    (hhdr : hdr.length = 56) (hck : checksum.length = 8)
    (htopic : (utf8 topic).length = header.topic_len.toNat)
    (hsig : signature.length = header.flags.signature_mode.sig_len)
    (hheader : decode_header (hdr ++ (checksum ++ (utf8 topic ++ (compressed ++ signature)))) =
      .ok header)
    (hsum : ofBe checksum = 0 ∨ (K.xxh64 (hdr ++ utf8 topic ++ compressed)).toNat = ofBe checksum) :
    decode_message K (hdr ++ (checksum ++ (utf8 topic ++ (compressed ++ signature)))) =
      (decompress_if_needed K compressed header.flags.compression >>= fun msg_block =>
        decode_block K msg_block header.flags.encoding >>= fun block =>
          .ok (message_of header topic block signature)) := by
  generalize hbuf : hdr ++ (checksum ++ (utf8 topic ++ (compressed ++ signature))) = buf at hheader ⊢
  obtain ⟨hroom, h56, h64, ht, hc, hs⟩ := frame_parts hhdr hck htopic hsig hbuf.symm
  rw [decode_message_eq hheader hroom (by rw [ht, from_utf8_utf8])
    (by rwa [h64, frame_digest, h56, ht, hc]), hc, hs]

/-- The header of a frame without topic, compression and signature. -/
def plain_header : WireHeader where
  message_id := Uuid.nil
  topic_len := 0
  header_count := 0
  total_len := 0
  timestamp_ms := 0
  ttl_ms := 0
  max_body_size := 0
  flags := Flags.new .Json .None .None
  priority := .Normal
  key_id := 0

/-- A frame with a block and a zero checksum field, under a header without topic, compression and
signature. -/
def unchecked_frame (header : WireHeader) (msg_block : Bytes) : Bytes :=
  header_fields header ++ (toBe 8 0 ++ msg_block)

theorem unchecked_unpacks {header : WireHeader} (htopic : header.topic_len = 0) (hkey : header.key_id ≤ 3)
    (hsig : header.flags.signature_mode.sig_len = 0) (hcomp : header.flags.compression = .None)
    (msg_block : Bytes) : Unpacks K (unchecked_frame header msg_block) header "" msg_block := by
  have hbuf : unchecked_frame header msg_block =
      header_fields header ++ (toBe 8 0 ++ ([] ++ (msg_block ++ []))) := by
    rw [List.nil_append, List.append_nil]
    rfl
  have hempty : ([] : Bytes).length = header.topic_len.toNat := by rw [htopic]; rfl
  have hunsigned : ([] : Bytes).length = header.flags.signature_mode.sig_len := hsig.symm
  obtain ⟨hroom, -, hck, ht, hc, -⟩ := frame_parts (length_header_fields header)
    (length_toBe 8 0) hempty hunsigned hbuf
  refine ⟨?_, hroom, ?_, .inl (by rw [hck]; rfl), ?_⟩
  · rw [unchecked_frame, decode_header_encode header _ _ (length_toBe 8 0), key_id_and_mask hkey]
  · rw [ht]
    rfl
  · rw [hc, hcomp]
    rfl

/-- A frame with a block and a zero checksum field. -/
def plain_frame (msg_block : Bytes) : Bytes := unchecked_frame plain_header msg_block

theorem plain_unpacks (msg_block : Bytes) :
    Unpacks K (plain_frame msg_block) plain_header "" msg_block :=
  unchecked_unpacks rfl (by decide) (by decide) (by decide) msg_block

end Aqap.Wire
