import Aqap.Wire.RoundTrip

/-!
# The signature of a frame

`decode_message` takes as many bytes as the signature mode of the flags says off the end of the buffer
and returns them. It has no key, and the checksum does not cover them. So whoever sees an accepted frame
can put any signature in the place of its own, and any signature mode in the place of the one it was
signed with.

* `decode_header_congr`: a header with another flags byte.
* `signature_unprotected`: another signature of the same length, with the header as it was.
* `resigned_accepted`: another mode with a signature for it, or none.
-/

namespace Aqap.Wire

open Rust Rust.Res

variable {V : Type} {K : Crates V} {header : WireHeader} {buf buf' : Bytes}

/-! ## A header with other flags -/

/-- The bytes of a field are the ones at its offsets. -/
theorem take_drop_congr {w o : Nat} (h : ∀ i, o ≤ i → i < o + w → buf'[i]? = buf[i]?) :
    (buf'.drop o).take w = (buf.drop o).take w := by
  apply List.ext_getElem?
  intro i
  simp only [List.getElem?_take, List.getElem?_drop]
  split
  · exact h (o + i) (by omega) (by omega)
  · rfl

theorem field_congr {w o : Nat} (h : ∀ i, o ≤ i → i < o + w → buf'[i]? = buf[i]?) :
    field w buf' o = field w buf o := by
  rw [field, field, take_drop_congr h]

/-- **A buffer that differs from an accepted one in byte 10** has the header with other flags, whatever
follows byte 55. -/
theorem decode_header_congr (hheader : decode_header buf = .ok header) {flags : Flags}
    (hlen : HEADER_SIZE ≤ buf'.length) (hflags : buf'[10]?.map Flags.from_byte = some flags)
    (hsame : ∀ i, i < 56 → i ≠ 10 → buf'[i]? = buf[i]?) :
    decode_header buf' = .ok { header with flags := flags } := by
  have h := decode_header_eq_ok_iff.mp hheader
  -- Every field but the flags lies before byte 10 or between bytes 11 and 55.
  have hfield : ∀ {w o : Nat}, o + w ≤ 10 ∨ 10 < o → o + w ≤ 56 → field w buf' o = field w buf o := by
    intro w o hside hend
    exact field_congr fun i hi hi' => hsame i (by omega) (by omega)
  have hid : (buf'.drop 16).take 16 = (buf.drop 16).take 16 :=
    take_drop_congr fun i hi hi' => hsame i (by omega) (by omega)
  apply decode_header_eq_ok_iff.mpr
  constructor
  case length => exact hlen
  case magic => rw [hfield (by omega) (by omega), h.magic]
  case version => rw [hfield (by omega) (by omega), h.version]
  case flags => exact hflags
  case priority => rw [hsame 11 (by decide) (by decide), h.priority]
  case key_id => rw [hfield (by omega) (by omega)]; exact h.key_id
  case message_id => rw [hid]; exact h.message_id
  case timestamp_ms => rw [hfield (by omega) (by omega)]; exact h.timestamp_ms
  case ttl_ms => rw [hfield (by omega) (by omega)]; exact h.ttl_ms
  case max_body_size => rw [hfield (by omega) (by omega)]; exact h.max_body_size
  case topic_len => rw [hfield (by omega) (by omega)]; exact h.topic_len
  case header_count => rw [hfield (by omega) (by omega)]; exact h.header_count
  case total_len => rw [hfield (by omega) (by omega)]; exact h.total_len

/-! ## The parts of an accepted buffer -/

/-- A buffer with room is its parts. -/
theorem eq_frame_parts (hroom : HasRoom header buf) :
    buf = buf.take 56 ++ ((buf.drop 56).take 8 ++
      (frame_topic header buf ++ (frame_compressed header buf ++ frame_signature header buf))) := by
  rw [HasRoom, HEADER_SIZE] at hroom
  have htail : frame_compressed header buf ++ frame_signature header buf =
      buf.drop (HEADER_SIZE + header.topic_len.toNat) := by
    have hend : frame_signature header buf = (buf.drop (HEADER_SIZE + header.topic_len.toNat)).drop
        (buf.length - header.flags.signature_mode.sig_len -
          (HEADER_SIZE + header.topic_len.toNat)) := by
      rw [frame_signature, List.drop_drop]
      congr 1
      rw [HEADER_SIZE]
      omega
    rw [hend, frame_compressed, List.take_append_drop]
  have htopic : frame_topic header buf ++ buf.drop (HEADER_SIZE + header.topic_len.toNat) =
      buf.drop HEADER_SIZE := by
    rw [frame_topic, ← List.drop_drop, List.take_append_drop]
  have hcheck : (buf.drop 56).take 8 ++ buf.drop HEADER_SIZE = buf.drop 56 := by
    rw [HEADER_SIZE, ← List.drop_drop (i := 8) (j := 56), List.take_append_drop]
  rw [htail, htopic, hcheck, List.take_append_drop]

/-- Past the checks, a frame whose header, topic and block were accepted is accepted with any signature of
the length that its header says. -/
theorem decode_of_parts {flags : Flags} {topic : String} {msg_block : Bytes} {block : Block V}
    (hunpacks : Unpacks K buf header topic msg_block)
    (hblock : decode_block K msg_block header.flags.encoding = .ok block)
    (hencoding : flags.encoding = header.flags.encoding)
    (hcompression : flags.compression = header.flags.compression)
    {hdr checksum signature : Bytes} (hhdr : hdr.length = 56) (hck : checksum.length = 8)
    (hsig : signature.length = flags.signature_mode.sig_len)
    (hheader : decode_header (hdr ++ (checksum ++ (frame_topic header buf ++
      (frame_compressed header buf ++ signature)))) = .ok { header with flags := flags })
    (hsum : ofBe checksum = 0 ∨
      (K.xxh64 (hdr ++ frame_topic header buf ++ frame_compressed header buf)).toNat = ofBe checksum) :
    decode_message K (hdr ++ (checksum ++ (frame_topic header buf ++
      (frame_compressed header buf ++ signature)))) =
      .ok (message_of { header with flags := flags } topic block signature) := by
  have htopic := utf8_of_from_utf8 hunpacks.topic_ok
  have hlen : (utf8 topic).length = header.topic_len.toNat := by
    have hroom := hunpacks.room
    rw [HasRoom] at hroom
    rw [htopic, frame_topic, List.length_take, List.length_drop]
    omega
  generalize hnew : ({ header with flags := flags } : WireHeader) = header' at hheader ⊢
  have hflags : header'.flags = flags := by rw [← hnew]
  have htl : header'.topic_len = header.topic_len := by rw [← hnew]
  rw [← htl] at hlen
  rw [← hflags] at hencoding hcompression hsig
  rw [← htopic] at hheader hsum ⊢
  rw [decode_message_append hhdr hck hlen hsig hheader hsum, hcompression, hunpacks.block, ok_bind,
    hencoding, hblock, ok_bind]

/-- The sample message with a signature of 32 bytes. -/
def signed_message : WireMessage Bool :=
  { sample_message "s" "r" true with
    flags := Flags.new .Json .None .HmacSha256, signature := List.replicate 32 0xaa }

def signed_iteration : Iteration signed_message.headers := sample_iteration "s" "r" true

theorem signed_fieldsFit : FieldsFit signed_message :=
  have h := @sample_fieldsFit "s" "r" true (by decide) (by decide)
  ⟨h.topic, h.source, h.target, h.count, h.entry⟩

/-- Its frame. -/
def signed_frame : Bytes :=
  encode_message_with_flags (bool_crates 0xbb3b1794879bd0ea) signed_message signed_iteration
    signed_message.flags

theorem decode_signed_frame :
    decode_message (bool_crates 0xbb3b1794879bd0ea) signed_frame = .ok signed_message := by
  have hrep : Representable signed_message signed_message.flags := ⟨UInt8.zero_le, trivial, by decide⟩
  have hlen : (encode_body (bool_crates 0xbb3b1794879bd0ea) signed_message.body
      signed_message.flags.encoding).length ≤ 65535 := by decide
  rw [signed_frame, decode_message_encode (bool_crates_losslessBody _) (bool_crates_losslessBlocks _)
    signed_iteration signed_fieldsFit hlen hrep (by decide)]

/-! ## Another signature -/

/-- **No one checks the signature.** An accepted frame with its signature replaced by any bytes of that
length, and nothing else changed, is accepted as the same message with these bytes as its signature. -/
theorem signature_unprotected {buf : Bytes} {msg : WireMessage V} (hdec : decode_message K buf = .ok msg)
    (signature : Bytes) (hlen : signature.length = msg.signature.length) :
    decode_message K (buf.take (buf.length - signature.length) ++ signature) =
      .ok { msg with signature := signature } := by
  obtain ⟨header, topic, msg_block, block, hunpacks, hblock, rfl⟩ := decode_message_eq_ok_iff.mp hdec
  have hroom := hunpacks.room
  have h64 := length_of_decode_header hunpacks.header_ok
  have hsig : signature.length = header.flags.signature_mode.sig_len := by
    rw [hlen]
    exact length_frame_signature hroom
  have hparts := eq_frame_parts hroom
  have hcut : buf.take (buf.length - signature.length) = buf.take 56 ++ ((buf.drop 56).take 8 ++
      (frame_topic header buf ++ frame_compressed header buf)) := by
    have hback : buf.take (buf.length - signature.length) ++ frame_signature header buf = buf := by
      rw [hsig, frame_signature, List.take_append_drop]
    have hsame : buf.take (buf.length - signature.length) ++ frame_signature header buf =
        (buf.take 56 ++ ((buf.drop 56).take 8 ++ (frame_topic header buf ++ frame_compressed header buf))) ++
          frame_signature header buf := by
      rw [hback]
      simp only [List.append_assoc]
      exact hparts
    exact List.append_cancel_right hsame
  have hfirst : ∀ i, i < 56 →
      (buf.take (buf.length - signature.length) ++ signature)[i]? = buf[i]? := by
    intro i hi
    rw [HasRoom, HEADER_SIZE] at hroom
    rw [List.getElem?_append_left (by rw [List.length_take]; omega), List.getElem?_take, if_pos (by omega)]
  have hheader : decode_header (buf.take (buf.length - signature.length) ++ signature) = .ok header := by
    refine decode_header_congr hunpacks.header_ok ?_ ?_ fun i hi _ => hfirst i hi
    · rw [HEADER_SIZE, List.length_append, List.length_take]
      omega
    · rw [hfirst 10 (by decide)]
      exact (decode_header_eq_ok_iff.mp hunpacks.header_ok).flags
  rw [hcut] at hheader ⊢
  simp only [List.append_assoc] at hheader ⊢
  refine decode_of_parts hunpacks hblock rfl rfl ?_ ?_ hsig hheader ?_
  · rw [List.length_take]
    omega
  · rw [List.length_take, List.length_drop]
    omega
  · exact hunpacks.checksum

/-- Not the signature of the sample frame. -/
def other_signature : Bytes := List.replicate 32 0x00

theorem signature_unprotected_sample :
    decode_message (bool_crates 0xbb3b1794879bd0ea)
      (signed_frame.take (signed_frame.length - other_signature.length) ++ other_signature) =
      .ok { signed_message with signature := other_signature } :=
  signature_unprotected decode_signed_frame other_signature (by decide)

/-! ## Another mode -/

variable (K) in
/-- A frame with other flags and another signature, and its checksum computed again. It takes no key. -/
def resign (header : WireHeader) (buf : Bytes) (flags : Flags) (signature : Bytes) : Bytes :=
  let hdr := (buf.take 56).set 10 flags.as_byte
  let topic := frame_topic header buf
  let compressed := frame_compressed header buf
  hdr ++ (toBe 8 (K.xxh64 (hdr ++ topic ++ compressed)).toNat ++ (topic ++ (compressed ++ signature)))

/-- **A frame can be signed anew, or stripped of its signature.** From every accepted frame, every
signature mode and every bytes of its length, `resign` makes a frame that is accepted as the same message
with that mode and these bytes. -/
theorem resigned_accepted {buf : Bytes} {msg : WireMessage V} (hdec : decode_message K buf = .ok msg)
    (mode : SignatureMode) (signature : Bytes) (hlen : signature.length = mode.sig_len) :
    ∃ header, decode_header buf = .ok header ∧
      decode_message K (resign K header buf
        (Flags.new msg.flags.encoding msg.flags.compression mode) signature) =
        .ok { msg with
          flags := Flags.new msg.flags.encoding msg.flags.compression mode, signature := signature } := by
  obtain ⟨header, topic, msg_block, block, hunpacks, hblock, rfl⟩ := decode_message_eq_ok_iff.mp hdec
  refine ⟨header, hunpacks.header_ok, ?_⟩
  have h64 := length_of_decode_header hunpacks.header_ok
  obtain ⟨hencoding, hcompression, hmode⟩ := Flags.new_fields header.flags.encoding
    header.flags.compression mode
  have hhdr : ((buf.take 56).set 10 (Flags.new header.flags.encoding header.flags.compression
      mode).as_byte).length = 56 := by
    rw [List.length_set, List.length_take]
    omega
  show decode_message K (resign K header buf (Flags.new header.flags.encoding header.flags.compression
    mode) signature) = _
  unfold resign
  refine decode_of_parts hunpacks hblock hencoding hcompression hhdr (length_toBe _ _)
    (by rw [hlen, hmode]) ?_ (.inr (ofBe_toBe_of_lt (UInt64.toNat_lt _)).symm)
  refine decode_header_congr hunpacks.header_ok ?_ ?_ ?_
  · rw [HEADER_SIZE, List.length_append, List.length_append, hhdr, length_toBe]
    omega
  · rw [List.getElem?_append_left (by omega), List.getElem?_set_self (by rw [List.length_take]; omega),
      Option.map_some, Flags.from_byte_as_byte]
  · intro i hi hne
    rw [List.getElem?_append_left (by omega), List.getElem?_set_ne (Ne.symm hne), List.getElem?_take,
      if_pos hi]

/-- The sample frame without its signature. -/
theorem resigned_accepted_stripped :
    ∃ header, decode_header signed_frame = .ok header ∧
      decode_message (bool_crates 0xbb3b1794879bd0ea) (resign (bool_crates 0xbb3b1794879bd0ea) header
        signed_frame (Flags.new signed_message.flags.encoding signed_message.flags.compression .None) []) =
        .ok { signed_message with
          flags := Flags.new signed_message.flags.encoding signed_message.flags.compression .None
          signature := [] } :=
  resigned_accepted decode_signed_frame .None [] rfl

end Aqap.Wire
