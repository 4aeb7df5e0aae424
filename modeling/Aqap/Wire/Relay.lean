import Aqap.Wire.Smuggling

/-!
# Relaying a message

A relay decodes a frame and encodes the message again. Whatever the decoder accepts, the encoder can
represent: each decoded field came from a field of the same width.

* `representable_of_decode`: a decoded message has a two-bit key id, a message type that reads back,
  and a signature of the length of its mode, whatever the reserved bits of the frame held.
* `decode_encode_of_decode`: the relayed frame decodes to the same message, in whatever order its
  headers are written.
-/

namespace Aqap.Wire

open Rust Rust.Res

variable {V : Type} {K : Crates V}

/-- **Every decoded message can be represented.** -/
theorem representable_of_decode {buf : Bytes} {msg : WireMessage V}
    (h : decode_message K buf = .ok msg) : Representable msg msg.flags := by
  obtain ⟨header, topic, msg_block, block, hunpacks, hdecode, rfl⟩ := decode_message_eq_ok_iff.mp h
  obtain ⟨r, hr⟩ := decode_block_ok hdecode
  refine ⟨?_, ?_, length_frame_signature hunpacks.room⟩
  · show header.key_id ≤ 3
    rw [(decode_header_eq_ok_iff.mp hunpacks.header_ok).key_id]
    exact key_id_of_le _
  · show block.msg_type.Canonical
    rw [hr.msg_type]
    exact MessageType.canonical_from_u16 _

/-- **Relay stability.** What the decoder accepts, encoded again, decodes to the same message. -/
theorem decode_encode_of_decode (hbody : LosslessBody K) (hblocks : LosslessBlocks K) {buf : Bytes}
    {msg : WireMessage V} (hdec : decode_message K buf = .ok msg)
    (hcomp : msg.flags.compression ≠ .Lz4)
    (hlen : (encode_body K msg.body msg.flags.encoding).length ≤ 65535)
    (it : Iteration msg.headers) :
    decode_message K (encode_message K msg it) = .ok msg := by
  have hrep := representable_of_decode hdec
  have hfit := fieldsFit_of_decode hdec
  exact decode_encode_of_body_le it msg.flags (bodyReadsBack_of_lossless hbody _ _) hfit hlen hrep fun data =>
    decompress_compress hblocks data hcomp

/-- The sample message, relayed. -/
theorem decode_encode_of_decode_sample :
    decode_message (bool_crates 0xbb3b1794879bd0ea) (encode_message (bool_crates 0xbb3b1794879bd0ea)
      (sample_message "s" "r" true) (sample_iteration "s" "r" true)) =
      .ok (sample_message "s" "r" true) :=
  decode_encode_of_decode (bool_crates_losslessBody _) (bool_crates_losslessBlocks _)
    (decode_encode_of_body_le (sample_iteration "s" "r" true) (Flags.new .Json .None .None)
      (bodyReadsBack_of_lossless (bool_crates_losslessBody 0xbb3b1794879bd0ea) _ _)
      (sample_fieldsFit true (by decide) (by decide)) (by decide) (sample_representable "s" "r" true)
      fun _ => rfl)
    (by decide) (by decide) (sample_iteration "s" "r" true)

end Aqap.Wire
