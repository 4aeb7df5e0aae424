import Aqap.Wire.RoundTrip

/-!
# The checksum of accepted frames

`decode_message` compares the checksum field with the xxHash64 of the header, the topic and the block
unless the field is zero.

* `checksum_of_decode`: the checksum field of an accepted buffer is zero or the digest.
* `tampered_rejected`: a buffer whose field is neither is rejected, wherever its topic length and its
  signature mode put the boundaries.
-/

namespace Aqap.Wire

open Rust Rust.Res

variable {V : Type} {K : Crates V}

/-- The checksum field of an accepted buffer is zero or the digest of the buffer. -/
theorem checksum_of_decode {buf : Bytes} {msg : WireMessage V} {header : WireHeader}
    (hdec : decode_message K buf = .ok msg) (hheader : decode_header buf = .ok header) :
    frame_checksum buf = 0 ∨ frame_checksum buf = (frame_digest K header buf).toNat := by
  obtain ⟨header', topic, msg_block, block, hunpacks, -, -⟩ := decode_message_eq_ok_iff.mp hdec
  have heq : header' = header := by
    have h := hunpacks.header_ok
    rw [hheader, ok.injEq] at h
    exact h.symm
  subst heq
  exact hunpacks.checksum.imp_right Eq.symm

/-- The frame `buf'` is not the valid frame `buf` any more: its digest is another one, and its checksum
field is the old one, or one that is neither zero nor its digest. -/
structure Tampered (K : Crates V) (buf buf' : Bytes) (header header' : WireHeader) : Prop where
  digest : frame_digest K header' buf' ≠ frame_digest K header buf
  checksum : (frame_checksum buf' = frame_checksum buf ∧ frame_checksum buf ≠ 0) ∨
    (frame_checksum buf' ≠ 0 ∧ frame_checksum buf' ≠ (frame_digest K header' buf').toNat)

theorem tampered_rejected {buf buf' : Bytes} {msg : WireMessage V} {header : WireHeader}
    (hdec : decode_message K buf = .ok msg) (hheader : decode_header buf = .ok header)
    (h : ∀ header', decode_header buf' = .ok header' → Tampered K buf buf' header header') :
    ∀ msg', decode_message K buf' ≠ .ok msg' := by
  intro msg' hdec'
  obtain ⟨header', topic, msg_block, block, hunpacks, -, -⟩ := decode_message_eq_ok_iff.mp hdec'
  have h := h header' hunpacks.header_ok
  have hsum' := checksum_of_decode hdec' hunpacks.header_ok
  rcases h.checksum with ⟨hsame, hne⟩ | ⟨hne, hdigest⟩
  · -- The field still holds the digest of the valid frame.
    have hsum := (checksum_of_decode hdec hheader).resolve_left hne
    rw [hsame] at hsum'
    have heq := hsum'.resolve_left hne
    rw [hsum] at heq
    exact h.digest (UInt64.toNat_inj.mp heq.symm)
  · exact hsum'.elim hne hdigest

/-- **Integrity of accepted frames.** The checksum field is zero or the digest of bytes 0-55, the topic
and the block; and a valid frame with a nonzero checksum field that is changed in the header, the
topic or the block so that its digest changes is rejected, as is one with another nonzero field that is
not its digest. -/
theorem integrity (K : Crates V) :
    (∀ (buf : Bytes) (msg : WireMessage V), decode_message K buf = .ok msg →
      ∃ header, decode_header buf = .ok header ∧
        (frame_checksum buf = 0 ∨ frame_checksum buf = (frame_digest K header buf).toNat)) ∧
    (∀ (buf buf' : Bytes) (msg : WireMessage V) (header : WireHeader),
      decode_message K buf = .ok msg → decode_header buf = .ok header →
      (∀ header', decode_header buf' = .ok header' → Tampered K buf buf' header header') →
      ∀ msg', decode_message K buf' ≠ .ok msg') := by
  refine ⟨?_, ?_⟩
  · intro buf msg hdec
    obtain ⟨header, topic, msg_block, block, hunpacks, -, -⟩ := decode_message_eq_ok_iff.mp hdec
    exact ⟨header, hunpacks.header_ok, checksum_of_decode hdec hunpacks.header_ok⟩
  · intro buf buf' msg header hdec hheader htampered
    exact tampered_rejected hdec hheader htampered

/-- The crates on the frames with the blocks `true_block` and `false_byte_block`; the constants are their
xxHash64. -/
def summed_crates : Crates Bool :=
  { bool_crates 0 with
    xxh64 := fun bs => if bs.getLast? = some 0x65 then 0x0b1025c5c71cbf82 else 0x11bff57761026d09 }

/-- The last byte of the body is another one. -/
def false_byte_block : Bytes := true_block.dropLast ++ [0x66]

/-- A frame with a block and the checksum of `true_block`. -/
def summed_frame (msg_block : Bytes) : Bytes :=
  header_fields plain_header ++ (toBe 8 0x0b1025c5c71cbf82 ++ (utf8 "" ++ (msg_block ++ [])))

/-- The checksum field does not enter the header. -/
theorem decode_header_summed (msg_block : Bytes) :
    decode_header (summed_frame msg_block) = .ok plain_header := by
  rw [summed_frame, decode_header_encode plain_header _ _ (length_toBe 8 _)]
  rfl

/-- A frame of which one byte of the body was changed. -/
theorem integrity_changed_byte :
    ¬ ∃ msg', decode_message summed_crates (summed_frame false_byte_block) = .ok msg' := by
  have hbody : ∃ block, decode_block summed_crates true_block .Json = .ok block :=
    ⟨_, decode_true_block 0⟩
  have hread : decode_message summed_crates (summed_frame true_block) =
      (decompress_if_needed summed_crates true_block .None >>= fun msg_block =>
        decode_block summed_crates msg_block .Json >>= fun block =>
          .ok (message_of plain_header "" block [])) :=
    decode_message_append (length_header_fields plain_header) (length_toBe 8 _) rfl rfl
      (decode_header_summed true_block) (.inr (by decide +kernel))
  obtain ⟨block, hblock⟩ := hbody
  have hdec : decode_message summed_crates (summed_frame true_block) =
      .ok (message_of plain_header "" block []) := by
    have hplain : decompress_if_needed summed_crates true_block .None = .ok true_block := rfl
    rw [hread, hplain, ok_bind, hblock, ok_bind]
  have hrejected := (integrity summed_crates).2 (summed_frame true_block) (summed_frame false_byte_block)
    _ plain_header hdec (decode_header_summed true_block) fun header' hheader' => by
      cases (decode_header_summed false_byte_block).symm.trans hheader'
      exact ⟨by decide +kernel, .inl ⟨by decide +kernel, by decide +kernel⟩⟩
  exact fun ⟨msg', h⟩ => hrejected msg' h

/-- A frame with the zero checksum that `encode_header` leaves is accepted, although its digest is not
zero: the constant is its xxHash64. -/
theorem zero_checksum_accepted :
    ¬ ∀ (V : Type) (K : Crates V) (buf : Bytes) (msg : WireMessage V) (header : WireHeader),
      decode_message K buf = .ok msg → decode_header buf = .ok header →
      frame_checksum buf = (frame_digest K header buf).toNat := by
  intro h
  have hunpacks := plain_unpacks (K := bool_crates 0x0b1025c5c71cbf82) true_block
  obtain ⟨msg, hdec⟩ := hunpacks.accepted_iff.mpr ⟨_, decode_true_block _⟩
  have hsum := h _ _ _ msg _ hdec hunpacks.header_ok
  have hzero : frame_checksum (plain_frame true_block) = 0 := by decide
  have hdigest : (frame_digest (bool_crates 0x0b1025c5c71cbf82) plain_header
      (plain_frame true_block)).toNat = 0x0b1025c5c71cbf82 := rfl
  rw [hzero, hdigest] at hsum
  cases hsum

end Aqap.Wire
