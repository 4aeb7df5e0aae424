import Aqap.Wire.Message

/-!
# When `decode_message` panics

Every access of `decode_message` is in bounds but one: the slice of the message block starts after
the topic and ends `sig_len` bytes before the end of the buffer, and no guard relates the two.

* `safe_decode_block`: the accesses to the decompressed block are in bounds, whatever the length
  fields say; `decode_headers` leaves its loop before an access that is not.
* `decode_message_safe_iff`: `decode_message` returns exactly on the buffers of `RoomForSignature`.
-/

namespace Aqap.Wire

open Rust Rust.Res

variable {V : Type} (K : Crates V)

@[simp] theorem safe_decode_body (data : Bytes) (encoding : Encoding) :
    (decode_body K data encoding).Safe := by
  cases encoding <;> exact safe_mapErr

@[simp] theorem safe_decompress_if_needed (data : Bytes) (compression : Compression) :
    (decompress_if_needed K data compression).Safe := by
  cases compression
  · exact safe_ok _
  all_goals exact safe_mapErr

/-- The header loop never reads out of bounds. -/
theorem safe_decode_headers (msg_block : Bytes) (n offset : Nat) (headers : Headers) :
    (decode_headers msg_block n offset headers).Safe := by
  induction n generalizing offset headers with
  | zero => exact safe_ok _
  | succ n ih =>
    unfold decode_headers
    split
    · exact safe_ok _
    refine (safe_index (by omega)).bind fun key_len _ => ?_
    simp only []
    split
    · exact safe_ok _
    refine (safe_slice (by omega) (by omega)).bind fun key _ => ?_
    refine (safe_beAt (by omega)).bind fun val_len _ => ?_
    split
    · exact safe_ok _
    exact (safe_slice (by omega) (by omega)).bind fun val _ => ih _ _

theorem safe_decode_block_tail (msg_block : Bytes) (encoding : Encoding)
    (source_len target_len : Nat) :
    (decode_block_tail K msg_block encoding source_len target_len).Safe := by
  unfold decode_block_tail
  refine Safe.bind safe_ensure fun _ hst => ?_
  rw [ensure_eq_ok_iff] at hst
  refine (safe_slice (by omega) (by omega)).bind fun source_bytes _ => ?_
  refine Safe.bind safe_okOr fun source _ => ?_
  refine (safe_slice (by omega) (by omega)).bind fun target_bytes _ => ?_
  refine Safe.bind safe_okOr fun target _ => ?_
  refine Safe.bind safe_ensure fun _ hhc => ?_
  rw [ensure_eq_ok_iff] at hhc
  refine (safe_beAt (by omega)).bind fun header_count _ => ?_
  refine (safe_decode_headers _ _ _ _).bind fun r _ => ?_
  refine Safe.bind safe_ensure fun _ hbl => ?_
  rw [ensure_eq_ok_iff] at hbl
  refine (safe_beAt (by omega)).bind fun body_len _ => ?_
  refine Safe.bind safe_ensure fun _ hb => ?_
  rw [ensure_eq_ok_iff] at hb
  refine (safe_slice (by omega) (by omega)).bind fun body_bytes _ => ?_
  exact (safe_decode_body K _ _).bind fun _ _ => safe_ok _

/-- **No decompressed block makes step 6 panic.** -/
theorem safe_decode_block (msg_block : Bytes) (encoding : Encoding) :
    (decode_block K msg_block encoding).Safe := by
  unfold decode_block
  refine Safe.bind safe_ensure fun _ hlen => ?_
  rw [ensure_eq_ok_iff] at hlen
  refine (safe_slice (by omega) (by omega)).bind fun id _ => ?_
  refine Safe.bind safe_okOr fun trace_id _ => ?_
  refine (safe_beAt (by omega)).bind fun span_id _ => ?_
  refine (safe_slice (by omega) (by omega)).bind fun id _ => ?_
  refine Safe.bind safe_okOr fun correlation_id _ => ?_
  refine (safe_beAt (by omega)).bind fun msg_type _ => ?_
  refine (safe_index (by omega)).bind fun source_len _ => ?_
  refine (safe_index (by omega)).bind fun target_len _ => ?_
  exact (safe_decode_block_tail K _ _ _ _).bind fun _ _ => safe_ok _

theorem safe_decode_signature {buf : Bytes} {sig_len msg_end : Nat} :
    (decode_signature buf sig_len msg_end).Safe := by
  unfold decode_signature
  split
  · exact safe_slice (by omega) (by omega)
  · exact safe_ok _

/-- If the header decodes and the topic is a UTF-8 string inside the buffer, then the buffer has
room for the signature after it. -/
def RoomForSignature (buf : Bytes) : Prop :=
  ∀ header, decode_header buf = .ok header →
    HEADER_SIZE + header.topic_len.toNat ≤ buf.length →
    (from_utf8 ((buf.drop HEADER_SIZE).take header.topic_len.toNat)).isSome →
    HEADER_SIZE + header.topic_len.toNat + header.flags.signature_mode.sig_len ≤ buf.length

/-- **`decode_message` returns exactly on the buffers that have room for the signature.** -/
theorem decode_message_safe_iff (buf : Bytes) :
    (decode_message K buf).Safe ↔ RoomForSignature buf := by
  constructor
  · -- Up to the slice of the message block nothing returns early, and the slice panics.
    intro hsafe header hh ht hu
    obtain ⟨topic, hu⟩ := Option.isSome_iff_exists.mp hu
    have hlen := length_of_decode_header hh
    have hsig := header.flags.signature_mode.sig_len_le
    by_contra hroom
    apply hsafe
    have hpanic : (slice buf (HEADER_SIZE + header.topic_len.toNat)
        (buf.length - header.flags.signature_mode.sig_len) : Res KernelError Bytes) = .panic :=
      slice_eq_panic_iff.mpr (.inl (by omega))
    have htopic : (slice buf HEADER_SIZE (HEADER_SIZE + header.topic_len.toNat) :
        Res KernelError Bytes) = .ok ((buf.drop HEADER_SIZE).take header.topic_len.toNat) := by
      rw [slice_ok (by omega) ht, Nat.add_sub_cancel_left]
    have hend : (usizeSub buf.length header.flags.signature_mode.sig_len : Res KernelError Nat) =
        .ok (buf.length - header.flags.signature_mode.sig_len) := usizeSub_ok (by omega)
    unfold decode_message
    simp only [hh, ok_bind, ensure_ok _ ht, htopic, hu, okOr_some, hend, hpanic, panic_bind]
  · intro hroom
    unfold decode_message
    refine (safe_decode_header buf).bind fun header hh => ?_
    have hlen := length_of_decode_header hh
    have hsig := header.flags.signature_mode.sig_len_le
    refine Safe.bind safe_ensure fun _ ht => ?_
    rw [ensure_eq_ok_iff] at ht
    refine (safe_slice (by omega) ht).bind fun topic_bytes htopic => ?_
    refine Safe.bind safe_okOr fun topic hu => ?_
    obtain ⟨-, -, rfl⟩ := slice_eq_ok_iff.mp htopic
    rw [okOr_eq_ok_iff, Nat.add_sub_cancel_left] at hu
    have hr := hroom header hh ht (by rw [hu]; rfl)
    refine (safe_usizeSub (by omega)).bind fun msg_end he => ?_
    obtain ⟨-, rfl⟩ := usizeSub_eq_ok_iff.mp he
    refine (safe_slice (by omega) (by omega)).bind fun compressed _ => ?_
    refine (safe_beAt (by omega)).bind fun expected_checksum _ => ?_
    refine (safe_slice (by omega) (by omega)).bind fun hdr _ => ?_
    refine Safe.bind safe_ensure fun _ _ => ?_
    refine (safe_decompress_if_needed K _ _).bind fun msg_block _ => ?_
    refine (safe_decode_block K _ _).bind fun block _ => ?_
    exact safe_decode_signature.bind fun _ _ => safe_ok _

/-- The header of a frame with an HMAC signature and an empty topic. -/
def signed_header : WireHeader where
  message_id := Uuid.nil
  topic_len := 0
  header_count := 0
  total_len := 64
  timestamp_ms := 0
  ttl_ms := 0
  max_body_size := 0
  flags := Flags.new .Json .None .HmacSha256
  priority := .Normal
  key_id := 0

/-- A frame that ends with its header has no room for the 32 bytes of an HMAC: its message block
would end at byte 32 and start at byte 64. -/
theorem decode_message_panics :
    ¬ ∀ (V : Type) (K : Crates V) (buf : Bytes), (decode_message K buf).Safe := by
  intro h
  let K : Crates Unit :=
    ⟨fun _ => none, fun _ => .error "", fun _ => none, fun _ => .error "", some, .ok, some, .ok, some,
      .ok, fun _ => 0, fun _ => ""⟩
  have hsafe := h Unit K (encode_header signed_header)
  have hh : decode_header (encode_header signed_header) = .ok signed_header :=
    decode_header_encode signed_header (toBe 8 0) [] rfl
  have hroom := (decode_message_safe_iff K _).mp hsafe _ hh (by decide) (by decide)
  revert hroom
  decide

end Aqap.Wire
