import Aqap.Wire.Relay

/-!
# Compressed frames

The encoder falls back to the raw block when a compressor fails, and leaves the compression flag as it
is. The lz4 block is written without the size prefix that the decoder reads.

* `Inverted`: the block was not compressed, or by a compressor that the decoder inverts.
* `misread`: what the decoder makes of a block in the other cases.
* `decode_encode_iff`: when a frame decodes to its message, over any compression.
* `transparent_iff`: when compression is transparent.
-/

namespace Aqap.Wire

open Rust Rust.Res

variable {V : Type}

/-! ## The compressors -/

/-- zstd and zlib give back what they compressed, if they compressed it. -/
structure InvertsOutput (K : Crates V) : Prop where
  zstd : ∀ d c, K.zstd_encode_all d = some c → K.zstd_decode_all c = .ok d
  zlib : ∀ d c, K.zlib_encode d = some c → K.zlib_decode c = .ok d

/-- The value of little-endian bytes. -/
def ofLe (bs : Bytes) : Nat := ofBe bs.reverse

/-- The size prefix of an lz4 buffer: a 4-byte little-endian number, not negative as an `i32`. -/
def declared_size (bs : Bytes) : Option Nat :=
  if 4 ≤ bs.length ∧ ofLe (bs.take 4) < 2 ^ 31 then some (ofLe (bs.take 4)) else none

/-- `lz4::block::compress` with `prepend_size = false` emits the bare block, which `read_block` reads
into a buffer of the size of the data. `lz4::block::decompress` with no size takes the size from the
first four bytes, and reads the rest. -/
structure Lz4Blocks (K : Crates V) (read_block : Nat → Bytes → Option Bytes) : Prop where
  bare : ∀ d c, K.lz4_compress d = some c → read_block d.length c = some d
  prefixed : ∀ b d, K.lz4_decompress b = .ok d ↔
    ∃ size, declared_size b = some size ∧ read_block size (b.drop 4) = some d

section

variable (K : Crates V) (read_block : Nat → Bytes → Option Bytes)

/-- The block is in the frame as it is, and not compressed, or compressed so that the decoder inverts
it. -/
def Inverted : Compression → Bytes → Prop
  | .None, _ => True
  | .Zstd, data => (K.zstd_encode_all data).isSome
  | .Lz4, _ => False
  | .Zlib, data => (K.zlib_encode data).isSome

/-- What the decoder makes of a block that is not `Inverted`: zstd and zlib decompress the raw block of
the fallback, and lz4 takes the first four bytes of the bare block (or the raw one) for its size. -/
def misread : Compression → Bytes → Option Bytes
  | .None, data => some data
  | .Zstd, data => (K.zstd_decode_all data).toOption
  | .Lz4, data =>
    let stored := (K.lz4_compress data).getD data
    (declared_size stored).bind fun size => read_block size (stored.drop 4)
  | .Zlib, data => (K.zlib_decode data).toOption

/-- By accident, what the decoder makes of the block parses as `block` too. -/
def Accident (c : Compression) (encoding : Encoding) (data : Bytes) (block : Block V) : Prop :=
  ¬ Inverted K c data ∧
    ∃ d, misread K read_block c data = some d ∧ decode_block K d encoding = .ok block

end

variable {K : Crates V} {read_block : Nat → Bytes → Option Bytes}

theorem toOption_eq_some_iff {ε α : Type} {x : Except ε α} {a : α} :
    x.toOption = some a ↔ x = .ok a := by
  cases x <;> simp [Except.toOption]

/-- The decompressor gives back an inverted block. -/
theorem decompress_inverted (hinv : InvertsOutput K) {c : Compression} {data : Bytes}
    (h : Inverted K c data) :
    decompress_if_needed K (compress_if_needed K data c) c = .ok data := by
  cases c with
  | None => rfl
  | Zstd =>
    obtain ⟨d, hd⟩ := Option.isSome_iff_exists.mp h
    simp only [compress_if_needed, decompress_if_needed, hd, Option.getD_some, hinv.zstd _ _ hd,
      mapErr_ok]
  | Lz4 => exact h.elim
  | Zlib =>
    obtain ⟨d, hd⟩ := Option.isSome_iff_exists.mp h
    simp only [compress_if_needed, decompress_if_needed, hd, Option.getD_some, hinv.zlib _ _ hd,
      mapErr_ok]

/-- Of another block it makes what `misread` says. -/
theorem decompress_misread (hlz4 : Lz4Blocks K read_block) {c : Compression} {data d : Bytes}
    (h : ¬ Inverted K c data) :
    decompress_if_needed K (compress_if_needed K data c) c = .ok d ↔
      misread K read_block c data = some d := by
  cases c with
  | None => exact absurd trivial h
  | Zstd =>
    have hnone : K.zstd_encode_all data = none := Option.not_isSome_iff_eq_none.mp h
    simp only [compress_if_needed, decompress_if_needed, misread, hnone, Option.getD_none,
      mapErr_eq_ok_iff, toOption_eq_some_iff]
  | Lz4 =>
    simp only [compress_if_needed, decompress_if_needed, misread, mapErr_eq_ok_iff, hlz4.prefixed,
      Option.bind_eq_some_iff]
  | Zlib =>
    have hnone : K.zlib_encode data = none := Option.not_isSome_iff_eq_none.mp h
    simp only [compress_if_needed, decompress_if_needed, misread, hnone, Option.getD_none,
      mapErr_eq_ok_iff, toOption_eq_some_iff]

/-! ## The frame -/

/-- A decoded message is the encoded one exactly if its block is. -/
theorem message_of_eq_iff {msg : WireMessage V} {flags : Flags} {compressed : Bytes}
    {block : Block V} :
    message_of (frame_header msg flags compressed) msg.topic block msg.signature =
      { msg with flags := flags } ↔ block = block_of msg msg.body := by
  cases block
  simp [message_of, frame_header, block_of]

/-- **When a frame decodes to its message**, over any compression: the block, or what the decoder makes
of it, parses as the block of the message. -/
theorem decode_encode_iff (hinv : InvertsOutput K) (hlz4 : Lz4Blocks K read_block)
    {msg : WireMessage V} (it : Iteration msg.headers) (flags : Flags)
    (htopic : (utf8 msg.topic).length ≤ 65535) (hkey : msg.key_id ≤ 3)
    (hsig : msg.signature.length = flags.signature_mode.sig_len) :
    decode_message K (encode_message_with_flags K msg it flags) = .ok { msg with flags := flags } ↔
      (Inverted K flags.compression (encode_block msg it (encode_body K msg.body flags.encoding)) ∧
        decode_block K (encode_block msg it (encode_body K msg.body flags.encoding)) flags.encoding =
          .ok (block_of msg msg.body)) ∨
      Accident K read_block flags.compression flags.encoding
        (encode_block msg it (encode_body K msg.body flags.encoding)) (block_of msg msg.body) := by
  rw [decode_encode_frame it flags htopic hkey hsig rfl]
  generalize hblk : encode_block msg it (encode_body K msg.body flags.encoding) = blk
  simp only [bind_ok_iff, ok.injEq, message_of_eq_iff, exists_eq_right]
  by_cases h : Inverted K flags.compression blk
  · simp only [decompress_inverted hinv h, ok.injEq, exists_eq_left', h, true_and, Accident,
      not_true_eq_false, false_and, or_false]
  · simp only [decompress_misread hlz4 h, h, false_and, Accident, not_false_eq_true, true_and,
      false_or]

/-- **Compression is transparent** on the blocks that are inverted: a frame of a message that round-trips
uncompressed decodes to the message with the same fields but the compression flag if there is no
compression, or if zstd or zlib did compress. `Inverted` is the condition. Of the other direction
`Accident` is what is left open: on a block of lz4 or of the fallback the decoder works on other bytes than
the compressor returned, and only the code of the crates could say that these never parse as the block. -/
theorem transparent_iff (hinv : InvertsOutput K) (hlz4 : Lz4Blocks K read_block)
    {msg : WireMessage V} (it : Iteration msg.headers) (encoding : Encoding)
    (signature : SignatureMode)
    (hround : decode_message K
      (encode_message_with_flags K msg it (Flags.new encoding .None signature)) =
        .ok { msg with flags := Flags.new encoding .None signature }) (c : Compression) :
    decode_message K (encode_message_with_flags K msg it (Flags.new encoding c signature)) =
        .ok { msg with flags := Flags.new encoding c signature } ↔
      Inverted K c (encode_block msg it (encode_body K msg.body encoding)) ∨
      Accident K read_block c encoding (encode_block msg it (encode_body K msg.body encoding))
        (block_of msg msg.body) := by
  have hfit := fieldsFit_of_decode hround
  have hrep := representable_of_decode hround
  obtain ⟨he, hc, hs⟩ := Flags.new_fields encoding c signature
  obtain ⟨he0, hc0, hs0⟩ := Flags.new_fields encoding .None signature
  have hsig : msg.signature.length = signature.sig_len := by
    have h := hrep.signature
    rwa [hs0] at h
  -- The uncompressed round trip says that the block parses as the block of the message.
  have hblock : decode_block K (encode_block msg it (encode_body K msg.body encoding)) encoding =
      .ok (block_of msg msg.body) := by
    have h := (decode_encode_iff hinv hlz4 it _ hfit.topic hrep.key_id hrep.signature).mp hround
    rw [he0, hc0] at h
    rcases h with ⟨-, h⟩ | ⟨h, -⟩
    · exact h
    · exact absurd trivial h
  rw [decode_encode_iff hinv hlz4 it _ hfit.topic hrep.key_id (by rw [hs, hsig]), he, hc]
  simp only [hblock, and_true]

/-! ## A sample message -/

/-- The lz4 block of 15 to 269 bytes in which no four bytes repeat: one run of literals. -/
def lz4_literals (d : Bytes) : Option Bytes :=
  if 15 ≤ d.length ∧ d.length < 270 then some (0xf0 :: UInt8.ofNat (d.length - 15) :: d) else none

/-- Reads such a block into a buffer of `size` bytes. -/
def read_literals (size : Nat) : Bytes → Option Bytes
  | token :: n :: d =>
    if token = 0xf0 ∧ d.length = n.toNat + 15 ∧ d.length ≤ size then some d else none
  | _ => none

/-- The crates on a message that lz4 does not shrink; the two constants are the xxHash64 of its frames
without compression and with lz4. -/
def dense_crates : Crates Bool :=
  { bool_crates 0 with
    lz4_compress := lz4_literals
    lz4_decompress := fun b =>
      match (declared_size b).bind fun size => read_literals size (b.drop 4) with
      | some d => .ok d
      | none => .error "Decompression failed. Input invalid or too long?"
    xxh64 := fun bs => if bs[10]? = some 0 then 0x005e065c15f817a4 else 0xe1c8e3bd59a5f18a }

theorem dense_invertsOutput : InvertsOutput dense_crates where
  zstd d c h := by rw [← Option.some.inj h]; rfl
  zlib d c h := by rw [← Option.some.inj h]; rfl

theorem dense_lz4Blocks : Lz4Blocks dense_crates read_literals where
  bare d c h := by
    have h : lz4_literals d = some c := h
    unfold lz4_literals at h
    split at h
    · rename_i hlen
      rw [← Option.some.inj h, read_literals, if_pos]
      refine ⟨rfl, ?_, Nat.le_refl _⟩
      rw [UInt8.toNat_ofNat']
      omega
    · cases h
  prefixed b d := by
    rw [← Option.bind_eq_some_iff]
    simp only [dense_crates]
    generalize ((declared_size b).bind fun size => read_literals size (b.drop 4)) = read
    cases read <;> simp

/-- A message without headers in whose block no four bytes repeat. -/
def dense_message : WireMessage Bool :=
  { sample_message "s" "r" true with
    headers := ∅
    trace_id := ⟨[200, 201, 202, 203, 204, 205, 206, 207, 208, 209, 210, 211, 212, 213, 214, 215], rfl⟩
    span_id := 0x0102030405060708
    correlation_id :=
      ⟨[100, 101, 102, 103, 104, 105, 106, 107, 108, 109, 110, 111, 112, 113, 114, 115], rfl⟩ }

def dense_iteration : Iteration dense_message.headers := Iteration.empty

theorem dense_fieldsFit : FieldsFit dense_message where
  topic := (by decide : (utf8 "t").length ≤ 65535)
  source := (by decide : (utf8 "s").length ≤ 255)
  target := (by decide : (utf8 "r").length ≤ 255)
  count := by
    rw [← dense_iteration.length_entries]
    exact Nat.zero_le _
  entry k v h := by
    have h : (∅ : Headers)[k]? = some v := h
    simp at h

theorem dense_representable : Representable dense_message (Flags.new .Json .None .None) :=
  ⟨UInt8.zero_le, trivial, rfl⟩

theorem dense_losslessBody : LosslessBody dense_crates where
  json := (bool_crates_losslessBody 0).json
  rmp := (bool_crates_losslessBody 0).rmp

theorem dense_rejectsTruncated : RejectsTruncated dense_crates where
  json := (bool_crates_rejectsTruncated 0).json
  rmp := (bool_crates_rejectsTruncated 0).rmp

theorem dense_round_trip :
    decode_message dense_crates (encode_message_with_flags dense_crates dense_message dense_iteration
      (Flags.new .Json .None .None)) =
      .ok { dense_message with flags := Flags.new .Json .None .None } :=
  decode_encode_of_body_le dense_iteration _ (bodyReadsBack_of_lossless dense_losslessBody _ _)
    dense_fieldsFit (by decide) dense_representable fun _ => rfl

/-- The instance of zstd, which gives the message back. -/
theorem transparent_dense :
    decode_message dense_crates (encode_message_with_flags dense_crates dense_message dense_iteration
        (Flags.new .Json .Zstd .None)) =
        .ok { dense_message with flags := Flags.new .Json .Zstd .None } ↔
      Inverted dense_crates .Zstd (encode_block dense_message dense_iteration (utf8 "true")) ∨
      Accident dense_crates read_literals .Zstd .Json
        (encode_block dense_message dense_iteration (utf8 "true")) (block_of dense_message true) :=
  transparent_iff dense_invertsOutput dense_lz4Blocks dense_iteration .Json .None dense_round_trip
    .Zstd

/-- lz4 is not transparent: the frame of `dense_message` is rejected, since the first four bytes of its
bare block are `f0 27 c8 c9`, a negative size. -/
theorem lz4_rejected :
    ¬ ∀ (V : Type) (K : Crates V) (read_block : Nat → Bytes → Option Bytes) (msg : WireMessage V)
      (it : Iteration msg.headers) (encoding : Encoding) (signature : SignatureMode),
      InvertsOutput K → Lz4Blocks K read_block →
      decode_message K (encode_message_with_flags K msg it (Flags.new encoding .None signature)) =
        .ok { msg with flags := Flags.new encoding .None signature } →
      ∀ c : Compression,
        decode_message K (encode_message_with_flags K msg it (Flags.new encoding c signature)) =
          .ok { msg with flags := Flags.new encoding c signature } := by
  intro h
  have hdec := h Bool dense_crates read_literals dense_message dense_iteration .Json .None
    dense_invertsOutput dense_lz4Blocks dense_round_trip .Lz4
  rw [decode_encode_frame dense_iteration _ dense_fieldsFit.topic UInt8.zero_le rfl rfl] at hdec
  obtain ⟨d, hd, -⟩ := bind_ok_iff.mp hdec
  have hmisread := (decompress_misread dense_lz4Blocks (c := .Lz4) not_false).mp hd
  have hnone : misread dense_crates read_literals .Lz4
      (encode_block dense_message dense_iteration (utf8 "true")) = none := by
    decide
  cases hnone.symm.trans hmisread

end Aqap.Wire
