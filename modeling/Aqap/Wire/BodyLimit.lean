import Aqap.Wire.Compression
import Aqap.Wire.Lengths

/-!
# The limit on the body

`max_body_size` is a field of 32 bits that neither the encoder nor the decoder compares with anything.
The limit that holds is the one of the 16-bit body length.

* `decode_inverted_iff`: when the frame of a message decodes to the message, if the decoder gets the
  block back.
* `limited_iff`: the limits that every accepted buffer keeps.
* `body_limit_iff`: when the declared limit is the enforced one, for encoder and decoder.
-/

namespace Aqap.Wire

open Rust Rust.Res

variable {V : Type} {K : Crates V}

/-! ## The encoder -/

/-- **When a message round-trips** whose fields fit and whose block the decoder gets back: exactly if its
body survives. -/
theorem decode_inverted_iff (hinv : InvertsOutput K) {msg : WireMessage V} (it : Iteration msg.headers)
    (hfit : FieldsFit msg) (hrep : Representable msg msg.flags)
    (hblock : Inverted K msg.flags.compression (encode_block msg it (encoded_body K msg))) :
    decode_message K (encode_message K msg it) = .ok msg ↔ BodySurvives K msg := by
  rw [encode_message, decode_encode_message it msg.flags hfit hrep (decompress_inverted hinv hblock),
    bind_ok_iff]
  constructor
  · rintro ⟨body, hbody, hmsg⟩
    rw [BodySurvives, encoded_body, hbody, ← congrArg WireMessage.body (ok.inj hmsg)]
  · intro hsurvives
    exact ⟨msg.body, hsurvives, rfl⟩

/-! ## The decoder -/

/-- Every accepted buffer whose header declares the limit keeps it. -/
def Limited (K : Crates V) (max_body_size : UInt32) : Prop :=
  ∀ (buf : Bytes) (header : WireHeader) (topic : String) (msg_block : Bytes) (block : Block V)
    (r : RawBlock), Unpacks K buf header topic msg_block →
    BlockAt K header.flags.encoding msg_block block r → header.max_body_size = max_body_size →
    r.body.length ≤ max_body_size.toNat

/-- The header of a frame with a body in the encoding, under a limit. -/
def limit_header (max_body_size : UInt32) (encoding : Encoding) : WireHeader :=
  { plain_header with max_body_size, flags := Flags.new encoding .None .None }

/-- A block without strings and headers. -/
def body_block (body : Bytes) : Bytes :=
  block_head Uuid.nil 0 Uuid.nil 0 "" "" ++ (toBe 2 0 ++ (lenU16 body.length ++ (body ++ [])))

theorem body_block_at {encoding : Encoding} {body : Bytes} {v : V} (hlen : body.length ≤ 65535)
    (hbody : decode_body K body encoding = .ok v) :
    BlockAt K encoding (body_block body)
      { trace_id := Uuid.nil, span_id := 0, correlation_id := Uuid.nil, msg_type := .TaskDispatch
        source := "", target := "", headers := (∅ : Headers).insertMany [], body := v }
      ⟨0, 0, lenU16 body.length ++ (body ++ []), body, []⟩ where
  bytes := rfl
  source := (by decide : (utf8 "").length ≤ 255)
  target := (by decide : (utf8 "").length ≤ 255)
  count := (by decide : 0 < 65536)
  msg_type := rfl
  headers := rfl
  left := rfl
  body_len := hlen
  body := hbody

/-- **The limits that are kept**: those that no body of the codec with at most 65535 bytes exceeds. -/
theorem limited_iff (max_body_size : UInt32) :
    Limited K max_body_size ↔ ∀ (encoding : Encoding) (body : Bytes) (v : V),
      decode_body K body encoding = .ok v → body.length ≤ 65535 →
      body.length ≤ max_body_size.toNat := by
  constructor
  · intro h encoding body v hbody hlen
    obtain ⟨he, hc, hs⟩ := Flags.new_fields encoding .None .None
    have hunsigned : (limit_header max_body_size encoding).flags.signature_mode.sig_len = 0 := by
      rw [limit_header, hs]
      rfl
    have hunpacks : Unpacks K (unchecked_frame (limit_header max_body_size encoding) (body_block body))
        (limit_header max_body_size encoding) "" (body_block body) :=
      unchecked_unpacks rfl UInt8.zero_le hunsigned hc (body_block body)
    have hencoding : (limit_header max_body_size encoding).flags.encoding = encoding := he
    exact h _ _ _ _ _ _ hunpacks (hencoding ▸ body_block_at hlen hbody) rfl
  · intro h buf header topic msg_block block r _ hr _
    exact h header.flags.encoding r.body block.body hr.body hr.body_len

/-- **The declared limit**, exactly. A message that fits but for its body, whose body is within the
declared limit, and whose block the decoder gets back, decodes to itself if and only if the encoded body has
at most 65535 bytes and is one that the codec gives back. The buffers that declare a limit keep it if and
only if no body of the codec with at most 65535 bytes exceeds it; an accepted buffer stays accepted with
every other limit. -/
theorem body_limit_iff (hcut : RejectsTruncated K) (hinv : InvertsOutput K) :
    (∀ (msg : WireMessage V) (it : Iteration msg.headers), FieldsFit msg →
      Representable msg msg.flags → (encoded_body K msg).length ≤ msg.max_body_size.toNat →
      Inverted K msg.flags.compression (encode_block msg it (encoded_body K msg)) →
      (decode_message K (encode_message K msg it) = .ok msg ↔
        (encoded_body K msg).length ≤ 65535 ∧ BodyReadsBack K msg.body msg.flags.encoding)) ∧
    (∀ max_body_size : UInt32, Limited K max_body_size ↔
      ∀ (encoding : Encoding) (body : Bytes) (v : V), decode_body K body encoding = .ok v →
        body.length ≤ 65535 → body.length ≤ max_body_size.toNat) ∧
    ∀ (buf : Bytes) (msg : WireMessage V), decode_message K buf = .ok msg →
      ∀ (max_body_size : UInt32) (header_count : UInt16) (total_len : UInt32),
        decode_message K (restamp buf max_body_size header_count total_len) =
          .ok { msg with max_body_size } := by
  refine ⟨fun msg it hfit hrep _ hblock => ?_, limited_iff, ?_⟩
  · rw [decode_inverted_iff hinv it hfit hrep hblock, bodySurvives_iff hcut]
  · exact fun buf msg hdec max_body_size header_count total_len =>
      decode_restamp max_body_size header_count total_len hdec

/-! ## A text body -/

/-- The JSON string of `n` times the letter x. -/
def json_text (n : Nat) : Bytes := [0x22] ++ List.replicate n 0x78 ++ [0x22]

theorem length_json_text (n : Nat) : (json_text n).length = n + 2 := by
  simp [json_text]

/-- Reads such a string; its value is the number of letters. -/
def read_text (bs : Bytes) : Except String Nat :=
  if bs = json_text (bs.length - 2) then .ok (bs.length - 2)
  else .error "EOF while parsing a value at line 1 column 0"

theorem read_json_text (n : Nat) : read_text (json_text n) = .ok n := by
  have hlen : (json_text n).length - 2 = n := by rw [length_json_text, Nat.add_sub_cancel]
  rw [read_text, hlen, if_pos rfl]

/-- JSON on these strings. -/
def text_crates : Crates Nat where
  json_to_vec n := some (json_text n)
  json_from_slice := read_text
  rmp_to_vec n := some (json_text n)
  rmp_from_slice := read_text
  zstd_encode_all := some
  zstd_decode_all := .ok
  lz4_compress := some
  lz4_decompress := .ok
  zlib_encode := some
  zlib_decode := .ok
  xxh64 _ := 0
  utf8_error _ := "invalid utf-8 sequence"

theorem text_losslessBody : LosslessBody text_crates where
  json n := ⟨_, rfl, read_json_text n⟩
  rmp n := ⟨_, rfl, read_json_text n⟩

/-- A message with a limit of 10 MiB, and a text of `n` letters for its body. -/
def text_message (n : Nat) : WireMessage Nat where
  message_id := Uuid.nil
  topic := "t"
  timestamp_ms := 0
  ttl_ms := 0
  max_body_size := 10485760
  flags := Flags.new .Json .None .None
  priority := .Normal
  key_id := 0
  trace_id := Uuid.nil
  span_id := 0
  correlation_id := Uuid.nil
  msg_type := .TaskDispatch
  source := "s"
  target := "r"
  headers := ∅
  body := n
  signature := []

theorem text_fieldsFit (n : Nat) : FieldsFit (text_message n) where
  topic := (by decide : (utf8 "t").length ≤ 65535)
  source := (by decide : (utf8 "s").length ≤ 255)
  target := (by decide : (utf8 "r").length ≤ 255)
  count := dense_fieldsFit.count
  entry := dense_fieldsFit.entry

def text_iteration (n : Nat) : Iteration (text_message n).headers := Iteration.empty

theorem text_representable (n : Nat) : Representable (text_message n) (text_message n).flags :=
  have h : Representable (text_message n) (Flags.new .Json .None .None) :=
    ⟨UInt8.zero_le, trivial, rfl⟩
  h

theorem text_encoding (n : Nat) : (text_message n).flags.encoding = .Json :=
  (Flags.new_fields .Json .None .None).1

theorem encoded_text (n : Nat) : encoded_body text_crates (text_message n) = json_text n := by
  rw [encoded_body, text_encoding]
  rfl

/-- The instance of the dense message with a limit of 10 MiB, compressed by zstd. -/
theorem body_limit_dense :
    decode_message dense_crates (encode_message dense_crates
        { dense_message with max_body_size := 10485760, flags := Flags.new .Json .Zstd .None }
        dense_iteration) =
        .ok { dense_message with max_body_size := 10485760, flags := Flags.new .Json .Zstd .None } ↔
      (utf8 "true").length ≤ 65535 ∧ BodyReadsBack dense_crates true .Json :=
  have hzstd : (Flags.new .Json .Zstd .None).compression = .Zstd := (Flags.new_fields _ _ _).2.1
  (body_limit_iff dense_rejectsTruncated dense_invertsOutput).1
    { dense_message with max_body_size := 10485760, flags := Flags.new .Json .Zstd .None }
    dense_iteration
    ⟨dense_fieldsFit.topic, dense_fieldsFit.source, dense_fieldsFit.target, dense_fieldsFit.count,
      dense_fieldsFit.entry⟩
    ⟨UInt8.zero_le, trivial, rfl⟩ (by decide) (by rw [hzstd]; rfl)

/-- A body of 65536 bytes is below the limit of 10 MiB, but its length field holds 0: the decoder reads
an empty body and rejects it. -/
theorem long_body_rejected :
    ¬ ∀ (V : Type) (K : Crates V) (msg : WireMessage V) (it : Iteration msg.headers),
      LosslessBody K → FieldsFit msg → Representable msg msg.flags →
      (encoded_body K msg).length ≤ msg.max_body_size.toNat →
      decode_message K (encode_message K msg it) = .ok msg := by
  intro h
  obtain ⟨n, hn⟩ : ∃ n, n + 2 = 65536 := ⟨65534, rfl⟩
  have hlen : (encoded_body text_crates (text_message n)).length = 65536 := by
    rw [encoded_text, length_json_text, hn]
  have hlimit : (text_message n).max_body_size.toNat = 10485760 := rfl
  have hdec := h Nat text_crates (text_message n) (text_iteration n) text_losslessBody
    (text_fieldsFit n) (text_representable n) (by omega)
  have hempty : (encoded_body text_crates (text_message n)).take
      ((encoded_body text_crates (text_message n)).length % 65536) = [] := by
    rw [hlen]
    exact List.take_zero
  have herr : decode_body text_crates [] .Json =
      .err ⟨.MalformedWire, "JSON decode: EOF while parsing a value at line 1 column 0"⟩ := by
    decide
  have hcomp : (text_message n).flags.compression = .None := (Flags.new_fields .Json .None .None).2.1
  rw [encode_message, decode_encode_message (text_iteration n) _ (text_fieldsFit n)
    (text_representable n) (by rw [hcomp]; rfl), ← encoded_body, hempty, text_encoding, herr,
    err_bind] at hdec
  cases hdec

end Aqap.Wire
