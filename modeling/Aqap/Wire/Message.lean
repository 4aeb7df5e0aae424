import Aqap.Wire.Header
import Mathlib.Data.String.Basic
import Std.Data.ExtHashMap

/-!
# Wire messages (`aqap-kernel/src/wire.rs`, `encode_message_with_flags` and `decode_message`)

A frame is the fixed header, the topic, the message block (compressed or not) and the signature.
The message block is a sequence of fixed fields, two length-prefixed strings, a counted list of
length-prefixed header entries, and the length-prefixed body.

* `Crates V` is what the kernel takes from other crates: the body codecs (over a body type `V`,
  `serde_json::Value` in the source), the compressors, and xxHash64.
* `Headers` is the header map; `Iteration` is an order in which the map can be iterated.
* `decode_block` is step 6 of `decode_message`, and `decode_headers` is its loop. The loop leaves at
  the first entry that does not fit the block (`break`), at the offset that it has reached.
-/

namespace Aqap.Wire

open Rust Rust.Res

/-! ## Other crates -/

/-- The functions of other crates that the wire layer calls. -/
structure Crates (V : Type) where
  /-- `serde_json::to_vec(..).ok()` -/
  json_to_vec : V → Option Bytes
  /-- `serde_json::from_slice`, with the display of its error -/
  json_from_slice : Bytes → Except String V
  /-- `rmp_serde::to_vec(..).ok()` -/
  rmp_to_vec : V → Option Bytes
  /-- `rmp_serde::from_slice` -/
  rmp_from_slice : Bytes → Except String V
  /-- `zstd::encode_all(.., 3).ok()` -/
  zstd_encode_all : Bytes → Option Bytes
  /-- `zstd::decode_all` -/
  zstd_decode_all : Bytes → Except String Bytes
  /-- `lz4::block::compress(.., None, false).ok()` -/
  lz4_compress : Bytes → Option Bytes
  /-- `lz4::block::decompress(.., None)` -/
  lz4_decompress : Bytes → Except String Bytes
  /-- `ZlibEncoder`, after `write_all` and `finish().ok()`; `write_all` to a `Vec` succeeds -/
  zlib_encode : Bytes → Option Bytes
  /-- `ZlibDecoder::read_to_end` -/
  zlib_decode : Bytes → Except String Bytes
  /-- xxHash64 with seed 0 of everything that the hasher was updated with -/
  xxh64 : Bytes → UInt64
  /-- The display of a `FromUtf8Error` -/
  utf8_error : Bytes → String

variable {V : Type} (K : Crates V)

/-- `encode_body`; what does not serialise becomes an empty body. -/
def encode_body (body : V) (encoding : Encoding) : Bytes :=
  match encoding with
  | .Json => (K.json_to_vec body).getD []
  | .MsgPack => (K.rmp_to_vec body).getD []
  -- Protobuf and FlatBuffer fall back to JSON.
  | _ => (K.json_to_vec body).getD []

/-- `decode_body` -/
def decode_body (data : Bytes) (encoding : Encoding) : Res KernelError V :=
  match encoding with
  | .Json => mapErr (fun e => ⟨.MalformedWire, s!"JSON decode: {e}"⟩) (K.json_from_slice data)
  | .MsgPack => mapErr (fun e => ⟨.MalformedWire, s!"MsgPack decode: {e}"⟩) (K.rmp_from_slice data)
  | _ => mapErr (fun e => ⟨.MalformedWire, s!"decode: {e}"⟩) (K.json_from_slice data)

/-- `compress_if_needed`; data that does not compress stays as it is. -/
def compress_if_needed (data : Bytes) (compression : Compression) : Bytes :=
  match compression with
  | .None => data
  | .Zstd => (K.zstd_encode_all data).getD data
  | .Lz4 => (K.lz4_compress data).getD data
  | .Zlib => (K.zlib_encode data).getD data

def decompress_if_needed (data : Bytes) (compression : Compression) : Res KernelError Bytes :=
  match compression with
  | .None => .ok data
  | .Zstd => mapErr (fun e => ⟨.MalformedWire, s!"zstd decompress: {e}"⟩) (K.zstd_decode_all data)
  | .Lz4 => mapErr (fun e => ⟨.MalformedWire, s!"lz4 decompress: {e}"⟩) (K.lz4_decompress data)
  | .Zlib => mapErr (fun e => ⟨.MalformedWire, s!"zlib decompress: {e}"⟩) (K.zlib_decode data)

/-! ## Messages -/

/-- `HashMap<String, String>`, up to the order of its entries. -/
abbrev Headers := Std.ExtHashMap String String

/-- An order in which a `HashMap` can be iterated: its entries, each key once. -/
structure Iteration (headers : Headers) where
  entries : List (String × String)
  distinct : entries.Pairwise fun a b => (a.1 == b.1) = false
  ofList : Std.ExtHashMap.ofList entries = headers

/-- `WireMessage`, with a body of any type. -/
structure WireMessage (V : Type) where
  message_id : Uuid
  topic : String
  timestamp_ms : Int64
  ttl_ms : UInt32
  max_body_size : UInt32
  flags : Flags
  priority : Priority
  key_id : UInt8
  trace_id : Uuid
  span_id : UInt64
  correlation_id : Uuid
  msg_type : MessageType
  source : String
  target : String
  headers : Headers
  body : V
  signature : Bytes

/-! ## Encoding -/

/-- `len as u8`. -/
def lenU8 (bs : Bytes) : UInt8 := UInt8.ofNat bs.length

/-- `(len as u16).to_be_bytes()`. -/
def lenU16 (n : Nat) : Bytes := toBe 2 (UInt16.ofNat n).toNat

/-- One header entry: key length, key, value length, value. -/
def encode_entry (e : String × String) : Bytes :=
  let kb := utf8 e.1
  let vb := utf8 e.2
  [lenU8 kb] ++ kb ++ lenU16 vb.length ++ vb

def encode_headers (entries : List (String × String)) : Bytes := entries.flatMap encode_entry

/-- The message block, trace id through body. -/
def encode_block (msg : WireMessage V) (it : Iteration msg.headers) (body_bytes : Bytes) : Bytes :=
  let source_bytes := utf8 msg.source
  let target_bytes := utf8 msg.target
  msg.trace_id.bytes ++
  toBe 8 msg.span_id.toNat ++
  msg.correlation_id.bytes ++
  toBe 2 msg.msg_type.to_u16.toNat ++
  [lenU8 source_bytes] ++
  [lenU8 target_bytes] ++
  source_bytes ++
  target_bytes ++
  lenU16 msg.headers.size ++
  encode_headers it.entries ++
  lenU16 body_bytes.length ++ body_bytes

/-- The header of a frame; `compressed` is its message block after compression. -/
def frame_header (msg : WireMessage V) (flags : Flags) (compressed : Bytes) : WireHeader :=
  let topic_bytes := utf8 msg.topic
  let total_len := HEADER_SIZE + topic_bytes.length + compressed.length
  let sig_len := flags.signature_mode.sig_len
  let total_with_sig := total_len + sig_len
  { message_id := msg.message_id
    topic_len := UInt16.ofNat topic_bytes.length
    header_count := UInt16.ofNat msg.headers.size
    total_len := UInt32.ofNat total_with_sig
    timestamp_ms := msg.timestamp_ms
    ttl_ms := msg.ttl_ms
    max_body_size := msg.max_body_size
    flags
    priority := msg.priority
    key_id := msg.key_id }

/-- `encode_message_with_flags`: topic, block and checksum behind the header, and the signature at the end. -/
def encode_message_with_flags (msg : WireMessage V) (it : Iteration msg.headers) (flags : Flags) :
    Bytes :=
  let body_bytes := encode_body K msg.body flags.encoding
  let msg_block := encode_block msg it body_bytes
  let compressed := compress_if_needed K msg_block flags.compression
  let topic_bytes := utf8 msg.topic
  let hdr_buf := encode_header (frame_header msg flags compressed)
  let checksum := K.xxh64 (hdr_buf.take 56 ++ topic_bytes ++ compressed)
  hdr_buf.take 56 ++ toBe 8 checksum.toNat ++ topic_bytes ++ compressed ++ msg.signature

def encode_message (msg : WireMessage V) (it : Iteration msg.headers) : Bytes :=
  encode_message_with_flags K msg it msg.flags

/-! ## Decoding -/

/-- The header entries: `n` more of them, from `offset`. -/
def decode_headers (msg_block : Bytes) : Nat → Nat → Headers → Res KernelError (Nat × Headers)
  | 0, offset, headers => .ok (offset, headers)
  | n + 1, offset, headers =>
    if offset + 1 > msg_block.length then .ok (offset, headers) else do
    let key_len ← index msg_block offset
    let offset := offset + 1
    if offset + key_len.toNat + 2 > msg_block.length then .ok (offset, headers) else do
    let key ← slice msg_block offset (offset + key_len.toNat)
    let offset := offset + key_len.toNat
    let val_len ← beAt 2 msg_block offset
    let offset := offset + 2
    if offset + val_len > msg_block.length then .ok (offset, headers) else do
    let val ← slice msg_block offset (offset + val_len)
    -- `unwrap_or_default`: a key or a value that is not UTF-8 reads as the empty string.
    decode_headers msg_block n (offset + val_len)
      (headers.insert ((from_utf8 key).getD "") ((from_utf8 val).getD ""))

/-- What the message block holds. -/
structure Block (V : Type) where
  trace_id : Uuid
  span_id : UInt64
  correlation_id : Uuid
  msg_type : MessageType
  source : String
  target : String
  headers : Headers
  body : V

def malformed (detail : String) : KernelError := ⟨.MalformedWire, detail⟩

/-- The strings and the rest of the message block, which start at offset 44. -/
def decode_block_tail (msg_block : Bytes) (encoding : Encoding) (source_len target_len : Nat) :
    Res KernelError (String × String × Headers × V) := do
  let offset := 44
  ensure (offset + source_len + target_len ≤ msg_block.length) (malformed "source/target overflow")
  let source_bytes ← slice msg_block offset (offset + source_len)
  let source ← okOr (malformed "invalid UTF-8 in source") (from_utf8 source_bytes)
  let offset := offset + source_len
  let target_bytes ← slice msg_block offset (offset + target_len)
  let target ← okOr (malformed "invalid UTF-8 in target") (from_utf8 target_bytes)
  let offset := offset + target_len
  ensure (offset + 2 ≤ msg_block.length) (malformed "header_count overflow")
  let header_count ← beAt 2 msg_block offset
  let (offset, headers) ← decode_headers msg_block header_count (offset + 2) ∅
  ensure (offset + 2 ≤ msg_block.length) (malformed "body_len overflow")
  let body_len ← beAt 2 msg_block offset
  let offset := offset + 2
  ensure (offset + body_len ≤ msg_block.length) (malformed "body overflow")
  let body_bytes ← slice msg_block offset (offset + body_len)
  let body ← decode_body K body_bytes encoding
  return (source, target, headers, body)

/-- Step 6 of `decode_message`. -/
def decode_block (msg_block : Bytes) (encoding : Encoding) : Res KernelError (Block V) := do
  ensure (44 ≤ msg_block.length) (malformed "message block too short")
  let id ← slice msg_block 0 16
  let trace_id ← okOr (malformed "invalid trace_id: ") (Uuid.from_slice id)
  let span_id ← beAt 8 msg_block 16
  let id ← slice msg_block 24 40
  let correlation_id ← okOr (malformed "invalid correlation_id") (Uuid.from_slice id)
  let msg_type ← beAt 2 msg_block 40
  let source_len ← index msg_block 42
  let target_len ← index msg_block 43
  let (source, target, headers, body) ←
    decode_block_tail K msg_block encoding source_len.toNat target_len.toNat
  return {
    trace_id
    span_id := UInt64.ofNat span_id
    correlation_id
    msg_type := MessageType.from_u16 (UInt16.ofNat msg_type)
    source, target, headers, body }

/-- Step 7 of `decode_message`. -/
def decode_signature (buf : Bytes) (sig_len msg_end : Nat) : Res KernelError Bytes :=
  if sig_len > 0 ∧ msg_end < buf.length then slice buf msg_end buf.length else .ok []

/-- `decode_message`: `total_len` and `max_body_size` are not compared with anything. -/
def decode_message (buf : Bytes) : Res KernelError (WireMessage V) := do
  let header ← decode_header buf
  ensure (HEADER_SIZE + header.topic_len.toNat ≤ buf.length) (malformed "buffer too short for topic")
  let topic_start := HEADER_SIZE
  let topic_end := topic_start + header.topic_len.toNat
  let topic_bytes ← slice buf topic_start topic_end
  let topic ← okOr (malformed s!"invalid UTF-8 in topic: {K.utf8_error topic_bytes}")
    (from_utf8 topic_bytes)
  let msg_start := topic_end
  let sig_len := header.flags.signature_mode.sig_len
  let msg_end ← usizeSub buf.length sig_len
  let compressed ← slice buf msg_start msg_end
  let expected_checksum ← beAt 8 buf 56
  let hdr ← slice buf 0 56
  let actual := (K.xxh64 (hdr ++ topic_bytes ++ compressed)).toNat
  -- A zero checksum field is not checked.
  ensure (expected_checksum = 0 ∨ actual = expected_checksum)
    ⟨.ChecksumMismatch,
      s!"expected {fmtHex 16 expected_checksum false}, got {fmtHex 16 actual false}"⟩
  let msg_block ← decompress_if_needed K compressed header.flags.compression
  let block ← decode_block K msg_block header.flags.encoding
  let signature ← decode_signature buf sig_len msg_end
  return {
    message_id := header.message_id
    topic
    timestamp_ms := header.timestamp_ms
    ttl_ms := header.ttl_ms
    max_body_size := header.max_body_size
    flags := header.flags
    priority := header.priority
    key_id := header.key_id
    trace_id := block.trace_id
    span_id := block.span_id
    correlation_id := block.correlation_id
    msg_type := block.msg_type
    source := block.source
    target := block.target
    headers := block.headers
    body := block.body
    signature }

end Aqap.Wire
