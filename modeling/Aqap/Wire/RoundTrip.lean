import Aqap.Wire.Block
import Aqap.Wire.Frame

/-!
# What `decode_message` reads in an encoded frame

`decode_encode_message` reads a frame of `encode_message_with_flags` field by field: if the topic,
the strings, the header map and its entries fit their length fields (`FieldsFit`), and the
decompressor gives back the message block, then decoding gives every field back but the body; the
body is what the codec makes of the first `len % 65536` bytes of the encoded body.

* `read_entries_encode` is the loop, on the entries in the order in which they were written.
* `decode_message_encode` is the round trip of a message whose body fits too.
-/

namespace Aqap.Wire

open Rust Rust.Res

variable {V : Type} (K : Crates V)

/-! ## What fits -/

/-- The topic, the two strings and the headers fit their length fields. -/
structure FieldsFit (msg : WireMessage V) : Prop where
  topic : (utf8 msg.topic).length ≤ 65535
  source : (utf8 msg.source).length ≤ 255
  target : (utf8 msg.target).length ≤ 255
  count : msg.headers.size ≤ 65535
  entry : ∀ k v, msg.headers[k]? = some v → EntryFits k v

/-- The fields that are not lengths can be represented: a two-bit key id, a message type that reads
back, and a signature of the length of its mode. -/
structure Representable (msg : WireMessage V) (flags : Flags) : Prop where
  key_id : msg.key_id ≤ 3
  msg_type : msg.msg_type.Canonical
  signature : msg.signature.length = flags.signature_mode.sig_len

/-- The encoded body of a message. -/
def encoded_body (msg : WireMessage V) : Bytes := encode_body K msg.body msg.flags.encoding

/-- The codec gives the body back. -/
def BodyReadsBack (body : V) (encoding : Encoding) : Prop :=
  decode_body K (encode_body K body encoding) encoding = .ok body

/-- The body codecs give back what they encoded. -/
structure LosslessBody : Prop where
  json : ∀ v, ∃ bs, K.json_to_vec v = some bs ∧ K.json_from_slice bs = .ok v
  rmp : ∀ v, ∃ bs, K.rmp_to_vec v = some bs ∧ K.rmp_from_slice bs = .ok v

/-- zstd and zlib give back what they compressed. -/
structure LosslessBlocks : Prop where
  zstd : ∀ d, ∃ c, K.zstd_encode_all d = some c ∧ K.zstd_decode_all c = .ok d
  zlib : ∀ d, ∃ c, K.zlib_encode d = some c ∧ K.zlib_decode c = .ok d

variable {K}

theorem bodyReadsBack_of_lossless (hK : LosslessBody K) (body : V) (encoding : Encoding) :
    BodyReadsBack K body encoding := by
  unfold BodyReadsBack
  obtain ⟨bj, hj, hj'⟩ := hK.json body
  obtain ⟨bm, hm, hm'⟩ := hK.rmp body
  cases encoding
  case MsgPack => simp only [encode_body, decode_body, hm, Option.getD_some, hm', mapErr_ok]
  all_goals simp only [encode_body, decode_body, hj, Option.getD_some, hj', mapErr_ok]

theorem decompress_compress (hK : LosslessBlocks K) (data : Bytes) {c : Compression}
    (hc : c ≠ .Lz4) : decompress_if_needed K (compress_if_needed K data c) c = .ok data := by
  cases c with
  | None => rfl
  | Zstd =>
    obtain ⟨d, hd, hd'⟩ := hK.zstd data
    simp only [compress_if_needed, decompress_if_needed, hd, Option.getD_some, hd', mapErr_ok]
  | Lz4 => exact absurd rfl hc
  | Zlib =>
    obtain ⟨d, hd, hd'⟩ := hK.zlib data
    simp only [compress_if_needed, decompress_if_needed, hd, Option.getD_some, hd', mapErr_ok]

/-! ## The iterations of a header map -/

namespace Iteration

variable {headers : Headers} (it : Iteration headers)

theorem length_entries : it.entries.length = headers.size := by
  have h : (Std.ExtHashMap.ofList it.entries : Headers).size = it.entries.length :=
    Std.ExtHashMap.size_ofList it.distinct
  rw [it.ofList] at h
  exact h.symm

theorem getElem?_of_mem {k v : String} (h : (k, v) ∈ it.entries) : headers[k]? = some v := by
  rw [← it.ofList]
  exact Std.ExtHashMap.getElem?_ofList_of_mem (beq_self_eq_true k) it.distinct h

/-- Inserting the entries one after the other gives the map. -/
theorem insertMany_entries : (∅ : Headers).insertMany it.entries = headers := by
  rw [← Std.ExtHashMap.ofList_eq_insertMany_empty, it.ofList]

/-- The empty map has nothing to iterate over. -/
def empty : Iteration (∅ : Headers) where
  entries := []
  distinct := List.Pairwise.nil
  ofList := rfl

end Iteration

/-! ## The message block -/

/-- The bytes of a key and its value. -/
def entry_utf8 (e : String × String) : Bytes × Bytes := (utf8 e.1, utf8 e.2)

@[simp] theorem entry_text_utf8 (e : String × String) : entry_text (entry_utf8 e) = e := by
  simp [entry_text, entry_utf8]

theorem encode_headers_eq (entries : List (String × String)) :
    encode_headers entries = (entries.map entry_utf8).flatMap entry_bytes := by
  rw [encode_headers, List.flatMap_map]
  rfl

/-- **The header loop** reads the entries that were written, in their order, and stops after
them. -/
theorem read_entries_encode (entries : List (String × String)) (tail : Bytes)
    (hfit : ∀ e ∈ entries, EntryFits e.1 e.2) :
    read_entries entries.length (encode_headers entries ++ tail) =
      (entries.map entry_utf8, tail) := by
  have hraw : ∀ e ∈ entries.map entry_utf8, RawFits e := by
    intro e he
    obtain ⟨e', he', rfl⟩ := List.mem_map.mp he
    exact hfit e' he'
  have h := read_entries_append (entries.map entry_utf8) tail hraw
  rwa [List.length_map, ← encode_headers_eq] at h

/-- The block without its body: what `decode_block` reads besides the body. -/
def block_of (msg : WireMessage V) (body : V) : Block V where
  trace_id := msg.trace_id
  span_id := msg.span_id
  correlation_id := msg.correlation_id
  msg_type := msg.msg_type
  source := msg.source
  target := msg.target
  headers := msg.headers
  body

/-- **The message block** reads back; the body is read up to the length that its field holds. -/
theorem decode_block_encode {msg : WireMessage V} (it : Iteration msg.headers)
    (hfit : FieldsFit msg) (htype : msg.msg_type.Canonical) (body_bytes : Bytes)
    (encoding : Encoding) :
    decode_block K (encode_block msg it body_bytes) encoding =
      (decode_body K (body_bytes.take (body_bytes.length % 65536)) encoding >>= fun body =>
        .ok (block_of msg body)) := by
  -- Of the body bytes, the decoder reads as many as the length field says.
  let r : RawBlock := {
    code := msg.msg_type.to_u16
    count := it.entries.length
    rest := encode_headers it.entries ++ (lenU16 body_bytes.length ++ body_bytes)
    body := body_bytes.take (body_bytes.length % 65536)
    trailing := body_bytes.drop (body_bytes.length % 65536) }
  have hentries : ∀ e ∈ it.entries, EntryFits e.1 e.2 := fun e he =>
    hfit.entry _ _ (it.getElem?_of_mem he)
  have hread := read_entries_encode it.entries (lenU16 body_bytes.length ++ body_bytes) hentries
  have hcount : r.count < 65536 := by
    show it.entries.length < 65536
    rw [it.length_entries]
    exact Nat.lt_succ_of_le hfit.count
  have hlen : r.body.length = body_bytes.length % 65536 := by
    show (body_bytes.take (body_bytes.length % 65536)).length = _
    rw [List.length_take, Nat.min_eq_left (Nat.mod_le _ _)]
  have hleft : r.left = lenU16 r.body.length ++ (r.body ++ r.trailing) := by
    rw [hlen, lenU16_mod, List.take_append_drop]
    exact congrArg Prod.snd hread
  have hbytes : encode_block msg it body_bytes = block_head msg.trace_id msg.span_id
      msg.correlation_id r.code msg.source msg.target ++ (toBe 2 r.count ++ r.rest) := by
    have hsize : lenU16 msg.headers.size = toBe 2 it.entries.length := by
      rw [lenU16, toNat_ofNat_u16, it.length_entries,
        Nat.mod_eq_of_lt (Nat.lt_succ_of_le hfit.count)]
    rw [encode_block, hsize]
    simp [block_head, r]
  have hmod := Nat.mod_lt body_bytes.length (show 0 < 65536 by decide)
  have hmap : (∅ : Headers).insertMany (r.entries.map entry_text) = msg.headers := by
    have : r.entries = it.entries.map entry_utf8 := congrArg Prod.fst hread
    rw [this, List.map_map]
    simp [Function.comp_def, it.insertMany_entries]
  rw [hbytes, decode_block_eq _ _ _ r hfit.source hfit.target hcount hleft (by omega), hmap]
  simp only [r, MessageType.from_u16_to_u16 htype]
  rfl

/-! ## The frame -/

/-- An encoded frame is its parts: the header with its checksum, the topic, the block and the
signature. -/
theorem encode_message_eq {msg : WireMessage V} (it : Iteration msg.headers) (flags : Flags)
    {compressed : Bytes} (hc : compress_if_needed K
      (encode_block msg it (encode_body K msg.body flags.encoding)) flags.compression = compressed) :
    encode_message_with_flags K msg it flags =
      header_fields (frame_header msg flags compressed) ++
        (toBe 8 (K.xxh64 (header_fields (frame_header msg flags compressed) ++ utf8 msg.topic ++
          compressed)).toNat ++ (utf8 msg.topic ++ (compressed ++ msg.signature))) := by
  have htake : ∀ header, (encode_header header).take 56 = header_fields header := fun header => by
    rw [encode_header, List.take_left' (length_header_fields header)]
  rw [encode_message_with_flags]
  simp only [hc, htake, List.append_assoc]

/-- **What decoding an encoded frame gives**, up to the block: the fields of the header and the topic
read back. -/
theorem decode_encode_frame {msg : WireMessage V} (it : Iteration msg.headers) (flags : Flags)
    (htopic : (utf8 msg.topic).length ≤ 65535) (hkey : msg.key_id ≤ 3)
    (hsig : msg.signature.length = flags.signature_mode.sig_len) {compressed : Bytes}
    (hc : compress_if_needed K (encode_block msg it (encode_body K msg.body flags.encoding))
      flags.compression = compressed) :
    decode_message K (encode_message_with_flags K msg it flags) =
      (decompress_if_needed K compressed flags.compression >>= fun msg_block =>
        decode_block K msg_block flags.encoding >>= fun block =>
          .ok (message_of (frame_header msg flags compressed) msg.topic block msg.signature)) := by
  rw [encode_message_eq it flags hc]
  generalize hhd : frame_header msg flags compressed = header
  have hflags : header.flags = flags := by rw [← hhd]; rfl
  have htl : (utf8 msg.topic).length = header.topic_len.toNat := by
    rw [← hhd, frame_header, toNat_ofNat_u16]
    exact (Nat.mod_eq_of_lt (Nat.lt_succ_of_le htopic)).symm
  have hkid : header.key_id &&& 0x03 = header.key_id := by
    rw [← hhd]
    exact key_id_and_mask hkey
  rw [← hflags] at hsig
  rw [decode_message_append (length_header_fields header) (length_toBe _ _) htl hsig
    (by rw [decode_header_encode header _ _ (length_toBe _ _), hkid])
    (.inr (ofBe_toBe_of_lt (UInt64.toNat_lt _)).symm), hflags]

/-- **What decoding an encoded frame gives**, for a message whose fields fit: the message, with the
body that the codec reads in the bytes that the body length field covers. -/
theorem decode_encode_message {msg : WireMessage V} (it : Iteration msg.headers) (flags : Flags)
    (hfit : FieldsFit msg) (hrep : Representable msg flags)
    (hcomp : decompress_if_needed K (compress_if_needed K
      (encode_block msg it (encode_body K msg.body flags.encoding)) flags.compression) flags.compression =
        .ok (encode_block msg it (encode_body K msg.body flags.encoding))) :
    decode_message K (encode_message_with_flags K msg it flags) =
      (decode_body K ((encode_body K msg.body flags.encoding).take
        ((encode_body K msg.body flags.encoding).length % 65536)) flags.encoding >>= fun body =>
        .ok { msg with flags := flags, body := body }) := by
  rw [decode_encode_frame it flags hfit.topic hrep.key_id hrep.signature rfl, hcomp, ok_bind,
    decode_block_encode it hfit hrep.msg_type, bind_assoc]
  rfl

/-- A body that fits is read back too. -/
theorem decode_encode_of_body_le {msg : WireMessage V} (it : Iteration msg.headers) (flags : Flags)
    (hbody : BodyReadsBack K msg.body flags.encoding) (hfit : FieldsFit msg)
    (hlen : (encode_body K msg.body flags.encoding).length ≤ 65535)
    (hrep : Representable msg flags)
    (hcomp : ∀ data, decompress_if_needed K (compress_if_needed K data flags.compression)
      flags.compression = .ok data) :
    decode_message K (encode_message_with_flags K msg it flags) =
      .ok { msg with flags := flags } := by
  rw [decode_encode_message it flags hfit hrep (hcomp _), Nat.mod_eq_of_lt (Nat.lt_succ_of_le hlen),
    List.take_length, hbody, ok_bind]

/-- **Wire round trip.** A message that fits the format decodes to itself, with the flags that it
was encoded with. -/
theorem decode_message_encode (hbody : LosslessBody K) (hblocks : LosslessBlocks K)
    {msg : WireMessage V} (it : Iteration msg.headers) {flags : Flags} (hfit : FieldsFit msg)
    (hlen : (encode_body K msg.body flags.encoding).length ≤ 65535)
    (hrep : Representable msg flags) (hcomp : flags.compression ≠ .Lz4) :
    decode_message K (encode_message_with_flags K msg it flags) =
      .ok { msg with flags := flags } := by
  refine decode_encode_of_body_le it flags (bodyReadsBack_of_lossless hbody _ _) hfit hlen hrep fun data => ?_
  exact decompress_compress hblocks data hcomp

/-! ## A sample message -/

/-- JSON and MessagePack on the two booleans; `digest` is the hash of every input. -/
def bool_crates (digest : UInt64) : Crates Bool where
  json_to_vec b := some (utf8 (if b then "true" else "false"))
  json_from_slice bs :=
    if bs = utf8 "true" then .ok true else if bs = utf8 "false" then .ok false
    else .error "expected value at line 1 column 1"
  rmp_to_vec b := some [if b then 0xc3 else 0xc2]
  rmp_from_slice bs :=
    if bs.head? = some 0xc3 then .ok true else if bs.head? = some 0xc2 then .ok false
    else .error "failed to fill whole buffer"
  zstd_encode_all := some
  zstd_decode_all := .ok
  lz4_compress := some
  lz4_decompress := .ok
  zlib_encode := some
  zlib_decode := .ok
  xxh64 _ := digest
  utf8_error _ := "invalid utf-8 sequence"

theorem bool_crates_losslessBody (digest : UInt64) : LosslessBody (bool_crates digest) where
  json v := ⟨_, rfl, by cases v <;> rfl⟩
  rmp v := ⟨_, rfl, by cases v <;> rfl⟩

theorem bool_crates_losslessBlocks (digest : UInt64) : LosslessBlocks (bool_crates digest) where
  zstd d := ⟨d, rfl, rfl⟩
  zlib d := ⟨d, rfl, rfl⟩

/-- A message with one header and without a signature. -/
def sample_message (source target : String) (body : Bool) : WireMessage Bool where
  message_id := Uuid.nil
  topic := "t"
  timestamp_ms := 0
  ttl_ms := 0
  max_body_size := 0
  flags := Flags.new .Json .None .None
  priority := .Normal
  key_id := 0
  trace_id := Uuid.nil
  span_id := 0
  correlation_id := Uuid.nil
  msg_type := .TaskDispatch
  source
  target
  headers := Std.ExtHashMap.ofList [("x-priority", "high")]
  body
  signature := []

def sample_iteration (source target : String) (body : Bool) :
    Iteration (sample_message source target body).headers where
  entries := [("x-priority", "high")]
  distinct := List.pairwise_singleton _ _
  ofList := rfl

theorem sample_representable (source target : String) (body : Bool) :
    Representable (sample_message source target body) (Flags.new .Json .None .None) :=
  ⟨UInt8.zero_le, trivial, rfl⟩

theorem sample_fieldsFit {source target : String} (body : Bool) (hs : (utf8 source).length ≤ 255)
    (ht : (utf8 target).length ≤ 255) : FieldsFit (sample_message source target body) where
  topic := (by decide : (utf8 "t").length ≤ 65535)
  source := hs
  target := ht
  count := by
    rw [← (sample_iteration source target body).length_entries]
    exact Nat.le_of_ble_eq_true rfl
  entry k v h := by
    have hkv : (Std.ExtHashMap.ofList [("x-priority", "high")] : Headers)[k]? = some v := h
    rw [Std.ExtHashMap.ofList_singleton, Std.ExtHashMap.getElem?_insert] at hkv
    split at hkv
    · rename_i he
      rw [← beq_iff_eq.mp he, ← Option.some.inj hkv]
      exact ⟨by decide, by decide⟩
    · simp at hkv

/-- A block without strings and headers, and with the body `true`. -/
def true_block : Bytes :=
  block_head Uuid.nil 0 Uuid.nil 0 "" "" ++ (toBe 2 0 ++ (lenU16 4 ++ (utf8 "true" ++ [])))

theorem decode_true_block (digest : UInt64) :
    decode_block (bool_crates digest) true_block .Json = .ok {
      trace_id := Uuid.nil, span_id := 0, correlation_id := Uuid.nil, msg_type := .TaskDispatch
      source := "", target := "", headers := (∅ : Headers).insertMany [], body := true } :=
  decode_block_eq _ _ _ ⟨0, 0, lenU16 4 ++ (utf8 "true" ++ []), utf8 "true", []⟩ (by decide) (by decide)
    (by decide) (by decide) (by decide) .Json

/-- The round trip of a message with one header; the constant is the xxHash64 of its frame. -/
theorem decode_message_encode_sample :
    decode_message (bool_crates 0xbb3b1794879bd0ea) (encode_message_with_flags
      (bool_crates 0xbb3b1794879bd0ea) (sample_message "s" "r" true) (sample_iteration "s" "r" true)
      (Flags.new .Json .None .None)) =
      .ok { sample_message "s" "r" true with flags := Flags.new .Json .None .None } :=
  decode_message_encode (bool_crates_losslessBody _) (bool_crates_losslessBlocks _)
    (sample_iteration "s" "r" true) (sample_fieldsFit true (by decide) (by decide)) (by decide)
    (sample_representable "s" "r" true) (by decide)

end Aqap.Wire
