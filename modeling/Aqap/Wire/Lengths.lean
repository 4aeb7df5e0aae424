import Aqap.Wire.RoundTrip

/-!
# The length fields of the header

`total_len` and `header_count` are written by the encoder and read by nobody.

* `total_len_encode`: the encoder takes the length of the signature from the flags, and writes the
  bytes of the message's signature.
* `restamp`: a buffer with other values in `max_body_size`, `header_count` and `total_len`, and with a
  zero checksum. `decode_restamp`: an accepted buffer stays accepted, with the same message but for
  the new limit.
-/

namespace Aqap.Wire

open Rust Rust.Res

variable {V : Type} {K : Crates V}

/-! ## What the encoder writes -/

theorem length_encode_message (msg : WireMessage V) (it : Iteration msg.headers) (flags : Flags)
    {compressed : Bytes} (hc : compress_if_needed K
      (encode_block msg it (encode_body K msg.body flags.encoding)) flags.compression = compressed) :
    (encode_message_with_flags K msg it flags).length =
      HEADER_SIZE + (utf8 msg.topic).length + compressed.length + msg.signature.length := by
  rw [encode_message_eq it flags hc]
  simp only [List.length_append, length_header_fields, length_toBe, HEADER_SIZE]
  omega

/-- The `total_len` field of a frame: the length with a signature of the length that the flags say. -/
theorem total_len_encode (msg : WireMessage V) (it : Iteration msg.headers) (flags : Flags)
    {compressed : Bytes} (hc : compress_if_needed K
      (encode_block msg it (encode_body K msg.body flags.encoding)) flags.compression = compressed) :
    field 4 (encode_message_with_flags K msg it flags) 52 =
      (HEADER_SIZE + (utf8 msg.topic).length + compressed.length + flags.signature_mode.sig_len) %
        2 ^ 32 := by
  rw [encode_message_eq it flags hc]
  generalize hhd : frame_header msg flags compressed = header
  have hdrop : ∀ rest, (header_fields header ++ rest).drop 52 = toBe 4 header.total_len.toNat ++ rest := by
    intro rest
    rw [header_fields, List.append_assoc, List.drop_left' (by simp [header.message_id.len])]
  rw [field, hdrop, List.take_left' (length_toBe _ _), ofBe_toBe_of_lt (UInt32.toNat_lt _), ← hhd,
    frame_header]
  exact UInt32.toNat_ofNat'

/-! ## What the decoder does not read -/

/-- The buffer with other values in three header fields, and with a zero checksum field. -/
def restamp (buf : Bytes) (max_body_size : UInt32) (header_count : UInt16) (total_len : UInt32) :
    Bytes :=
  buf.take 44 ++ (toBe 4 max_body_size.toNat ++ ((buf.drop 48).take 2 ++ (toBe 2 header_count.toNat ++
    (toBe 4 total_len.toNat ++ (toBe 8 0 ++ buf.drop 64)))))

/-- A field before byte `n` of a buffer is in its first `n` bytes. -/
theorem field_take_append {w o n : Nat} {buf rest : Bytes} (h : o + w ≤ n) (hn : n ≤ buf.length) :
    field w (buf.take n ++ rest) o = field w buf o := by
  have hl : (buf.take n).length = n := by rw [List.length_take, Nat.min_eq_left hn]
  rw [field, field, List.drop_append_of_le_length (by omega), List.take_append_of_le_length
    (by rw [List.length_drop]; omega), List.drop_take, List.take_take, Nat.min_eq_left (by omega)]

theorem getElem?_take_append {i n : Nat} {buf rest : Bytes} (h : i < n) (hn : n ≤ buf.length) :
    (buf.take n ++ rest)[i]? = buf[i]? := by
  rw [List.getElem?_append_left (by rw [List.length_take]; omega), List.getElem?_take_of_lt h]

variable {buf : Bytes} (max_body_size : UInt32) (header_count : UInt16) (total_len : UInt32)

theorem length_restamp (h : 64 ≤ buf.length) :
    (restamp buf max_body_size header_count total_len).length = buf.length := by
  simp [restamp]
  omega

theorem drop_restamp (h : 64 ≤ buf.length) :
    (restamp buf max_body_size header_count total_len).drop 64 = buf.drop 64 := by
  have hl : (buf.take 44 ++ toBe 4 max_body_size.toNat ++ (buf.drop 48).take 2 ++
      toBe 2 header_count.toNat ++ toBe 4 total_len.toNat ++ toBe 8 0).length = 64 := by
    simp
    omega
  rw [restamp]
  simp only [← List.append_assoc]
  exact List.drop_left' hl

/-- The header of a restamped buffer. -/
theorem headerAt_restamp {header : WireHeader} (h : HeaderAt buf header) :
    HeaderAt (restamp buf max_body_size header_count total_len)
      { header with max_body_size, header_count, total_len } := by
  have hlen : 64 ≤ buf.length := h.length
  have hl := length_restamp max_body_size header_count total_len hlen
  have c0 : At (restamp buf max_body_size header_count total_len) 0 (buf.take 44 ++
      (toBe 4 max_body_size.toNat ++ ((buf.drop 48).take 2 ++ (toBe 2 header_count.toNat ++
        (toBe 4 total_len.toNat ++ (toBe 8 0 ++ buf.drop 64)))))) := At.start _
  have h44 : (buf.take 44).length = 44 := by rw [List.length_take]; omega
  have h48 : ((buf.drop 48).take 2).length = 2 := by rw [List.length_take, List.length_drop]; omega
  have c44 := c0.advance
  have c48 := c44.advance
  have c50 := c48.advance
  have c52 := c50.advance
  simp only [h44, h48, length_toBe, Nat.zero_add, Nat.reduceAdd] at c44 c48 c50 c52
  have hfield : ∀ {w o : Nat}, o + w ≤ 44 →
      field w (restamp buf max_body_size header_count total_len) o = field w buf o :=
    fun ho => field_take_append ho (by omega)
  refine ⟨hl ▸ h.length, ?_, ?_, ?_, ?_, ?_, ?_, ?_, ?_, ?_, ?_, ?_, ?_⟩
  · rw [hfield (by omega), h.magic]
  · rw [hfield (by omega), h.version]
  · rw [restamp, getElem?_take_append (by omega) (by omega), h.flags]
  · rw [restamp, getElem?_take_append (by omega) (by omega), h.priority]
  · rw [hfield (by omega)]; exact h.key_id
  · have hid := h.message_id
    rw [← h.message_id, restamp, List.drop_append_of_le_length (by omega),
      List.take_append_of_le_length (by rw [List.length_drop]; omega), List.drop_take,
      List.take_take, Nat.min_eq_left (by omega)]
  · rw [hfield (by omega)]; exact h.timestamp_ms
  · rw [hfield (by omega)]; exact h.ttl_ms
  · rw [field_toBe c44 (UInt32.toNat_lt _), UInt32.ofNat_toNat]
  · rw [field_at c48 h48]
    exact h.topic_len
  · rw [field_toBe c50 (UInt16.toNat_lt _), UInt16.ofNat_toNat]
  · rw [field_toBe c52 (UInt32.toNat_lt _), UInt32.ofNat_toNat]

theorem checksum_restamp (h : 64 ≤ buf.length) :
    frame_checksum (restamp buf max_body_size header_count total_len) = 0 := by
  have h56 : (buf.take 44 ++ toBe 4 max_body_size.toNat ++ (buf.drop 48).take 2 ++
      toBe 2 header_count.toNat ++ toBe 4 total_len.toNat).length = 56 := by
    simp
    omega
  have hat : At (restamp buf max_body_size header_count total_len) 56 (toBe 8 0 ++ buf.drop 64) :=
    ⟨_, by rw [restamp]; simp only [List.append_assoc], h56⟩
  exact field_toBe hat (by decide)

/-- The parts of a restamped buffer are those of the buffer. -/
theorem unpacks_restamp {header : WireHeader} {topic : String} {msg_block : Bytes}
    (h : Unpacks K buf header topic msg_block) :
    Unpacks K (restamp buf max_body_size header_count total_len)
      { header with max_body_size, header_count, total_len } topic msg_block ∧
    frame_signature { header with max_body_size, header_count, total_len }
      (restamp buf max_body_size header_count total_len) = frame_signature header buf := by
  have hlen := length_of_decode_header h.header_ok
  have hl := length_restamp max_body_size header_count total_len hlen
  have h64 := drop_restamp max_body_size header_count total_len hlen
  -- Behind the header the two buffers are the same.
  have hdrop : ∀ i, 64 ≤ i →
      (restamp buf max_body_size header_count total_len).drop i = buf.drop i := by
    intro i hi
    have hsplit : i = 64 + (i - 64) := by omega
    rw [hsplit, ← List.drop_drop, h64, List.drop_drop]
  have hroom := h.room
  rw [HasRoom, HEADER_SIZE] at hroom
  have hend : 64 ≤ buf.length - header.flags.signature_mode.sig_len := by omega
  refine ⟨⟨?_, ?_, ?_, ?_, ?_⟩, ?_⟩
  · exact decode_header_eq_ok_iff.mpr
      (headerAt_restamp _ _ _ (decode_header_eq_ok_iff.mp h.header_ok))
  · rw [HasRoom, hl]
    exact h.room
  · rw [frame_topic, HEADER_SIZE, h64]
    exact h.topic_ok
  · exact .inl (checksum_restamp _ _ _ hlen)
  · rw [frame_compressed, hl, hdrop _ (by rw [HEADER_SIZE]; omega)]
    exact h.block
  · rw [frame_signature, hl, hdrop _ hend, frame_signature]

/-- **An accepted buffer stays accepted** with any header count and any total length, and with any
limit, which is the only one of the three that the message shows. -/
theorem decode_restamp {msg : WireMessage V} (h : decode_message K buf = .ok msg) :
    decode_message K (restamp buf max_body_size header_count total_len) =
      .ok { msg with max_body_size } := by
  obtain ⟨header, topic, msg_block, block, hunpacks, hdec, rfl⟩ := decode_message_eq_ok_iff.mp h
  obtain ⟨hrestamp, hsig⟩ := unpacks_restamp max_body_size header_count total_len hunpacks
  rw [hrestamp.decode, hsig, hdec, ok_bind]
  rfl

/-! ## Truthful frames -/

/-- The two length fields of the header say what is there: the length of the buffer, and the number of
headers. -/
def Truthful (buf : Bytes) (header : WireHeader) (headers : Nat) : Prop :=
  header.total_len.toNat = buf.length ∧ header.header_count.toNat = headers

/-- **Frame lengths.** A frame below 4 GiB has its length in `total_len` if and only if its signature
has the length of its mode. The decoder compares neither length field: an accepted buffer stays accepted,
as the same message, with any other 48 bits in `total_len` and `header_count` (and a zero checksum). So
with each of them it accepts buffers that are not truthful, however the headers are counted. -/
theorem lengths_truthful_iff (K : Crates V) :
    (∀ (msg : WireMessage V) (it : Iteration msg.headers) (flags : Flags),
      (encode_message_with_flags K msg it flags).length < 2 ^ 32 →
      (field 4 (encode_message_with_flags K msg it flags) 52 =
          (encode_message_with_flags K msg it flags).length ↔
        msg.signature.length = flags.signature_mode.sig_len)) ∧
    (∀ (buf : Bytes) (header : WireHeader) (topic : String) (msg_block : Bytes) (msg : WireMessage V),
      Unpacks K buf header topic msg_block → decode_message K buf = .ok msg →
      (∀ (header_count : UInt16) (total_len : UInt32),
        decode_message K (restamp buf header.max_body_size header_count total_len) = .ok msg ∧
        Unpacks K (restamp buf header.max_body_size header_count total_len)
          { header with header_count, total_len } topic msg_block) ∧
      ∀ (header_count : UInt16) (headers : Nat),
        ¬ Truthful (restamp buf header.max_body_size header_count 0)
          { header with header_count, total_len := 0 } headers) := by
  refine ⟨?_, ?_⟩
  · intro msg it flags hlt
    have hlen := length_encode_message msg it flags rfl (K := K)
    have hsig := flags.signature_mode.sig_len_le
    rw [total_len_encode msg it flags rfl]
    rw [hlen] at hlt ⊢
    omega
  · intro buf header topic msg_block msg hunpacks hdec
    have hlen := length_of_decode_header hunpacks.header_ok
    have hmsg : msg.max_body_size = header.max_body_size := by
      rw [hunpacks.decode] at hdec
      obtain ⟨block, -, hmsg⟩ := bind_ok_iff.mp hdec
      rw [ok.injEq] at hmsg
      rw [← hmsg, message_of]
    refine ⟨fun header_count total_len => ⟨?_, ?_⟩, fun header_count headers htruthful => ?_⟩
    · have hrestamp := decode_restamp header.max_body_size header_count total_len hdec
      rw [← hmsg] at hrestamp ⊢
      exact hrestamp
    · exact (unpacks_restamp header.max_body_size header_count total_len hunpacks).1
    · have hzero := htruthful.1
      rw [length_restamp _ _ _ hlen] at hzero
      change 0 = buf.length at hzero
      omega

/-- An unsigned frame has its length in `total_len`; and an accepted frame whose header is changed to 7
entries and 1000 bytes is accepted. -/
theorem lengths_truthful_sample :
    field 4 (encode_message_with_flags (bool_crates 0) (sample_message "s" "r" true)
        (sample_iteration "s" "r" true) (Flags.new .Json .None .None)) 52 =
      (encode_message_with_flags (bool_crates 0) (sample_message "s" "r" true)
        (sample_iteration "s" "r" true) (Flags.new .Json .None .None)).length ∧
    ∃ msg, decode_message (bool_crates 0) (restamp (plain_frame true_block) 0 7 1000) = .ok msg := by
  have hunpacks := plain_unpacks (K := bool_crates 0) true_block
  obtain ⟨msg, hdec⟩ := hunpacks.accepted_iff.mpr ⟨_, decode_true_block 0⟩
  exact ⟨((lengths_truthful_iff (bool_crates 0)).1 _ _ _ (by decide +kernel)).mpr (by decide),
    msg, (((lengths_truthful_iff (bool_crates 0)).2 _ _ _ _ msg hunpacks hdec).1 7 1000).1⟩

/-- A signature without a signature mode is not counted; and a frame whose header says 0 bytes is
accepted. -/
theorem lengths_not_truthful :
    (¬ ∀ (V : Type) (K : Crates V) (msg : WireMessage V) (it : Iteration msg.headers) (flags : Flags),
      (encode_message_with_flags K msg it flags).length < 2 ^ 32 →
      field 4 (encode_message_with_flags K msg it flags) 52 =
        (encode_message_with_flags K msg it flags).length) ∧
    (¬ ∀ (V : Type) (K : Crates V) (buf : Bytes) (header : WireHeader) (topic : String)
      (msg_block : Bytes) (msg : WireMessage V), Unpacks K buf header topic msg_block →
      decode_message K buf = .ok msg → Truthful buf header msg.headers.size) := by
  refine ⟨?_, ?_⟩
  · intro h
    let msg : WireMessage Bool := { sample_message "s" "r" true with signature := [0] }
    have hlen := length_encode_message (K := bool_crates 0) msg (sample_iteration "s" "r" true)
      (Flags.new .Json .None .None) rfl
    have htotal := total_len_encode (K := bool_crates 0) msg (sample_iteration "s" "r" true)
      (Flags.new .Json .None .None) rfl
    have hblock : (compress_if_needed (bool_crates 0) (encode_block msg (sample_iteration "s" "r" true)
        (encode_body (bool_crates 0) msg.body (Flags.new .Json .None .None).encoding))
        (Flags.new .Json .None .None).compression).length = 71 := by decide
    have htopic : (utf8 msg.topic).length = 1 := by decide
    have hsig : msg.signature.length = 1 := rfl
    have hmode : (Flags.new .Json .None .None).signature_mode.sig_len = 0 := by decide
    rw [hblock, htopic, hsig, HEADER_SIZE] at hlen
    rw [hblock, htopic, hmode, HEADER_SIZE] at htotal
    have hfield := h Bool (bool_crates 0) msg (sample_iteration "s" "r" true)
      (Flags.new .Json .None .None) (by omega)
    omega
  · intro h
    have hunpacks := plain_unpacks (K := bool_crates 0) true_block
    obtain ⟨msg, hdec⟩ := hunpacks.accepted_iff.mpr ⟨_, decode_true_block 0⟩
    have htruthful := h _ _ _ _ _ _ _ hunpacks hdec
    have hlen : (plain_frame true_block).length ≠ 0 := by
      simp [plain_frame, unchecked_frame]
    exact hlen htruthful.1.symm

end Aqap.Wire
