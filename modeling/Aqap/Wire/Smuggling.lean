import Aqap.Wire.RoundTrip

/-!
# Over-long fields

The encoder casts six lengths to `u8` or `u16` and writes the fields in full, so the bytes of an
over-long field are read as the fields after it.

* `fieldsFit_of_decode`: every decoded message fits the format, since each decoded length came from
  a length field.
* `decoded_eq_iff`: an accepted frame decodes to the message that was encoded exactly if the topic, the
  strings and the headers of that message fit, and its body survives.
* `decode_body_truncated`: of an over-long body the codec rejects what is left (`RejectsTruncated`).
* `smuggled`: a source of 256 bytes that holds another message's fields.
-/

namespace Aqap.Wire

open Rust Rust.Res

variable {V : Type} {K : Crates V}

/-! ## Accepted buffers -/

/-- Every entry of a map that was filled from a list is in the list. -/
theorem mem_of_insertMany {entries : List (String × String)} {k v : String}
    (h : ((∅ : Headers).insertMany entries)[k]? = some v) : (k, v) ∈ entries := by
  induction entries using List.reverseRecOn with
  | nil => simp at h
  | append_singleton entries e ih =>
    rw [Std.ExtHashMap.insertMany_append, Std.ExtHashMap.insertMany_list_singleton,
      Std.ExtHashMap.getElem?_insert] at h
    split at h
    · rename_i he
      rw [beq_iff_eq] at he
      rw [← he, ← Option.some.inj h]
      exact List.mem_append_right _ List.mem_cons_self
    · exact List.mem_append_left _ (ih h)

/-- The strings and the headers of a decoded block fit. -/
theorem decode_block_fit {msg_block : Bytes} {encoding : Encoding} {block : Block V}
    (h : decode_block K msg_block encoding = .ok block) :
    (utf8 block.source).length ≤ 255 ∧ (utf8 block.target).length ≤ 255 ∧
      block.headers.size ≤ 65535 ∧ ∀ k v, block.headers[k]? = some v → EntryFits k v := by
  obtain ⟨r, hr⟩ := decode_block_ok h
  refine ⟨hr.source, hr.target, ?_, ?_⟩
  · have hsize := Std.ExtHashMap.size_insertMany_list_le (m := (∅ : Headers))
      (l := r.entries.map entry_text)
    have hlen : r.entries.length ≤ r.count := length_read_entries _ _
    have := hr.count
    rw [← hr.headers, Std.ExtHashMap.size_empty, List.length_map] at hsize
    omega
  · intro k v hkv
    rw [hr.headers] at hkv
    obtain ⟨e, he, hkv⟩ := List.mem_map.mp (mem_of_insertMany hkv)
    have hfit := entryFits_of_raw (read_entries_fit r.count r.rest e he)
    rwa [hkv] at hfit

/-- **Every decoded message fits the format.** -/
theorem fieldsFit_of_decode {buf : Bytes} {msg : WireMessage V}
    (h : decode_message K buf = .ok msg) : FieldsFit msg := by
  obtain ⟨header, topic, msg_block, block, hunpacks, hdecode, rfl⟩ :=
    decode_message_eq_ok_iff.mp h
  obtain ⟨hs, ht, hsize, hentries⟩ := decode_block_fit hdecode
  have hlen := congrArg List.length (utf8_of_from_utf8 hunpacks.topic_ok)
  have := header.topic_len.toNat_lt
  rw [frame_topic, List.length_take] at hlen
  have ht65535 : (utf8 topic).length ≤ 65535 := by omega
  exact ⟨ht65535, hs, ht, hsize, hentries⟩

/-! ## Encoded messages -/

/-- The body codecs reject what is left of a cut encoding of more than 65535 bytes: such an encoding
is an array, a map or a string, and the decoder reaches the end of the input inside it. -/
structure RejectsTruncated (K : Crates V) : Prop where
  json : ∀ v bs n, K.json_to_vec v = some bs → 65535 < bs.length → n < bs.length →
    ∃ e, K.json_from_slice (bs.take n) = .error e
  rmp : ∀ v bs n, K.rmp_to_vec v = some bs → 65535 < bs.length → n < bs.length →
    ∃ e, K.rmp_from_slice (bs.take n) = .error e

/-- An over-long body is rejected. -/
theorem decode_body_truncated (hK : RejectsTruncated K) (body : V) (encoding : Encoding) {n : Nat}
    (hlen : 65535 < (encode_body K body encoding).length)
    (hn : n < (encode_body K body encoding).length) :
    ∃ e, decode_body K ((encode_body K body encoding).take n) encoding = .err e := by
  have hjson : ∀ bs, (K.json_to_vec body).getD [] = bs → 65535 < bs.length → n < bs.length →
      ∃ e, K.json_from_slice (bs.take n) = .error e := by
    intro bs hbs hl hn
    cases hv : K.json_to_vec body with
    | none => rw [hv, Option.getD_none] at hbs; subst hbs; simp at hl
    | some bs' =>
      rw [hv, Option.getD_some] at hbs
      subst hbs
      exact hK.json body bs' n hv hl hn
  cases encoding
  case MsgPack =>
    cases hv : K.rmp_to_vec body with
    | none => simp [encode_body, hv] at hlen
    | some bs =>
      simp only [encode_body, hv, Option.getD_some] at hlen hn ⊢
      obtain ⟨e, he⟩ := hK.rmp body bs n hv hlen hn
      exact ⟨_, by rw [decode_body, he]; rfl⟩
  all_goals
    obtain ⟨e, he⟩ := hjson _ rfl hlen hn
    simp only [encode_body, decode_body, he]
    exact ⟨_, rfl⟩

/-- What the codec makes of the bytes of the body that the length field covers is the body. -/
def BodySurvives (K : Crates V) (msg : WireMessage V) : Prop :=
  decode_body K ((encoded_body K msg).take ((encoded_body K msg).length % 65536)) msg.flags.encoding =
    .ok msg.body

/-- The length field covers a body of at most 65535 bytes. -/
theorem bodySurvives_iff_of_le {msg : WireMessage V} (hlen : (encoded_body K msg).length ≤ 65535) :
    BodySurvives K msg ↔ BodyReadsBack K msg.body msg.flags.encoding := by
  rw [BodySurvives, Nat.mod_eq_of_lt (Nat.lt_succ_of_le hlen), List.take_length]
  rfl

/-- A longer body does not survive. -/
theorem bodySurvives_iff (hcut : RejectsTruncated K) {msg : WireMessage V} :
    BodySurvives K msg ↔ (encoded_body K msg).length ≤ 65535 ∧
      BodyReadsBack K msg.body msg.flags.encoding := by
  by_cases hlen : (encoded_body K msg).length ≤ 65535
  · rw [bodySurvives_iff_of_le hlen, and_iff_right hlen]
  · refine iff_of_false (fun h => ?_) fun h => hlen h.1
    have hmod := Nat.mod_lt (encoded_body K msg).length (show 0 < 65536 by decide)
    obtain ⟨e, he⟩ := decode_body_truncated hcut msg.body msg.flags.encoding
      (n := (encoded_body K msg).length % 65536) (Nat.lt_of_not_le hlen)
      (show _ < (encoded_body K msg).length by omega)
    cases he.symm.trans h

/-- **No silent misreading, exactly.** If the frame of a message is accepted, then it decodes to that
message if and only if the topic, the strings and the headers fit their length fields, and the body
survives. -/
theorem decoded_eq_iff {msg msg' : WireMessage V} (it : Iteration msg.headers)
    (hrep : Representable msg msg.flags) (hcomp : msg.flags.compression = .None)
    (hdec : decode_message K (encode_message K msg it) = .ok msg') :
    msg' = msg ↔ FieldsFit msg ∧ BodySurvives K msg := by
  have hid : ∀ data, decompress_if_needed K (compress_if_needed K data msg.flags.compression)
      msg.flags.compression = .ok data := fun data => by rw [hcomp]; rfl
  -- The frame of a message that fits gives back everything but the body.
  have hread : FieldsFit msg → ∃ body, msg' = { msg with body } ∧
      decode_body K ((encoded_body K msg).take ((encoded_body K msg).length % 65536))
        msg.flags.encoding = .ok body := by
    intro hfit
    rw [encode_message, decode_encode_message it msg.flags hfit hrep (hid _)] at hdec
    obtain ⟨body, hbody, hmsg⟩ := bind_ok_iff.mp hdec
    exact ⟨body, (ok.inj hmsg).symm, hbody⟩
  constructor
  · rintro rfl
    have hfit := fieldsFit_of_decode hdec
    obtain ⟨body, hmsg, hbody⟩ := hread hfit
    refine ⟨hfit, ?_⟩
    rw [BodySurvives, hbody, congrArg WireMessage.body hmsg]
  · rintro ⟨hfit, hsurvives⟩
    obtain ⟨body, rfl, hbody⟩ := hread hfit
    cases hsurvives.symm.trans hbody
    rfl

theorem bool_crates_rejectsTruncated (digest : UInt64) : RejectsTruncated (bool_crates digest) where
  json v bs n h hlen _ := by
    have hle : ∀ v : Bool, (utf8 (if v then "true" else "false")).length ≤ 65535 := by decide
    rw [← Option.some.inj h] at hlen
    exact absurd hlen (Nat.not_lt.mpr (hle v))
  rmp v bs n h hlen _ := by
    rw [← Option.some.inj h, List.length_singleton] at hlen
    omega

/-- A frame that fits decodes to its message. -/
theorem decoded_sample_iff :
    sample_message "s" "r" true = sample_message "s" "r" true ↔
      FieldsFit (sample_message "s" "r" true) ∧
        BodySurvives (bool_crates 0xbb3b1794879bd0ea) (sample_message "s" "r" true) :=
  decoded_eq_iff (sample_iteration "s" "r" true) (sample_representable "s" "r" true) (by decide)
    (decode_encode_of_body_le (sample_iteration "s" "r" true) _
      (bodyReadsBack_of_lossless (bool_crates_losslessBody 0xbb3b1794879bd0ea) _ _)
      (sample_fieldsFit true (by decide) (by decide)) (by decide) (sample_representable "s" "r" true)
      fun _ => rfl)

/-- 256 bytes: no header, a body of 4 bytes, `true`, and filler. -/
def smuggling_source : String :=
  String.ofList (['\x00', '\x00', '\x00', '\x04'] ++ "true".toList ++ List.replicate 248 'x')

/-- The body `false` of the message is decoded as `true`, and its source as the empty string: its
source length is cast to 0, so the source is read as the header count and the body. The constant is
the xxHash64 of the frame. -/
theorem smuggled :
    ¬ ∀ (V : Type) (K : Crates V) (msg msg' : WireMessage V) (it : Iteration msg.headers),
      LosslessBody K → RejectsTruncated K → Representable msg msg.flags →
      msg.flags.compression = .None → decode_message K (encode_message K msg it) = .ok msg' →
      msg' = msg := by
  intro h
  have hread : (match decode_message (bool_crates 0x88632a069e28b120)
      (encode_message (bool_crates 0x88632a069e28b120) (sample_message smuggling_source "" false)
        (sample_iteration smuggling_source "" false)) with
      | .ok msg' => msg'.body
      | _ => false) = true := by
    decide +kernel
  cases hdec : decode_message (bool_crates 0x88632a069e28b120)
      (encode_message (bool_crates 0x88632a069e28b120) (sample_message smuggling_source "" false)
        (sample_iteration smuggling_source "" false)) with
  | ok msg' =>
    have hbody : msg'.body = true := by rw [hdec] at hread; exact hread
    have heq := h Bool _ _ msg' _ (bool_crates_losslessBody _) (bool_crates_rejectsTruncated _)
      (sample_representable _ _ _) (by decide) hdec
    rw [heq] at hbody
    cases hbody
  | err e => rw [hdec] at hread; cases hread
  | panic => rw [hdec] at hread; cases hread

end Aqap.Wire
