import Aqap.Wire.RoundTrip

/-!
# The grammar of the message block

`BlockText` is a sentence of the grammar: the fields of a block with their lengths in range, exactly
as many header entries as the count says, and nothing after the body.

* `decode_block_text`: every sentence is read, if its body decodes.
* `Loose`: the sentences of the grammar that the parser reads (`decode_loose`, `loose_of_decode`). An
  announced entry may be cut short, keys and values are any bytes, and bytes may follow the body.
* `Strict`: none of this is the case. `Loose.strict_iff`: which loose sentences are strict.
* `accepts_grammar_iff`: the parser accepts the block grammar but for the loose sentences with a defect.
-/

namespace Aqap.Wire

open Rust Rust.Res

variable {V : Type} {K : Crates V}

/-- A sentence of the block grammar. -/
structure BlockText where
  trace_id : Uuid
  span_id : UInt64
  correlation_id : Uuid
  code : UInt16
  source : String
  target : String
  entries : List (String × String)
  body : Bytes
  source_fits : (utf8 source).length ≤ 255
  target_fits : (utf8 target).length ≤ 255
  count_fits : entries.length ≤ 65535
  entries_fit : ∀ e ∈ entries, EntryFits e.1 e.2
  body_fits : body.length ≤ 65535

namespace BlockText

/-- trace_id, span_id, correlation_id, type, source_len, target_len, source, target, header_count, the
entries, body_len, body. -/
def bytes (t : BlockText) : Bytes :=
  block_head t.trace_id t.span_id t.correlation_id t.code t.source t.target ++
    (toBe 2 t.entries.length ++ (encode_headers t.entries ++ (lenU16 t.body.length ++ t.body)))

/-- What a sentence says, with its body decoded. -/
def block (t : BlockText) (body : V) : Block V where
  trace_id := t.trace_id
  span_id := t.span_id
  correlation_id := t.correlation_id
  msg_type := MessageType.from_u16 t.code
  source := t.source
  target := t.target
  headers := Std.ExtHashMap.ofList t.entries
  body

/-- The parts of a sentence. -/
def raw (t : BlockText) : RawBlock where
  code := t.code
  count := t.entries.length
  rest := encode_headers t.entries ++ (lenU16 t.body.length ++ t.body)
  body := t.body
  trailing := []

theorem read_raw (t : BlockText) :
    read_entries t.raw.count t.raw.rest =
      (t.entries.map entry_utf8, lenU16 t.body.length ++ t.body) :=
  read_entries_encode t.entries _ t.entries_fit

end BlockText

/-- The block is a sentence of the grammar. -/
def InGrammar (msg_block : Bytes) : Prop := ∃ t : BlockText, msg_block = t.bytes

variable (K) in
/-- The block is a sentence of the grammar, and its body is one of the codec. -/
def Readable (encoding : Encoding) (msg_block : Bytes) : Prop :=
  ∃ t : BlockText, msg_block = t.bytes ∧ ∃ body, decode_body K t.body encoding = .ok body

/-- **Every sentence is read.** -/
theorem decode_block_text (t : BlockText) {encoding : Encoding} {body : V}
    (hbody : decode_body K t.body encoding = .ok body) :
    decode_block K t.bytes encoding = .ok (t.block body) := by
  have hentries : t.raw.entries.map entry_text = t.entries := by
    rw [RawBlock.entries, t.read_raw, List.map_map]
    simp [Function.comp_def]
  have hleft : t.raw.left = lenU16 t.raw.body.length ++ (t.raw.body ++ t.raw.trailing) := by
    rw [RawBlock.left, t.read_raw]
    simp [BlockText.raw]
  have hcount : t.raw.count < 65536 := Nat.lt_succ_of_le t.count_fits
  have h := decode_block_eq (K := K) t.trace_id t.span_id t.correlation_id t.raw t.source_fits
    t.target_fits hcount hleft t.body_fits encoding
  rw [hentries, ← Std.ExtHashMap.ofList_eq_insertMany_empty] at h
  have hb : decode_body K t.raw.body encoding = .ok body := hbody
  rw [hb] at h
  exact h

/-! ## What the parser does not check -/

/-- The offset of the header count, from the two string lengths. -/
def count_offset (msg_block : Bytes) : Nat :=
  44 + (field 1 msg_block 42 + field 1 msg_block 43)

def block_count (msg_block : Bytes) : Nat := field 2 msg_block (count_offset msg_block)

/-- What follows the header count. -/
def block_rest (msg_block : Bytes) : Bytes := msg_block.drop (count_offset msg_block + 2)

/-- The entries that are complete, from the first one on. -/
def block_entries (msg_block : Bytes) : List (Bytes × Bytes) :=
  (read_entries (block_count msg_block) (block_rest msg_block)).1

/-- What follows the entries. -/
def block_left (msg_block : Bytes) : Bytes :=
  (read_entries (block_count msg_block) (block_rest msg_block)).2

/-- No entry is cut short, every key and value is UTF-8, and nothing follows the body. -/
structure Strict (msg_block : Bytes) : Prop where
  complete : (block_entries msg_block).length = block_count msg_block
  utf8 : ∀ e ∈ block_entries msg_block, (from_utf8 e.1).isSome ∧ (from_utf8 e.2).isSome
  ends : (block_left msg_block).length = 2 + field 2 (block_left msg_block) 0

instance (msg_block : Bytes) : Decidable (Strict msg_block) :=
  decidable_of_iff ((block_entries msg_block).length = block_count msg_block ∧
    (∀ e ∈ block_entries msg_block, (from_utf8 e.1).isSome ∧ (from_utf8 e.2).isSome) ∧
    (block_left msg_block).length = 2 + field 2 (block_left msg_block) 0)
    ⟨fun h => ⟨h.1, h.2.1, h.2.2⟩, fun h => ⟨h.1, h.2, h.3⟩⟩

/-- The count and the rest stand behind the head. -/
theorem block_count_rest {trace_id : Uuid} {span_id : UInt64} {correlation_id : Uuid} {code : UInt16}
    {source target : String} (hs : (utf8 source).length ≤ 255) (ht : (utf8 target).length ≤ 255)
    {msg_block : Bytes} {r : RawBlock} (hcount : r.count < 65536)
    (hbytes : msg_block = block_head trace_id span_id correlation_id code source target ++
      (toBe 2 r.count ++ r.rest)) :
    block_count msg_block = r.count ∧ block_rest msg_block = r.rest := by
  have c0 : At msg_block 0 (block_head trace_id span_id correlation_id code source target ++
      (toBe 2 r.count ++ r.rest)) := hbytes ▸ At.start _
  have hhead := c0
  simp only [block_head, List.append_assoc] at c0
  have c42 := c0.advance.advance.advance.advance
  have c43 := c42.advance
  simp only [length_toBe, trace_id.len, correlation_id.len, List.length_singleton, Nat.zero_add,
    Nat.reduceAdd] at c42 c43
  -- One byte of a string length is its value.
  have hbyte : ∀ {o : Nat} {b : UInt8} {rest : Bytes}, At msg_block o ([b] ++ rest) →
      field 1 msg_block o = b.toNat := by
    intro o b rest hat
    rw [field_at hat (List.length_singleton (a := b))]
    simp [ofBe]
  have hoff : count_offset msg_block = 44 + ((utf8 source).length + (utf8 target).length) := by
    rw [count_offset, hbyte c42, hbyte c43, lenU8_toNat hs, lenU8_toNat ht]
  have hhl := length_block_head trace_id span_id correlation_id code source target
  have cc := hhead.advance
  have hadd : 0 + (block_head trace_id span_id correlation_id code source target).length =
      count_offset msg_block := by omega
  rw [hadd] at cc
  refine ⟨field_toBe cc hcount, ?_⟩
  · obtain ⟨pre, hpre, hl⟩ := cc
    rw [block_rest, ← hl, ← List.drop_drop, hpre, List.drop_left,
      List.drop_left' (length_toBe _ _)]

theorem strict_of_inGrammar {msg_block : Bytes} (h : InGrammar msg_block) : Strict msg_block := by
  obtain ⟨t, rfl⟩ := h
  have hbytes : t.bytes = block_head t.trace_id t.span_id t.correlation_id t.code t.source t.target ++
      (toBe 2 t.raw.count ++ t.raw.rest) := rfl
  obtain ⟨hcount, hrest⟩ := block_count_rest t.source_fits t.target_fits
    (Nat.lt_succ_of_le t.count_fits) hbytes
  have hread := t.read_raw
  rw [← hcount, ← hrest] at hread
  have hentries : block_entries t.bytes = t.entries.map entry_utf8 := congrArg Prod.fst hread
  have hleft : block_left t.bytes = lenU16 t.body.length ++ t.body := congrArg Prod.snd hread
  refine ⟨?_, ?_, ?_⟩
  · rw [hentries, List.length_map, hcount]
    rfl
  · intro e he
    rw [hentries] at he
    obtain ⟨e', -, rfl⟩ := List.mem_map.mp he
    simp [entry_utf8]
  · rw [hleft, field_lenU16, Nat.mod_eq_of_lt (Nat.lt_succ_of_le t.body_fits), List.length_append,
      length_lenU16]

/-! ## What the parser accepts -/

/-- A sentence of the grammar that the parser reads: `missing` of the announced entries are not there, and
what is there of the first of them is `cut`. -/
structure Loose where
  trace_id : Uuid
  span_id : UInt64
  correlation_id : Uuid
  code : UInt16
  source : String
  target : String
  entries : List (Bytes × Bytes)
  missing : Nat
  cut : Bytes
  body : Bytes
  trailing : Bytes
  source_fits : (utf8 source).length ≤ 255
  target_fits : (utf8 target).length ≤ 255
  count_fits : entries.length + missing ≤ 65535
  entries_fit : ∀ e ∈ entries, RawFits e
  cut_short : Cut missing cut (lenU16 body.length ++ (body ++ trailing))
  body_fits : body.length ≤ 65535

namespace Loose

/-- trace_id, span_id, correlation_id, type, source_len, target_len, source, target, header_count, the
complete entries, the beginning of another one, body_len, body, and anything. -/
def bytes (t : Loose) : Bytes :=
  block_head t.trace_id t.span_id t.correlation_id t.code t.source t.target ++
    (toBe 2 (t.entries.length + t.missing) ++ (t.entries.flatMap entry_bytes ++
      (t.cut ++ (lenU16 t.body.length ++ (t.body ++ t.trailing)))))

/-- An entry is missing, or a key or a value is not UTF-8, or bytes follow the body. -/
def Defect (t : Loose) : Prop :=
  0 < t.missing ∨ (∃ e ∈ t.entries, from_utf8 e.1 = none ∨ from_utf8 e.2 = none) ∨ t.trailing ≠ []

def raw (t : Loose) : RawBlock where
  code := t.code
  count := t.entries.length + t.missing
  rest := t.entries.flatMap entry_bytes ++ (t.cut ++ (lenU16 t.body.length ++ (t.body ++ t.trailing)))
  body := t.body
  trailing := t.trailing

/-- The header loop reads the complete entries and leaves before the body length. -/
theorem read_raw (t : Loose) : read_entries t.raw.count t.raw.rest =
    (t.entries, lenU16 t.body.length ++ (t.body ++ t.trailing)) := by
  have h := read_entries_append_more t.entries t.missing
    (t.cut ++ (lenU16 t.body.length ++ (t.body ++ t.trailing))) t.entries_fit
  rwa [t.cut_short.read_entries, List.append_nil] at h

/-- **Of the loose sentences** those without a defect are strict. -/
theorem strict_iff (t : Loose) : Strict t.bytes ↔ ¬ t.Defect := by
  have hbytes : t.bytes = block_head t.trace_id t.span_id t.correlation_id t.code t.source t.target ++
      (toBe 2 t.raw.count ++ t.raw.rest) := rfl
  obtain ⟨hcount, hrest⟩ := block_count_rest t.source_fits t.target_fits
    (Nat.lt_succ_of_le t.count_fits) hbytes
  have hread := t.read_raw
  rw [← hcount, ← hrest] at hread
  have hentries : block_entries t.bytes = t.entries := congrArg Prod.fst hread
  have hleft : block_left t.bytes = lenU16 t.body.length ++ (t.body ++ t.trailing) :=
    congrArg Prod.snd hread
  have hfield : field 2 (block_left t.bytes) 0 = t.body.length := by
    rw [hleft, field_lenU16, Nat.mod_eq_of_lt (Nat.lt_succ_of_le t.body_fits)]
  have hlen : (block_left t.bytes).length = 2 + (t.body.length + t.trailing.length) := by
    rw [hleft, List.length_append, length_lenU16, List.length_append]
  have hannounced : block_count t.bytes = t.entries.length + t.missing := hcount
  constructor
  · rintro h (hmissing | ⟨e, he, hnone⟩ | htrailing)
    · have := h.complete
      rw [hentries, hannounced] at this
      omega
    · obtain ⟨hk, hv⟩ := h.utf8 e (hentries ▸ he)
      rcases hnone with hnone | hnone
      · rw [hnone] at hk
        cases hk
      · rw [hnone] at hv
        cases hv
    · have := h.ends
      rw [hfield, hlen] at this
      exact htrailing (List.eq_nil_of_length_eq_zero (by omega))
  · intro h
    have hmissing : t.missing = 0 := Nat.eq_zero_of_not_pos fun hpos => h (.inl hpos)
    have htrailing : t.trailing = [] := Classical.byContradiction fun hne => h (.inr (.inr hne))
    refine ⟨?_, fun e he => ?_, ?_⟩
    · rw [hentries, hannounced, hmissing, Nat.add_zero]
    · rw [hentries] at he
      have hnone : ¬ (from_utf8 e.1 = none ∨ from_utf8 e.2 = none) := fun hn =>
        h (.inr (.inl ⟨e, he, hn⟩))
      rw [not_or] at hnone
      exact ⟨Option.isSome_iff_ne_none.mpr hnone.1, Option.isSome_iff_ne_none.mpr hnone.2⟩
    · rw [hfield, hlen, htrailing, List.length_nil, Nat.add_zero]

end Loose

/-- **Every loose sentence is accepted**, if its body decodes. -/
theorem decode_loose (t : Loose) {encoding : Encoding} {body : V}
    (hbody : decode_body K t.body encoding = .ok body) :
    ∃ block, decode_block K t.bytes encoding = .ok block := by
  have hleft : t.raw.left = lenU16 t.raw.body.length ++ (t.raw.body ++ t.raw.trailing) :=
    congrArg Prod.snd t.read_raw
  have h := decode_block_eq (K := K) t.trace_id t.span_id t.correlation_id t.raw t.source_fits
    t.target_fits (Nat.lt_succ_of_le t.count_fits) hleft t.body_fits encoding
  have hb : decode_body K t.raw.body encoding = .ok body := hbody
  rw [hb] at h
  exact ⟨_, h⟩

/-- **Only loose sentences are accepted.** -/
theorem loose_of_decode {msg_block : Bytes} {encoding : Encoding} {block : Block V}
    (hdec : decode_block K msg_block encoding = .ok block) :
    ∃ t : Loose, msg_block = t.bytes ∧ decode_body K t.body encoding = .ok block.body := by
  obtain ⟨r, hr⟩ := decode_block_ok hdec
  obtain ⟨missing, cut, hcount, hrest, hcut⟩ := read_entries_split r.count r.rest
  rw [← RawBlock.entries] at hcount hrest
  rw [← RawBlock.left, hr.left] at hrest hcut
  have hne : lenU16 r.body.length ++ (r.body ++ r.trailing) ≠ [] := by
    intro hnil
    have := congrArg List.length hnil
    rw [List.length_append, length_lenU16, List.length_nil] at this
    omega
  have hlt := hr.count
  let t : Loose := {
    trace_id := block.trace_id
    span_id := block.span_id
    correlation_id := block.correlation_id
    code := r.code
    source := block.source
    target := block.target
    entries := r.entries
    missing
    cut
    body := r.body
    trailing := r.trailing
    source_fits := hr.source
    target_fits := hr.target
    count_fits := by omega
    entries_fit := read_entries_fit r.count r.rest
    cut_short := hcut hne
    body_fits := hr.body_len }
  exact ⟨t, by rw [hr.bytes, Loose.bytes, ← hcount, ← hrest], hr.body⟩

/-- A loose sentence without a defect is a sentence of the grammar. -/
theorem Loose.readable {t : Loose} (h : ¬ t.Defect) {encoding : Encoding} {body : V}
    (hbody : decode_body K t.body encoding = .ok body) : Readable K encoding t.bytes := by
  have hmissing : t.missing = 0 := Nat.eq_zero_of_not_pos fun hpos => h (.inl hpos)
  have htrailing : t.trailing = [] := Classical.byContradiction fun hne => h (.inr (.inr hne))
  have hcut : t.cut = [] := by
    have hshort := t.cut_short
    rw [hmissing] at hshort
    generalize t.cut = cut at hshort
    cases hshort
    rfl
  -- Each raw entry is the UTF-8 of its text.
  have htext : ∀ e ∈ t.entries, entry_utf8 (entry_text e) = e := by
    intro e he
    have hnone : ¬ (from_utf8 e.1 = none ∨ from_utf8 e.2 = none) := fun hn =>
      h (.inr (.inl ⟨e, he, hn⟩))
    rw [not_or] at hnone
    obtain ⟨k, hk⟩ := Option.ne_none_iff_exists'.mp hnone.1
    obtain ⟨v, hv⟩ := Option.ne_none_iff_exists'.mp hnone.2
    simp [entry_text, entry_utf8, hk, hv, utf8_of_from_utf8 hk, utf8_of_from_utf8 hv]
  have hmap : (t.entries.map entry_text).map entry_utf8 = t.entries := by
    rw [List.map_map]
    exact (List.map_congr_left htext).trans (List.map_id _)
  have hcount := t.count_fits
  rw [hmissing] at hcount
  let u : BlockText := {
    trace_id := t.trace_id
    span_id := t.span_id
    correlation_id := t.correlation_id
    code := t.code
    source := t.source
    target := t.target
    entries := t.entries.map entry_text
    body := t.body
    source_fits := t.source_fits
    target_fits := t.target_fits
    count_fits := by rwa [List.length_map]
    entries_fit := by
      intro e he
      obtain ⟨e', he', rfl⟩ := List.mem_map.mp he
      exact entryFits_of_raw (t.entries_fit e' he')
    body_fits := t.body_fits }
  refine ⟨u, ?_, body, hbody⟩
  rw [Loose.bytes, BlockText.bytes, encode_headers_eq, hmissing, hcut, htrailing, hmap, List.append_nil,
    List.nil_append, Nat.add_zero, List.length_map]

variable (K) in
/-- A block with a defect that the parser passes over: a loose sentence with a defect, and a body of the
codec. -/
def PassedOver (encoding : Encoding) (msg_block : Bytes) : Prop :=
  ∃ t : Loose, msg_block = t.bytes ∧ t.Defect ∧ ∃ body, decode_body K t.body encoding = .ok body

/-- **The decoder and the grammar agree** on every block but those of `PassedOver`: a buffer that
passes the checks before its block is accepted if and only if the block is a sentence with a body of
the codec. -/
theorem accepts_grammar_iff {buf : Bytes} {header : WireHeader} {topic : String} {msg_block : Bytes}
    (hunpacks : Unpacks K buf header topic msg_block) :
    ((∃ msg, decode_message K buf = .ok msg) ↔ Readable K header.flags.encoding msg_block) ↔
      ¬ PassedOver K header.flags.encoding msg_block := by
  rw [hunpacks.accepted_iff]
  constructor
  · rintro h ⟨t, rfl, hdefect, body, hbody⟩
    obtain ⟨u, hu, -⟩ := h.mp (decode_loose t hbody)
    exact t.strict_iff.mp (strict_of_inGrammar ⟨u, hu⟩) hdefect
  · intro h
    constructor
    · rintro ⟨block, hdec⟩
      obtain ⟨t, rfl, hbody⟩ := loose_of_decode hdec
      exact Loose.readable (fun hdefect => h ⟨t, rfl, hdefect, _, hbody⟩) hbody
    · rintro ⟨t, rfl, body, hbody⟩
      exact ⟨_, decode_block_text t hbody⟩

/-- A block that announces one header entry: a key of 255 bytes, of which none follow. -/
def cut_entry : Bytes :=
  block_head Uuid.nil 0 Uuid.nil 0 "" "" ++
    (toBe 2 1 ++ ([255] ++ (lenU16 4 ++ (utf8 "true" ++ []))))

/-- The instance of a frame with this block. -/
theorem accepts_grammar_cut_entry :
    ((∃ msg, decode_message (bool_crates 0) (plain_frame cut_entry) = .ok msg) ↔
      Readable (bool_crates 0) .Json cut_entry) ↔ ¬ PassedOver (bool_crates 0) .Json cut_entry :=
  accepts_grammar_iff (plain_unpacks cut_entry)

/-- The frame is accepted: the loop leaves behind the key length, and the bytes after it are read as
the body length and the body. -/
theorem cut_entry_accepted :
    ¬ ∀ (V : Type) (K : Crates V) (buf : Bytes) (header : WireHeader) (topic : String)
      (msg_block : Bytes), Unpacks K buf header topic msg_block →
      (∃ msg, decode_message K buf = .ok msg) → InGrammar msg_block := by
  intro h
  have hunpacks := plain_unpacks (K := bool_crates 0) cut_entry
  have hempty : (utf8 "").length ≤ 255 := by decide
  have hdec := decode_block_eq (K := bool_crates 0) Uuid.nil 0 Uuid.nil
    ⟨0, 1, [255] ++ (lenU16 4 ++ (utf8 "true" ++ [])), utf8 "true", []⟩ hempty hempty
    (by decide) (by decide) (by decide) .Json
  have hbody : decode_body (bool_crates 0) (utf8 "true") .Json = .ok true := by decide
  rw [hbody, ok_bind] at hdec
  have hstrict := strict_of_inGrammar
    (h _ _ _ _ _ _ hunpacks (hunpacks.accepted_iff.mpr ⟨_, hdec⟩))
  exact absurd hstrict.complete (by decide)

end Aqap.Wire
