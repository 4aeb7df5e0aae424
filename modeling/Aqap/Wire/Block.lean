import Aqap.Wire.Message

/-!
# The message block

A block starts with `block_head`: the ids, the type code, the two string lengths and the strings.
Then come a 16-bit header count, the header entries, a 16-bit body length and the body.

* `read_entries` is the header loop of `decode_message` without offsets: the entries that it reads, and
  the bytes that it has before it when it leaves. It leaves early, in the middle of an entry, if an
  entry is cut short. `decode_headers_eq` is the simulation.
* `read_entries_append`, `read_entries_split`: what is written as entries reads back, and what the
  loop has read stands there, followed by the entry that was cut short (`Cut`).
* `decode_block_eq`, `decode_block_ok`: what a block decodes to, and what an accepted block is.
-/

namespace Aqap.Wire

open Rust Rust.Res

variable {V : Type} {K : Crates V}

/-- An entry fits its length fields. -/
def EntryFits (k v : String) : Prop := (utf8 k).length ≤ 255 ∧ (utf8 v).length ≤ 65535

/-! ## Lengths -/

/-- A length that fits `u8` reads back. -/
theorem lenU8_toNat {bs : Bytes} (h : bs.length ≤ 255) : (lenU8 bs).toNat = bs.length := by
  simp [lenU8]; omega

/-- A byte is the length of as many bytes. -/
theorem lenU8_eq {bs : Bytes} {b : UInt8} (h : bs.length = b.toNat) : lenU8 bs = b := by
  rw [lenU8, h, UInt8.ofNat_toNat]

theorem toNat_ofNat_u16 (n : Nat) : (UInt16.ofNat n).toNat = n % 65536 := UInt16.toNat_ofNat'

@[simp] theorem length_lenU16 (n : Nat) : (lenU16 n).length = 2 := length_toBe _ _

theorem lenU16_mod (n : Nat) : lenU16 (n % 65536) = lenU16 n := by
  rw [lenU16, lenU16, toNat_ofNat_u16, toNat_ofNat_u16, Nat.mod_mod]

/-- Reading a 16-bit length gives the length that was cast. -/
theorem beAt_lenU16 {n o : Nat} {buf rest : Bytes} (h : At buf o (lenU16 n ++ rest)) :
    beAt 2 buf o = .ok (n % 65536) := by
  rw [beAt_ok h (UInt16.toNat_lt _), toNat_ofNat_u16]

/-- Two bytes are the length that they hold. -/
theorem lenU16_field {buf : Bytes} {o : Nat} (h : o + 2 ≤ buf.length) :
    lenU16 (field 2 buf o) = (buf.drop o).take 2 := by
  have hl : ((buf.drop o).take 2).length = 2 := by
    rw [List.length_take, List.length_drop]
    omega
  have hlt : field 2 buf o < 65536 := field_lt 2 buf o
  have hbe := toBe_ofBe ((buf.drop o).take 2)
  rw [hl] at hbe
  rw [lenU16, toNat_ofNat_u16, Nat.mod_eq_of_lt hlt, field, hbe]

theorem field_lenU16 (n : Nat) (rest : Bytes) : field 2 (lenU16 n ++ rest) 0 = n % 65536 := by
  rw [field_at (At.start _) (length_lenU16 n), lenU16, ofBe_toBe_of_lt (UInt16.toNat_lt _),
    toNat_ofNat_u16]

/-! ## The header loop -/

/-- One header entry: key length, key, value length, value. -/
def entry_bytes (e : Bytes × Bytes) : Bytes := [lenU8 e.1] ++ e.1 ++ lenU16 e.2.length ++ e.2

/-- An entry whose lengths read back. -/
def RawFits (e : Bytes × Bytes) : Prop := e.1.length ≤ 255 ∧ e.2.length ≤ 65535

/-- What the header loop reads in `n` rounds, and what is before it when it leaves. -/
def read_entries : Nat → Bytes → List (Bytes × Bytes) × Bytes
  | 0, rest => ([], rest)
  | _ + 1, [] => ([], [])
  | n + 1, key_len :: rest =>
    if rest.length < key_len.toNat + 2 then ([], rest) else
    let val_len := field 2 rest key_len.toNat
    if rest.length < key_len.toNat + 2 + val_len then ([], rest.drop (key_len.toNat + 2)) else
    let r := read_entries n (rest.drop (key_len.toNat + 2 + val_len))
    ((rest.take key_len.toNat, (rest.drop (key_len.toNat + 2)).take val_len) :: r.1, r.2)

/-- `String::from_utf8(..).unwrap_or_default()` of a key and its value. -/
def entry_text (e : Bytes × Bytes) : String × String :=
  ((from_utf8 e.1).getD "", (from_utf8 e.2).getD "")

/-- A text is not longer than the bytes that it was read from. -/
theorem entryFits_of_raw {e : Bytes × Bytes} (h : RawFits e) :
    EntryFits (entry_text e).1 (entry_text e).2 :=
  ⟨Nat.le_trans (length_utf8_getD e.1) h.1, Nat.le_trans (length_utf8_getD e.2) h.2⟩

theorem length_read_entries (n : Nat) (rest : Bytes) : (read_entries n rest).1.length ≤ n := by
  fun_induction read_entries n rest with
  | case5 n key_len rest _ val_len _ r ih => exact Nat.succ_le_succ ih
  | _ => exact Nat.zero_le _

theorem read_entries_fit (n : Nat) (rest : Bytes) : ∀ e ∈ (read_entries n rest).1, RawFits e := by
  fun_induction read_entries n rest with
  | case5 n key_len rest h val_len h' r ih =>
    intro e he
    rcases List.mem_cons.mp he with rfl | he
    · have := key_len.toNat_lt
      have hv : val_len < 65536 := field_lt 2 _ _
      refine ⟨?_, ?_⟩
      · rw [List.length_take]; omega
      · rw [List.length_take]; omega
    · exact ih e he
  | _ => exact fun e he => absurd he List.not_mem_nil

/-- What is written as entries reads back, and the loop goes on behind them. -/
theorem read_entries_append_more (entries : List (Bytes × Bytes)) (n : Nat) (tail : Bytes)
    (hfit : ∀ e ∈ entries, RawFits e) :
    read_entries (entries.length + n) (entries.flatMap entry_bytes ++ tail) =
      (entries ++ (read_entries n tail).1, (read_entries n tail).2) := by
  induction entries with
  | nil => rw [List.length_nil, Nat.zero_add]; rfl
  | cons e entries ih =>
    obtain ⟨hk, hv⟩ := hfit e List.mem_cons_self
    generalize hrest : entries.flatMap entry_bytes ++ tail = rest at ih
    have hcons : (e :: entries).flatMap entry_bytes ++ tail =
        lenU8 e.1 :: (e.1 ++ (lenU16 e.2.length ++ (e.2 ++ rest))) := by
      rw [List.flatMap_cons, ← hrest, entry_bytes]
      simp
    have hval : field 2 (e.1 ++ (lenU16 e.2.length ++ (e.2 ++ rest))) e.1.length = e.2.length := by
      rw [field, List.drop_left, List.take_left' (length_lenU16 _), lenU16,
        ofBe_toBe_of_lt (UInt16.toNat_lt _), toNat_ofNat_u16]
      exact Nat.mod_eq_of_lt (Nat.lt_succ_of_le hv)
    have hdrop : (e.1 ++ (lenU16 e.2.length ++ (e.2 ++ rest))).drop (e.1.length + 2) =
        e.2 ++ rest := by
      rw [← List.append_assoc, List.drop_left' (by simp)]
    have hlen : (e :: entries).length + n = entries.length + n + 1 := by
      rw [List.length_cons]
      omega
    rw [hcons, hlen, read_entries, lenU8_toNat hk]
    simp only [hval, hdrop]
    rw [if_neg (by simp; omega), if_neg (by simp; omega), ← List.drop_drop, hdrop, List.drop_left,
      List.take_left, List.take_left, ih fun e' he' => hfit e' (List.mem_cons_of_mem _ he'),
      List.cons_append]

/-- What is written as entries reads back, whatever follows. -/
theorem read_entries_append (entries : List (Bytes × Bytes)) (tail : Bytes)
    (hfit : ∀ e ∈ entries, RawFits e) :
    read_entries entries.length (entries.flatMap entry_bytes ++ tail) = (entries, tail) := by
  have h := read_entries_append_more entries 0 tail hfit
  rwa [Nat.add_zero, read_entries, List.append_nil] at h

/-- With `missing` entries to go, the loop stands before the bytes of `cut` and leaves before those of
`left`. -/
inductive Cut : Nat → Bytes → Bytes → Prop
  /-- All entries were read. -/
  | complete {left : Bytes} : Cut 0 [] left
  /-- There is a key length, but no room for the key and a value length. -/
  | key {missing : Nat} {key_len : UInt8} {left : Bytes} : left.length < key_len.toNat + 2 →
      Cut (missing + 1) [key_len] left
  /-- There is a key and a value length, but no room for the value. -/
  | value {missing val_len : Nat} {key left : Bytes} : key.length ≤ 255 → val_len ≤ 65535 →
      left.length < val_len → Cut (missing + 1) (lenU8 key :: (key ++ lenU16 val_len)) left

/-- The loop passes over the bytes of a cut. -/
theorem Cut.read_entries {missing : Nat} {cut left : Bytes} (h : Cut missing cut left) :
    read_entries missing (cut ++ left) = ([], left) := by
  cases h with
  | complete => rfl
  | key hlen => rw [List.singleton_append, Wire.read_entries, if_pos hlen]
  | @value missing val_len key left hkey hval hlen =>
    have hcons : lenU8 key :: (key ++ lenU16 val_len) ++ left =
        lenU8 key :: (key ++ (lenU16 val_len ++ left)) := by
      rw [List.cons_append, List.append_assoc]
    have hfield : field 2 (key ++ (lenU16 val_len ++ left)) key.length = val_len := by
      rw [field, List.drop_left, List.take_left' (length_lenU16 _), lenU16,
        ofBe_toBe_of_lt (UInt16.toNat_lt _), toNat_ofNat_u16]
      exact Nat.mod_eq_of_lt (Nat.lt_succ_of_le hval)
    have hdrop : (key ++ (lenU16 val_len ++ left)).drop (key.length + 2) = left := by
      rw [← List.append_assoc, List.drop_left' (by simp)]
    rw [hcons, Wire.read_entries, lenU8_toNat hkey]
    simp only [hfield, hdrop]
    rw [if_neg (by simp; omega), if_pos (by simp; omega)]

/-- **What the loop has read**: the entries stand there one after the other, then the bytes of a cut, and
then what is before the loop when it leaves, if anything is. -/
theorem read_entries_split (n : Nat) (rest : Bytes) :
    ∃ missing cut, n = (read_entries n rest).1.length + missing ∧
      rest = (read_entries n rest).1.flatMap entry_bytes ++ (cut ++ (read_entries n rest).2) ∧
      ((read_entries n rest).2 ≠ [] → Cut missing cut (read_entries n rest).2) := by
  fun_induction read_entries n rest with
  | case1 rest => exact ⟨0, [], rfl, rfl, fun _ => .complete⟩
  | case2 n => exact ⟨n + 1, [], (Nat.zero_add _).symm, rfl, fun h => absurd rfl h⟩
  | case3 n key_len rest hk =>
    exact ⟨n + 1, [key_len], (Nat.zero_add _).symm, rfl, fun _ => .key hk⟩
  | case4 n key_len rest hk val_len hv =>
    have hkl : (rest.take key_len.toNat).length = key_len.toNat := by
      rw [List.length_take]; omega
    have hkey := key_len.toNat_lt
    have hval : val_len < 65536 := field_lt 2 rest key_len.toNat
    refine ⟨n + 1, lenU8 (rest.take key_len.toNat) :: (rest.take key_len.toNat ++ lenU16 val_len),
      (Nat.zero_add _).symm, ?_, fun _ => .value (by omega) (by omega) ?_⟩
    · rw [lenU8_eq hkl, lenU16_field (by omega), List.flatMap_nil, List.nil_append, List.cons_append,
        List.append_assoc, ← List.drop_drop, List.take_append_drop, List.take_append_drop]
    · rw [List.length_drop]; omega
  | case5 n key_len rest hk val_len hv r ih =>
    obtain ⟨missing, cut, hn, hrest, hcut⟩ := ih
    have hkl : (rest.take key_len.toNat).length = key_len.toNat := by
      rw [List.length_take]; omega
    have hvl : ((rest.drop (key_len.toNat + 2)).take val_len).length = val_len := by
      rw [List.length_take, List.length_drop]; omega
    have hsplit : rest = rest.take key_len.toNat ++ ((rest.drop key_len.toNat).take 2 ++
        ((rest.drop (key_len.toNat + 2)).take val_len ++
          rest.drop (key_len.toNat + 2 + val_len))) := by
      rw [← List.drop_drop (i := val_len), List.take_append_drop, ← List.drop_drop,
        List.take_append_drop, List.take_append_drop]
    refine ⟨missing, cut, ?_, ?_, hcut⟩
    · show n + 1 = r.1.length + 1 + missing
      rw [Nat.add_right_comm, ← hn]
    · rw [List.flatMap_cons, entry_bytes, lenU8_eq hkl, hvl, lenU16_field (by omega)]
      conv => lhs; rw [hsplit, hrest]
      simp [r]

/-- A round of the loop that has room for the key and the value length. -/
theorem decode_headers_key {msg_block rest : Bytes} {o : Nat} {key_len : UInt8} (n : Nat)
    (headers : Headers) (hat : At msg_block o (key_len :: rest))
    (hk : ¬ rest.length < key_len.toNat + 2) :
    decode_headers msg_block (n + 1) o headers =
      if rest.length < key_len.toNat + 2 + field 2 rest key_len.toNat then
        .ok (o + 1 + key_len.toNat + 2, headers)
      else
        decode_headers msg_block n (o + 1 + key_len.toNat + 2 + field 2 rest key_len.toNat)
          (headers.insert ((from_utf8 (rest.take key_len.toNat)).getD "")
            ((from_utf8 ((rest.drop (key_len.toNat + 2)).take (field 2 rest key_len.toNat))).getD
              "")) := by
  have hl := hat.length
  rw [List.length_cons] at hl
  obtain ⟨pre, rfl, rfl⟩ := hat
  have hdrop : ∀ i, (pre ++ key_len :: rest).drop (pre.length + 1 + i) = rest.drop i := by
    intro i
    rw [← List.drop_drop, ← List.drop_drop, List.drop_left]
    rfl
  have hval : beAt 2 (pre ++ key_len :: rest) (pre.length + 1 + key_len.toNat) =
      .ok (field 2 rest key_len.toNat) := by
    rw [beAt_eq (by omega), field, hdrop, field]
  rw [decode_headers, if_neg (by omega), (At.intro pre (key_len :: rest)).index, ok_bind]
  simp only []
  rw [if_neg (by omega), slice_ok (by omega) (by omega), ok_bind, hval, ok_bind]
  have hkey : (pre ++ key_len :: rest).drop (pre.length + 1) = rest := hdrop 0
  split
  · rw [if_pos (by omega)]
  · rw [if_neg (by omega), slice_ok (by omega) (by omega), ok_bind, hkey, Nat.add_sub_cancel_left,
      Nat.add_sub_cancel_left, Nat.add_assoc (pre.length + 1), hdrop]

/-- **The header loop** reads the entries of `read_entries`, into the map, and leaves where it does. -/
theorem decode_headers_eq {msg_block rest : Bytes} {o : Nat} (n : Nat) (headers : Headers)
    (hat : At msg_block o rest) :
    ∃ o', decode_headers msg_block n o headers =
        .ok (o', headers.insertMany ((read_entries n rest).1.map entry_text)) ∧
      At msg_block o' (read_entries n rest).2 := by
  fun_induction read_entries n rest generalizing o headers with
  | case1 rest => exact ⟨o, by simp [decode_headers], hat⟩
  | case2 n =>
    have hl := hat.length
    rw [List.length_nil] at hl
    exact ⟨o, by rw [decode_headers, if_pos (by omega)]; simp, hat⟩
  | case3 n key_len rest hk =>
    have hl := hat.length
    rw [List.length_cons] at hl
    have c1 : At msg_block (o + 1) rest := At.advance (x := [key_len]) hat
    refine ⟨o + 1, ?_, c1⟩
    rw [decode_headers, if_neg (by omega), hat.index, ok_bind]
    simp only []
    rw [if_pos (by omega)]
    simp
  | case4 n key_len rest hk val_len =>
    rename_i hv
    refine ⟨o + 1 + key_len.toNat + 2, ?_, ?_⟩
    · rw [decode_headers_key n headers hat hk, if_pos hv]
      simp
    · have h := hat.drop (key_len.toNat + 2 + 1) (by rw [List.length_cons]; omega)
      rw [List.drop_succ_cons] at h
      have ho : o + (key_len.toNat + 2 + 1) = o + 1 + key_len.toNat + 2 := by omega
      exact ho ▸ h
  | case5 n key_len rest hk val_len =>
    rename_i hv r ih
    have h := hat.drop (key_len.toNat + 2 + val_len + 1) (by rw [List.length_cons]; omega)
    rw [List.drop_succ_cons] at h
    have ho : o + (key_len.toNat + 2 + val_len + 1) = o + 1 + key_len.toNat + 2 + val_len := by omega
    obtain ⟨o', hdec, hat'⟩ := ih _ (ho ▸ h)
    refine ⟨o', ?_, hat'⟩
    rw [decode_headers_key n headers hat hk, if_neg hv, hdec, List.map_cons,
      Std.ExtHashMap.insertMany_cons]
    rfl

/-! ## The block -/

/-- The block up to the header count. -/
def block_head (trace_id : Uuid) (span_id : UInt64) (correlation_id : Uuid) (code : UInt16)
    (source target : String) : Bytes :=
  trace_id.bytes ++ (toBe 8 span_id.toNat ++ (correlation_id.bytes ++ (toBe 2 code.toNat ++
    ([lenU8 (utf8 source)] ++ ([lenU8 (utf8 target)] ++ (utf8 source ++ utf8 target))))))

theorem length_block_head (trace_id : Uuid) (span_id : UInt64) (correlation_id : Uuid)
    (code : UInt16) (source target : String) :
    (block_head trace_id span_id correlation_id code source target).length =
      44 + (utf8 source).length + (utf8 target).length := by
  simp only [block_head, List.length_append, trace_id.len, correlation_id.len, length_toBe,
    List.length_singleton]
  omega

/-- The parts of a block that its `Block` does not keep. -/
structure RawBlock where
  code : UInt16
  count : Nat
  /-- what follows the header count -/
  rest : Bytes
  body : Bytes
  /-- what follows the body -/
  trailing : Bytes

namespace RawBlock

/-- The entries that the header loop reads. -/
def entries (r : RawBlock) : List (Bytes × Bytes) := (read_entries r.count r.rest).1

/-- Where the header loop leaves. -/
def left (r : RawBlock) : Bytes := (read_entries r.count r.rest).2

end RawBlock

variable (K) in
/-- `msg_block` is accepted: its head holds the fields of `block`, its header loop reads the entries
of `block` and leaves before a length and as many bytes, which decode to the body. -/
structure BlockAt (encoding : Encoding) (msg_block : Bytes) (block : Block V) (r : RawBlock) :
    Prop where
  bytes : msg_block = block_head block.trace_id block.span_id block.correlation_id r.code block.source
    block.target ++ (toBe 2 r.count ++ r.rest)
  source : (utf8 block.source).length ≤ 255
  target : (utf8 block.target).length ≤ 255
  count : r.count < 65536
  msg_type : block.msg_type = MessageType.from_u16 r.code
  headers : block.headers = (∅ : Headers).insertMany (r.entries.map entry_text)
  left : r.left = lenU16 r.body.length ++ (r.body ++ r.trailing)
  body_len : r.body.length ≤ 65535
  body : decode_body K r.body encoding = .ok block.body

/-- **What a block decodes to**, given what its header loop leaves. -/
theorem decode_block_eq (trace_id : Uuid) (span_id : UInt64) (correlation_id : Uuid)
    {source target : String} (r : RawBlock) (hs : (utf8 source).length ≤ 255)
    (ht : (utf8 target).length ≤ 255) (hcount : r.count < 65536)
    (hleft : r.left = lenU16 r.body.length ++ (r.body ++ r.trailing))
    (hbody : r.body.length ≤ 65535) (encoding : Encoding) :
    decode_block K (block_head trace_id span_id correlation_id r.code source target ++
      (toBe 2 r.count ++ r.rest)) encoding =
      (decode_body K r.body encoding >>= fun body => .ok {
        trace_id, span_id, correlation_id
        msg_type := MessageType.from_u16 r.code
        source, target
        headers := (∅ : Headers).insertMany (r.entries.map entry_text)
        body }) := by
  generalize hblk : block_head trace_id span_id correlation_id r.code source target ++
    (toBe 2 r.count ++ r.rest) = blk
  have c0 : At blk 0 (block_head trace_id span_id correlation_id r.code source target ++
      (toBe 2 r.count ++ r.rest)) := hblk ▸ At.start _
  simp only [block_head, List.append_assoc] at c0
  -- The cursor goes over the fields of the head.
  have c16 := c0.advance
  have c24 := c16.advance
  have c40 := c24.advance
  have c42 := c40.advance
  have c43 := c42.advance
  have c44 := c43.advance
  have ct := c44.advance
  have cc := ct.advance
  have cr := cc.advance
  simp only [length_toBe, trace_id.len, correlation_id.len, List.length_singleton, Nat.zero_add,
    Nat.reduceAdd] at c16 c24 c40 c42 c43 c44 ct cc cr
  have hl := cc.length
  rw [List.length_append, length_toBe] at hl
  obtain ⟨o', hloop, cl⟩ := decode_headers_eq r.count ∅ cr
  rw [← RawBlock.left, hleft] at cl
  have cb := cl.advance
  have hle := cl.length
  have hbe := cb.length
  simp only [List.length_append, length_lenU16] at cb hle hbe
  have hid : (slice blk 0 16 : Res KernelError Bytes) = .ok trace_id.bytes := by
    have h := c0.slice (ε := KernelError)
    rwa [trace_id.len] at h
  have hcid : (slice blk 24 40 : Res KernelError Bytes) = .ok correlation_id.bytes := by
    have h := c24.slice (ε := KernelError)
    rwa [correlation_id.len] at h
  have hbl : r.body.length % 65536 = r.body.length := Nat.mod_eq_of_lt (Nat.lt_succ_of_le hbody)
  unfold decode_block decode_block_tail
  rw [ensure_ok _ (by omega), ok_bind, hid, ok_bind, Uuid.from_slice_bytes, okOr_some, ok_bind,
    beAt_ok c16 (UInt64.toNat_lt _), ok_bind, hcid, ok_bind, Uuid.from_slice_bytes, okOr_some,
    ok_bind, beAt_ok c40 (UInt16.toNat_lt _), ok_bind, c42.index, ok_bind, c43.index, ok_bind,
    lenU8_toNat hs, lenU8_toNat ht]
  simp only []
  rw [ensure_ok _ (by omega), ok_bind, c44.slice, ok_bind, from_utf8_utf8, okOr_some, ok_bind,
    ct.slice, ok_bind, from_utf8_utf8, okOr_some, ok_bind, ensure_ok _ (by omega), ok_bind,
    beAt_ok cc hcount, ok_bind, hloop, ok_bind]
  simp only []
  rw [ensure_ok _ (by omega), ok_bind, beAt_lenU16 cl, ok_bind, hbl, ensure_ok _ (by omega), ok_bind,
    cb.slice, ok_bind, bind_assoc]
  congr 1
  funext body
  simp [RawBlock.entries]

/-- A slice is what a cursor at its start has before it. -/
theorem slice_append {buf x rest : Bytes} {a b : Nat} (hat : At buf a rest)
    (h : (slice buf a b : Res KernelError Bytes) = .ok x) : ∃ y, rest = x ++ y ∧ At buf b y := by
  obtain ⟨hab, hb, rfl⟩ := slice_eq_ok_iff.mp h
  obtain ⟨pre, rfl, rfl⟩ := hat
  rw [List.drop_left]
  refine ⟨rest.drop (b - pre.length), (List.take_append_drop _ _).symm, ?_⟩
  have hd := (At.intro pre rest).drop (b - pre.length) (by rw [List.length_append] at hb; omega)
  have hadd : pre.length + (b - pre.length) = b := by omega
  rwa [hadd] at hd

/-- A field that was read is what a cursor at its start has before it. -/
theorem beAt_append {w n : Nat} {buf rest : Bytes} {a : Nat} (hat : At buf a rest)
    (h : beAt w buf a = .ok n) : ∃ y, rest = toBe w n ++ y ∧ At buf (a + w) y := by
  obtain ⟨bs, hbs, hn⟩ := bind_ok_iff.mp h
  obtain ⟨y, rfl, hy⟩ := slice_append hat hbs
  have hl := slice_length hbs
  rw [Nat.add_sub_cancel_left] at hl
  rw [pure_eq, ok.injEq] at hn
  exact ⟨y, by rw [← hn, ← hl, toBe_ofBe], hy⟩

theorem index_append {buf rest : Bytes} {a : Nat} {b : UInt8} (hat : At buf a rest)
    (h : (index buf a : Res KernelError UInt8) = .ok b) : ∃ y, rest = b :: y ∧ At buf (a + 1) y := by
  obtain ⟨pre, rfl, rfl⟩ := hat
  rw [index_eq_ok_iff] at h
  cases rest with
  | nil => simp at h
  | cons c y =>
    have hc : c = b := by simpa using h
    subst hc
    exact ⟨y, rfl, At.advance (x := [c]) (At.intro pre _)⟩

/-- **What an accepted block is.** -/
theorem decode_block_ok {msg_block : Bytes} {encoding : Encoding} {block : Block V}
    (h : decode_block K msg_block encoding = .ok block) :
    ∃ r, BlockAt K encoding msg_block block r := by
  unfold decode_block at h
  obtain ⟨_, -, h⟩ := bind_ok_iff.mp h
  obtain ⟨id, hid, h⟩ := bind_ok_iff.mp h
  obtain ⟨trace_id, htrace, h⟩ := bind_ok_iff.mp h
  obtain ⟨span_id, hspan, h⟩ := bind_ok_iff.mp h
  obtain ⟨cid, hcid, h⟩ := bind_ok_iff.mp h
  obtain ⟨correlation_id, hcorrelation, h⟩ := bind_ok_iff.mp h
  obtain ⟨code, hcode, h⟩ := bind_ok_iff.mp h
  obtain ⟨source_len, hsl, h⟩ := bind_ok_iff.mp h
  obtain ⟨target_len, htl, h⟩ := bind_ok_iff.mp h
  obtain ⟨⟨source, target, headers, body⟩, htail, h⟩ := bind_ok_iff.mp h
  simp only [pure_eq, ok.injEq] at h
  unfold decode_block_tail at htail
  obtain ⟨_, -, h'⟩ := bind_ok_iff.mp htail
  obtain ⟨source_bytes, hs, h'⟩ := bind_ok_iff.mp h'
  obtain ⟨_, hsource, h'⟩ := bind_ok_iff.mp h'
  obtain ⟨target_bytes, ht, h'⟩ := bind_ok_iff.mp h'
  obtain ⟨_, htarget, h'⟩ := bind_ok_iff.mp h'
  obtain ⟨_, -, h'⟩ := bind_ok_iff.mp h'
  obtain ⟨count, hcount, h'⟩ := bind_ok_iff.mp h'
  obtain ⟨⟨o', headers'⟩, hloop, h'⟩ := bind_ok_iff.mp h'
  obtain ⟨_, -, h'⟩ := bind_ok_iff.mp h'
  obtain ⟨body_len, hbl, h'⟩ := bind_ok_iff.mp h'
  obtain ⟨_, -, h'⟩ := bind_ok_iff.mp h'
  obtain ⟨body_bytes, hbb, h'⟩ := bind_ok_iff.mp h'
  obtain ⟨_, hbody, h'⟩ := bind_ok_iff.mp h'
  simp only [pure_eq, ok.injEq, Prod.mk.injEq] at h'
  obtain ⟨rfl, rfl, rfl, rfl⟩ := h'
  subst h
  -- The same cursor as in `decode_block_eq`, now cutting the block.
  obtain ⟨y16, e0, c16⟩ := slice_append (At.start msg_block) hid
  obtain ⟨y24, e16, c24⟩ := beAt_append c16 hspan
  obtain ⟨y40, e24, c40⟩ := slice_append c24 hcid
  obtain ⟨y42, e40, c42⟩ := beAt_append c40 hcode
  obtain ⟨y43, e42, c43⟩ := index_append c42 hsl
  obtain ⟨y44, e43, c44⟩ := index_append c43 htl
  obtain ⟨yt, e44, ct⟩ := slice_append c44 hs
  obtain ⟨yc, et, cc⟩ := slice_append ct ht
  obtain ⟨rest, ec, cr⟩ := beAt_append cc hcount
  obtain ⟨o'', hloop', cl⟩ := decode_headers_eq count ∅ cr
  rw [hloop, ok.injEq, Prod.mk.injEq] at hloop'
  obtain ⟨rfl, rfl⟩ := hloop'
  obtain ⟨yb, el, cb⟩ := beAt_append cl hbl
  obtain ⟨trailing, eb, -⟩ := slice_append cb hbb
  have hspan : span_id < 18446744073709551616 := beAt_lt hspan
  have hcode : code < 65536 := beAt_lt hcode
  have hcount := beAt_lt hcount
  have hbl : body_len < 65536 := beAt_lt hbl
  have hsl := slice_length hs
  have htl := slice_length ht
  have hbbl := slice_length hbb
  have hsource := utf8_of_from_utf8 (okOr_eq_ok_iff.mp hsource)
  have htarget := utf8_of_from_utf8 (okOr_eq_ok_iff.mp htarget)
  have hid := Uuid.bytes_of_from_slice (okOr_eq_ok_iff.mp htrace)
  have hcid := Uuid.bytes_of_from_slice (okOr_eq_ok_iff.mp hcorrelation)
  have := source_len.toNat_lt
  have := target_len.toNat_lt
  rw [Nat.add_sub_cancel_left] at hsl htl hbbl
  refine ⟨⟨UInt16.ofNat code, count, rest, body_bytes, trailing⟩, ?_, ?_, ?_, hcount, rfl, rfl, ?_,
    ?_, hbody⟩
  · rw [e0, e16, e24, e40, e42, e43, e44, et, ec]
    simp [block_head, hid, hcid, hsource, htarget, lenU8_eq hsl, lenU8_eq htl,
      Nat.mod_eq_of_lt hspan, Nat.mod_eq_of_lt hcode]
  · rw [hsource, hsl]; omega
  · rw [htarget, htl]; omega
  · rw [RawBlock.left, el, eb, lenU16, toNat_ofNat_u16, hbbl, Nat.mod_eq_of_lt hbl]
  · rw [hbbl]; omega

/-- **Exactly the blocks that are accepted.** -/
theorem decode_block_eq_ok_iff {msg_block : Bytes} {encoding : Encoding} {block : Block V} :
    decode_block K msg_block encoding = .ok block ↔ ∃ r, BlockAt K encoding msg_block block r := by
  refine ⟨decode_block_ok, ?_⟩
  rintro ⟨r, h⟩
  rw [h.bytes, decode_block_eq _ _ _ r h.source h.target h.count h.left h.body_len, h.body, ok_bind,
    ← h.msg_type, ← h.headers]

end Aqap.Wire
