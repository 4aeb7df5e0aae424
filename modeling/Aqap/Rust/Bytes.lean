import Aqap.Rust.Res
import Mathlib.Data.List.Basic
import Mathlib.Data.Nat.Digits.Lemmas

/-!
# Byte buffers

`Bytes` is a Rust `&[u8]` or `Vec<u8>`.

* `index`, `slice`: `buf[i]` and `buf[a..b]`, which panic out of bounds.
* `toBe w n`: the `w` low bytes of `n`, most significant first (`to_be_bytes`); `ofBe` reads them
  back (`from_be_bytes`). `ofBe_toBe`: a value that fits reads back as itself; a wider one reads
  back modulo `256 ^ w`, as after an `as u8` or `as u16` cast.
* `At buf o rest`: a cursor at offset `o` has `rest` before it. `At.slice`, `At.index` and
  `At.advance` read a buffer that was written as an append of its fields, one field after the
  other.
* `utf8`, `from_utf8`: a Rust `String` is a Lean `String`; its bytes are its UTF-8 encoding.
-/

namespace Rust

/-- `Vec<u8>` or `&[u8]`. -/
abbrev Bytes := List UInt8

variable {ε : Type}

/-! ## Accesses -/

/-- `buf[i]`. -/
def index (buf : Bytes) (i : Nat) : Res ε UInt8 :=
  match buf[i]? with
  | some b => .ok b
  | none => .panic

/-- `&buf[a..b]`. -/
def slice (buf : Bytes) (a b : Nat) : Res ε Bytes :=
  if a ≤ b ∧ b ≤ buf.length then .ok ((buf.drop a).take (b - a)) else .panic

/-- `a - b` on `usize`. -/
def usizeSub (a b : Nat) : Res ε Nat := if b ≤ a then .ok (a - b) else .panic

theorem index_ok {buf : Bytes} {i : Nat} (h : i < buf.length) :
    (index buf i : Res ε UInt8) = .ok buf[i] := by
  simp [index, h]

theorem index_eq_ok_iff {buf : Bytes} {i : Nat} {b : UInt8} :
    (index buf i : Res ε UInt8) = .ok b ↔ buf[i]? = some b := by
  unfold index
  split <;> simp_all

theorem slice_ok {buf : Bytes} {a b : Nat} (h1 : a ≤ b) (h2 : b ≤ buf.length) :
    (slice buf a b : Res ε Bytes) = .ok ((buf.drop a).take (b - a)) :=
  if_pos ⟨h1, h2⟩

theorem usizeSub_ok {a b : Nat} (h : b ≤ a) : (usizeSub a b : Res ε Nat) = .ok (a - b) := if_pos h

theorem usizeSub_eq_ok_iff {a b c : Nat} : (usizeSub a b : Res ε Nat) = .ok c ↔ b ≤ a ∧ c = a - b := by
  unfold usizeSub
  split
  · rename_i h
    simp only [Res.ok.injEq, h, true_and]
    exact eq_comm
  · simp; omega

theorem slice_eq_ok_iff {buf bs : Bytes} {a b : Nat} :
    (slice buf a b : Res ε Bytes) = .ok bs ↔
      a ≤ b ∧ b ≤ buf.length ∧ bs = (buf.drop a).take (b - a) := by
  unfold slice
  split
  · rename_i h
    simp only [Res.ok.injEq, h.1, h.2, true_and]
    exact eq_comm
  · simp; omega

theorem slice_eq_panic_iff {buf : Bytes} {a b : Nat} :
    (slice buf a b : Res ε Bytes) = .panic ↔ b < a ∨ buf.length < b := by
  unfold slice
  split <;> simp <;> omega

/-- The slice has the length that its bounds say. -/
theorem slice_length {buf bs : Bytes} {a b : Nat} (h : (slice buf a b : Res ε Bytes) = .ok bs) :
    bs.length = b - a := by
  obtain ⟨h1, h2, rfl⟩ := slice_eq_ok_iff.mp h
  simp; omega

theorem safe_index {buf : Bytes} {i : Nat} (h : i < buf.length) :
    (index buf i : Res ε UInt8).Safe := by
  rw [index_ok h]; exact Res.safe_ok _

theorem safe_slice {buf : Bytes} {a b : Nat} (h1 : a ≤ b) (h2 : b ≤ buf.length) :
    (slice buf a b : Res ε Bytes).Safe := by
  rw [slice_ok h1 h2]; exact Res.safe_ok _

theorem safe_usizeSub {a b : Nat} (h : b ≤ a) : (usizeSub a b : Res ε Nat).Safe := by
  rw [usizeSub_ok h]; exact Res.safe_ok _

/-! ## A cursor in a buffer -/

/-- A cursor at offset `o` of `buf` has `rest` before it. -/
def At (buf : Bytes) (o : Nat) (rest : Bytes) : Prop := ∃ pre, buf = pre ++ rest ∧ pre.length = o

theorem At.start (buf : Bytes) : At buf 0 buf := ⟨[], rfl, rfl⟩

theorem At.intro (pre rest : Bytes) : At (pre ++ rest) pre.length rest := ⟨pre, rfl, rfl⟩

/-- The offset and the rest together make up the buffer. -/
theorem At.length {buf rest : Bytes} {o : Nat} (h : At buf o rest) :
    o + rest.length = buf.length := by
  obtain ⟨pre, rfl, rfl⟩ := h
  simp

/-- After the field `x` comes the rest. -/
theorem At.advance {buf x rest : Bytes} {o : Nat} (h : At buf o (x ++ rest)) :
    At buf (o + x.length) rest := by
  obtain ⟨pre, rfl, rfl⟩ := h
  exact ⟨pre ++ x, by simp, by simp⟩

/-- The cursor moves on by `n` bytes. -/
theorem At.drop {buf rest : Bytes} {o : Nat} (h : At buf o rest) (n : Nat) (hn : n ≤ rest.length) :
    At buf (o + n) (rest.drop n) := by
  have hl : (rest.take n).length = n := by rw [List.length_take, Nat.min_eq_left hn]
  rw [← List.take_append_drop n rest] at h
  have h' := h.advance
  rwa [hl] at h'

/-- The slice of the length of the next field is the field. -/
theorem At.slice {buf x rest : Bytes} {o : Nat} (h : At buf o (x ++ rest)) :
    (slice buf o (o + x.length) : Res ε Bytes) = .ok x := by
  have hl := h.length
  rw [List.length_append] at hl
  rw [slice_ok (by omega) (by omega)]
  obtain ⟨pre, rfl, rfl⟩ := h
  simp

theorem At.index {buf rest : Bytes} {o : Nat} {b : UInt8} (h : At buf o (b :: rest)) :
    (index buf o : Res ε UInt8) = .ok b := by
  obtain ⟨pre, rfl, rfl⟩ := h
  simp [Rust.index]

/-! ## Big-endian integers -/

/-- The `w` low bytes of `n`, most significant first (`to_be_bytes`). -/
def toBe : Nat → Nat → Bytes
  | 0, _ => []
  | w + 1, n => UInt8.ofNat (n / 256 ^ w) :: toBe w n

/-- The value of big-endian bytes (`from_be_bytes`). -/
def ofBe (bs : Bytes) : Nat := bs.foldl (fun n b => n * 256 + b.toNat) 0

@[simp] theorem length_toBe (w n : Nat) : (toBe w n).length = w := by
  induction w with
  | zero => rfl
  | succ w ih => simp [toBe, ih]

private theorem foldl_be (bs : Bytes) (n : Nat) :
    bs.foldl (fun n b => n * 256 + b.toNat) n = n * 256 ^ bs.length + ofBe bs := by
  induction bs generalizing n with
  | nil => simp [ofBe]
  | cons b bs ih =>
    rw [ofBe, List.foldl_cons, List.foldl_cons, ih, ih (0 * 256 + b.toNat), List.length_cons, pow_succ]
    ring

theorem ofBe_cons (b : UInt8) (bs : Bytes) : ofBe (b :: bs) = b.toNat * 256 ^ bs.length + ofBe bs := by
  rw [ofBe, List.foldl_cons, foldl_be]
  simp

theorem ofBe_lt (bs : Bytes) : ofBe bs < 256 ^ bs.length := by
  induction bs with
  | nil => simp [ofBe]
  | cons b bs ih =>
    rw [ofBe_cons, List.length_cons, pow_succ]
    have hb : b.toNat ≤ 255 := by have := b.toNat_lt; omega
    have := Nat.mul_le_mul_right (256 ^ bs.length) hb
    omega

/-- Reading back the `w` low bytes of `n` gives `n` modulo `256 ^ w`. -/
theorem ofBe_toBe (w n : Nat) : ofBe (toBe w n) = n % 256 ^ w := by
  induction w with
  | zero => simp [toBe, ofBe, Nat.mod_one]
  | succ w ih =>
    have hb : (UInt8.ofNat (n / 256 ^ w)).toNat = n / 256 ^ w % 256 := UInt8.toNat_ofNat'
    rw [toBe, ofBe_cons, length_toBe, ih, hb, Nat.pow_succ, Nat.mod_mul]
    ring

theorem ofBe_toBe_of_lt {w n : Nat} (h : n < 256 ^ w) : ofBe (toBe w n) = n := by
  rw [ofBe_toBe, Nat.mod_eq_of_lt h]

/-- Higher bytes are not written. -/
theorem toBe_add_mul (w m n : Nat) : toBe w (m * 256 ^ w + n) = toBe w n := by
  induction w generalizing m with
  | zero => rfl
  | succ w ih =>
    have hpos : 0 < 256 ^ w := Nat.pow_pos (by decide)
    have heq : m * 256 ^ (w + 1) + n = m * 256 * 256 ^ w + n := by
      rw [Nat.pow_succ, Nat.mul_comm (256 ^ w) 256, Nat.mul_assoc]
    have hdiv : (m * 256 * 256 ^ w + n) / 256 ^ w = m * 256 + n / 256 ^ w := by
      rw [Nat.add_comm, Nat.add_mul_div_right _ _ hpos, Nat.add_comm]
    have hbyte : UInt8.ofNat (m * 256 + n / 256 ^ w) = UInt8.ofNat (n / 256 ^ w) := by
      rw [← UInt8.toNat_inj, UInt8.toNat_ofNat', UInt8.toNat_ofNat', Nat.mul_add_mod_self_right]
    rw [heq, toBe, hdiv, hbyte, ih (m * 256), ← toBe]

/-- Bytes are the big-endian form of their value. -/
theorem toBe_ofBe (bs : Bytes) : toBe bs.length (ofBe bs) = bs := by
  induction bs with
  | nil => rfl
  | cons b bs ih =>
    have hpos : 0 < 256 ^ bs.length := Nat.pow_pos (by decide)
    have hlt := ofBe_lt bs
    have hdiv : (b.toNat * 256 ^ bs.length + ofBe bs) / 256 ^ bs.length = b.toNat := by
      rw [Nat.add_comm, Nat.add_mul_div_right _ _ hpos, Nat.div_eq_of_lt hlt, Nat.zero_add]
    rw [List.length_cons, toBe, ofBe_cons, hdiv, UInt8.ofNat_toNat, toBe_add_mul, ih]

/-! ## Strings -/

/-- `s.as_bytes()`. -/
def utf8 (s : String) : Bytes := s.toByteArray.data.toList

/-- `String::from_utf8(bytes).ok()`. -/
def from_utf8 (bs : Bytes) : Option String := String.fromUTF8? ⟨bs.toArray⟩

@[simp] theorem from_utf8_utf8 (s : String) : from_utf8 (utf8 s) = some s := by
  have h : (⟨(utf8 s).toArray⟩ : ByteArray) = s.toByteArray := by simp [utf8]
  rw [from_utf8, String.fromUTF8?, h, dif_pos s.isValidUTF8]
  rfl

/-- Only the bytes of a string decode to it. -/
theorem utf8_of_from_utf8 {bs : Bytes} {s : String} (h : from_utf8 bs = some s) : utf8 s = bs := by
  unfold from_utf8 String.fromUTF8? at h
  split at h
  · cases h; simp [utf8, String.fromUTF8]
  · cases h

/-- `from_utf8(bytes).unwrap_or_default()` has at most the bytes that were read. -/
theorem length_utf8_getD (bs : Bytes) : (utf8 ((from_utf8 bs).getD "")).length ≤ bs.length := by
  cases h : from_utf8 bs with
  | none => exact Nat.zero_le _
  | some s => rw [Option.getD_some, utf8_of_from_utf8 h]

@[simp] theorem utf8_inj {s t : String} : utf8 s = utf8 t ↔ s = t := by
  refine ⟨fun h => ?_, fun h => by rw [h]⟩
  have := congrArg from_utf8 h
  simpa using this

end Rust
