import Aqap.Rust.Bytes

/-!
# The keys of a security context (`aqap-kernel/src/crypto.rs`)

A context derives three keys from its master key when it is loaded, and derives the same ones when it is
loaded again. Every other call reads a key, and raises if there is none yet.

* `Ring` is what the kernel takes from the `ring` crate; `Ring.Lawful` is what it documents.
* `decrypt_eq_ok_iff`: `decrypt` accepts exactly what `encrypt` can make under its key, whatever the key.
* `answers`: what a context answers after any calls depends on its master key and on whether it was
  loaded.
* `interoperate`: two contexts with one master key decrypt and verify exactly what the other one encrypts
  and signs.
-/

namespace Aqap.Kernel

open Rust Rust.Res

/-! ## Other crates -/

/-- The functions of `ring` that the kernel calls. -/
structure Ring where
  /-- HKDF-SHA256, of a salt, a key, an info and a length -/
  hkdf : Bytes → Bytes → Bytes → Nat → Bytes
  /-- HMAC-SHA256, of a key and data -/
  hmac_sign : Bytes → Bytes → Bytes
  hmac_verify : Bytes → Bytes → Bytes → Bool
  /-- AES-256-GCM, of a key, a nonce, additional data and a plaintext: an error if the plaintext is too
  long -/
  seal_in_place_append_tag : Bytes → Bytes → Bytes → Bytes → Option Bytes
  /-- Of a key, a nonce, additional data and a ciphertext with its tag -/
  open_in_place : Bytes → Bytes → Bytes → Bytes → Option Bytes
  /-- The display of `ring::error::Unspecified` -/
  unspecified : String

/-- What `ring` documents: the length of a derived key, that a tag verifies if it is the HMAC of the data,
that sealing appends a tag of 16 bytes, and that opening is the inverse of sealing and rejects all else. -/
structure Ring.Lawful (ring : Ring) : Prop where
  length_hkdf : ∀ salt master info len, len ≤ 255 * 32 → (ring.hkdf salt master info len).length = len
  hmac_verify : ∀ key data sig, ring.hmac_verify key data sig = true ↔ sig = ring.hmac_sign key data
  length_seal : ∀ key nonce aad plaintext sealed,
    ring.seal_in_place_append_tag key nonce aad plaintext = some sealed →
      sealed.length = plaintext.length + 16
  open_in_place : ∀ key nonce aad sealed plaintext,
    ring.open_in_place key nonce aad sealed = some plaintext ↔
      ring.seal_in_place_append_tag key nonce aad plaintext = some sealed

/-- What `SystemRandom` fills a nonce with. -/
abbrev Random := { bytes : Bytes // bytes.length = 12 }

/-- The exceptions of the kernel. -/
inductive PyErr where
  | RuntimeError (text : String)
  | ValueError (text : String)
  deriving DecidableEq, Repr

/-- `KernelError::Security` with the code `DecryptFailed`, as its display. -/
def decrypt_failed (detail : String) : String := s!"Security error: DECRYPT_FAILED — {detail}"

section

variable (ring : Ring)

/-- `expand` fails for more than 255 blocks, and the failure is not handled. -/
def derive_key {ε : Type} (master salt_bytes info : Bytes) (len : Nat) : Res ε Bytes :=
  if len ≤ 255 * 32 then .ok (ring.hkdf salt_bytes master info len) else .panic

/-- `UnboundKey::new`: AES-256 has keys of 32 bytes. -/
def unbound_key (key : Bytes) : Res String Bytes :=
  if key.length = 32 then .ok key else .err (decrypt_failed s!"invalid key: {ring.unspecified}")

/-- `random` is what the generator gives, or nothing if it fails. -/
def encrypt (key plaintext aad : Bytes) (random : Option Random) : Res String Bytes := do
  let key ← unbound_key ring key
  let nonce ← okOr (decrypt_failed s!"RNG error: {ring.unspecified}") random
  let in_out ← okOr (decrypt_failed s!"encrypt: {ring.unspecified}")
    (ring.seal_in_place_append_tag key nonce.val aad plaintext)
  return nonce.val ++ in_out

/-- `decrypt`: nonce, ciphertext and tag. -/
def decrypt (key data aad : Bytes) : Res String Bytes := do
  -- 12 nonce + 16 tag minimum
  ensure (¬ data.length < 28) (decrypt_failed "ciphertext too short")
  let key ← unbound_key ring key
  let nonce ← slice data 0 12
  let in_out ← slice data 12 data.length
  okOr (decrypt_failed s!"decrypt: {ring.unspecified}") (ring.open_in_place key nonce aad in_out)

def sign (key data : Bytes) : Bytes := ring.hmac_sign key data

def verify (key data sig : Bytes) : Bool := ring.hmac_verify key data sig

end

variable {ring : Ring}

theorem unbound_key_eq_ok_iff {key key' : Bytes} :
    unbound_key ring key = .ok key' ↔ key.length = 32 ∧ key = key' := by
  unfold unbound_key
  split
  · rename_i hlen
    simp only [ok.injEq, hlen, true_and]
  · simp_all

theorem encrypt_eq_ok_iff {key plaintext aad data : Bytes} {random : Option Random} :
    encrypt ring key plaintext aad random = .ok data ↔
      ∃ nonce sealed, key.length = 32 ∧ random = some nonce ∧
        ring.seal_in_place_append_tag key nonce.val aad plaintext = some sealed ∧ data = nonce.val ++ sealed := by
  unfold encrypt
  constructor
  · intro h
    obtain ⟨key', hkey, h⟩ := bind_ok_iff.mp h
    obtain ⟨hlen, rfl⟩ := unbound_key_eq_ok_iff.mp hkey
    obtain ⟨nonce, hnonce, h⟩ := bind_ok_iff.mp h
    obtain ⟨sealed, hsealed, h⟩ := bind_ok_iff.mp h
    rw [pure_eq, ok.injEq] at h
    exact ⟨nonce, sealed, hlen, okOr_eq_ok_iff.mp hnonce, okOr_eq_ok_iff.mp hsealed, h.symm⟩
  · rintro ⟨nonce, sealed, hlen, rfl, hsealed, rfl⟩
    rw [unbound_key_eq_ok_iff.mpr ⟨hlen, rfl⟩, ok_bind, okOr_some, ok_bind, hsealed, okOr_some, ok_bind,
      pure_eq]

/-- **`decrypt` accepts exactly what `encrypt` can make**: for every key, data and additional data, the
plaintext is `plaintext` if and only if some nonce encrypts it to the data. -/
theorem decrypt_eq_ok_iff (hring : ring.Lawful) {key data aad plaintext : Bytes} :
    decrypt ring key data aad = .ok plaintext ↔
      ∃ random, encrypt ring key plaintext aad random = .ok data := by
  simp only [encrypt_eq_ok_iff]
  unfold decrypt
  constructor
  · intro h
    obtain ⟨_, hlen, h⟩ := bind_ok_iff.mp h
    obtain ⟨key', hkey, h⟩ := bind_ok_iff.mp h
    obtain ⟨hkey32, rfl⟩ := unbound_key_eq_ok_iff.mp hkey
    obtain ⟨nonce, hnonce, h⟩ := bind_ok_iff.mp h
    obtain ⟨in_out, hin, h⟩ := bind_ok_iff.mp h
    have h12 := slice_length hnonce
    obtain ⟨-, -, rfl⟩ := slice_eq_ok_iff.mp hnonce
    obtain ⟨-, -, rfl⟩ := slice_eq_ok_iff.mp hin
    rw [okOr_eq_ok_iff, hring.open_in_place] at h
    refine ⟨some ⟨_, h12⟩, ⟨_, h12⟩, _, hkey32, rfl, h, ?_⟩
    show data = (data.drop 0).take (12 - 0) ++ (data.drop 12).take (data.length - 12)
    have hrest : (data.drop 12).take (data.length - 12) = data.drop 12 := by
      rw [← List.length_drop, List.take_length]
    rw [List.drop_zero, hrest, Nat.sub_zero, List.take_append_drop]
  · rintro ⟨_, nonce, sealed, hkey32, rfl, hsealed, rfl⟩
    have hnonce := nonce.property
    have hlen := hring.length_seal _ _ _ _ _ hsealed
    have htotal : (nonce.val ++ sealed).length = 12 + sealed.length := by rw [List.length_append, hnonce]
    rw [ensure_ok _ (by omega), ok_bind, unbound_key_eq_ok_iff.mpr ⟨hkey32, rfl⟩, ok_bind,
      slice_ok (by omega) (by omega), ok_bind, slice_ok (by omega) (Nat.le_refl _), ok_bind,
      List.drop_zero, List.take_left' hnonce, List.drop_left' hnonce,
      List.take_of_length_le (by omega), (hring.open_in_place _ _ _ _ _).mpr hsealed, okOr_some]

/-! ## Contexts -/

/-- `SecurityContext`, with the keys that `load` derives. -/
structure SecurityContext where
  master_key : Bytes
  encrypt_key : Option Bytes
  sign_key : Option Bytes
  route_key : Option Bytes

namespace SecurityContext

/-- A call of a method. -/
inductive Call where
  | load
  | encrypt (plaintext : Bytes) (aad : String) (random : Option Random)
  | decrypt (data : Bytes) (aad : String)
  | sign (data : Bytes)
  | verify (data sig : Bytes)
  | is_loaded
  | sign_route (topic : String)
  | verify_route (topic : String) (sig : Bytes)

/-- What a call of a method returns. -/
inductive Answer where
  | unit
  | bytes (bs : Bytes)
  | bool (b : Bool)
  deriving DecidableEq, Repr

def new (master_key : Bytes) : SecurityContext := ⟨master_key, none, none, none⟩

def not_loaded : PyErr := .RuntimeError "SecurityContext not loaded"

section

variable (ring : Ring)

/-- `load`: the keys are derived from the master key, each with its own purpose. -/
def load (self : SecurityContext) : Res PyErr SecurityContext := do
  let encrypt_key ← derive_key ring self.master_key (utf8 "aqap-v3-payload") (utf8 "encrypt") 32
  let sign_key ← derive_key ring self.master_key (utf8 "aqap-v3-envelope") (utf8 "sign") 32
  let route_key ← derive_key ring self.master_key (utf8 "aqap-v3-route") (utf8 "route") 32
  return { self with encrypt_key, sign_key, route_key }

/-- `map_err` to a `PyValueError`. -/
def value_error {α : Type} : Res String α → Res PyErr α
  | .ok a => .ok a
  | .err e => .err (.ValueError e)
  | .panic => .panic

/-- The methods but `load`, which does not answer anything. -/
def answer (self : SecurityContext) : Call → Res PyErr Answer
  | .load => .ok .unit
  | .encrypt plaintext aad random => do
    let key ← okOr not_loaded self.encrypt_key
    let data ← value_error (Kernel.encrypt ring key plaintext (utf8 aad) random)
    return .bytes data
  | .decrypt data aad => do
    let key ← okOr not_loaded self.encrypt_key
    let plaintext ← value_error (Kernel.decrypt ring key data (utf8 aad))
    return .bytes plaintext
  | .sign data => do
    let key ← okOr not_loaded self.sign_key
    return .bytes (Kernel.sign ring key data)
  | .verify data sig => do
    let key ← okOr not_loaded self.sign_key
    return .bool (Kernel.verify ring key data sig)
  | .is_loaded => .ok (.bool self.encrypt_key.isSome)
  | .sign_route topic => do
    let key ← okOr not_loaded self.route_key
    return .bytes (Kernel.sign ring key (utf8 topic))
  | .verify_route topic sig => do
    let key ← okOr not_loaded self.route_key
    return .bool (Kernel.verify ring key (utf8 topic) sig)

/-- The context after a call: only `load` takes `&mut self`. -/
def after (self : SecurityContext) : Call → Res PyErr SecurityContext
  | .load => self.load ring
  | _ => .ok self

/-- The context after some calls. -/
def history (self : SecurityContext) : List Call → Res PyErr SecurityContext
  | [] => .ok self
  | call :: calls => do
    let self ← self.after ring call
    history self calls

/-- What a context with the master key answers to a call after some other ones. -/
def ask (master_key : Bytes) (calls : List Call) (call : Call) : Res PyErr Answer := do
  let self ← history ring (new master_key) calls
  self.answer ring call

/-- A context with its keys. -/
def loaded (master_key : Bytes) : SecurityContext where
  master_key
  encrypt_key := some (ring.hkdf (utf8 "aqap-v3-payload") master_key (utf8 "encrypt") 32)
  sign_key := some (ring.hkdf (utf8 "aqap-v3-envelope") master_key (utf8 "sign") 32)
  route_key := some (ring.hkdf (utf8 "aqap-v3-route") master_key (utf8 "route") 32)

end

variable {ring : Ring} {master_key : Bytes}

/-! ## What a context depends on -/

theorem load_eq (self : SecurityContext) : self.load ring = .ok (loaded ring self.master_key) := by
  simp [load, derive_key, loaded]

/-- Loading again changes nothing. -/
theorem history_loaded (calls : List Call) :
    history ring (loaded ring master_key) calls = .ok (loaded ring master_key) := by
  induction calls with
  | nil => rfl
  | cons call calls ih =>
    have hafter : (loaded ring master_key).after ring call = .ok (loaded ring master_key) := by
      cases call
      case load => exact load_eq _
      all_goals rfl
    rw [history, hafter, ok_bind, ih]

theorem history_new_of_mem {calls : List Call} (h : Call.load ∈ calls) :
    history ring (new master_key) calls = .ok (loaded ring master_key) := by
  induction calls with
  | nil => cases h
  | cons call calls ih =>
    rw [history]
    cases call
    case load =>
      have hafter : (new master_key).after ring .load = .ok (loaded ring master_key) := load_eq _
      rw [hafter, ok_bind, history_loaded]
    all_goals exact ih (by simpa using h)

theorem history_new_of_not_mem {calls : List Call} (h : Call.load ∉ calls) :
    history ring (new master_key) calls = .ok (new master_key) := by
  induction calls with
  | nil => rfl
  | cons call calls ih =>
    rw [List.mem_cons, not_or] at h
    rw [history]
    cases call
    case load => exact absurd rfl h.1
    all_goals exact ih h.2

/-- What a loaded context answers, whatever it was asked before. -/
theorem ask_of_mem {calls : List Call} (h : Call.load ∈ calls) (call : Call) :
    ask ring master_key calls call = (loaded ring master_key).answer ring call := by
  rw [ask, history_new_of_mem h, ok_bind]

/-- The calls that read a key. -/
def Call.ReadsKey : Call → Prop
  | load => False
  | is_loaded => False
  | _ => True

theorem unbound_key_ne_panic (key : Bytes) : unbound_key ring key ≠ .panic := by
  unfold unbound_key
  split <;> simp

theorem safe_encrypt (key plaintext aad : Bytes) (random : Option Random) :
    (Kernel.encrypt ring key plaintext aad random).Safe := by
  unfold Kernel.encrypt
  refine Safe.bind (unbound_key_ne_panic key) fun _ _ => ?_
  refine Safe.bind safe_okOr fun _ _ => ?_
  exact Safe.bind safe_okOr fun _ _ => safe_ok _

theorem safe_decrypt (key data aad : Bytes) : (Kernel.decrypt ring key data aad).Safe := by
  unfold Kernel.decrypt
  refine Safe.bind safe_ensure fun _ hlen => ?_
  rw [ensure_eq_ok_iff] at hlen
  refine Safe.bind (unbound_key_ne_panic key) fun _ _ => ?_
  refine (safe_slice (by omega) (by omega)).bind fun _ _ => ?_
  exact (safe_slice (by omega) (Nat.le_refl _)).bind fun _ _ => safe_okOr

theorem value_error_eq_ok_iff {α : Type} {x : Res String α} {a : α} : value_error x = .ok a ↔ x = .ok a := by
  cases x <;> simp [value_error]

/-- A call that ends neither with a panic nor for want of a key. -/
def Returns (x : Res PyErr Answer) : Prop := x ≠ .panic ∧ x ≠ .err not_loaded

theorem returns_ok (a : Answer) : Returns (.ok a) := ⟨nofun, nofun⟩

theorem returns_value_error {x : Res String Bytes} (h : x.Safe) :
    Returns (value_error x >>= fun bs => .ok (.bytes bs)) := by
  cases x with
  | ok a => exact returns_ok _
  | err e => exact ⟨nofun, nofun⟩
  | panic => exact absurd rfl h

theorem returns_loaded (call : Call) : Returns ((loaded ring master_key).answer ring call) := by
  cases call with
  | encrypt plaintext aad random => exact returns_value_error (safe_encrypt _ _ _ _)
  | decrypt data aad => exact returns_value_error (safe_decrypt _ _ _)
  | load => exact returns_ok _
  | sign data => exact returns_ok _
  | verify data sig => exact returns_ok _
  | is_loaded => exact returns_ok _
  | sign_route topic => exact returns_ok _
  | verify_route topic sig => exact returns_ok _

/-- **What a context answers** depends on its master key and on whether it was loaded, and on nothing else
that it was asked before. Before that, every call that reads a key raises; afterwards no call raises for
want of a key, and none panics. -/
theorem answers (ring : Ring) (master_key : Bytes) (calls : List Call) (call : Call) :
    (Call.load ∉ calls → call.ReadsKey → ask ring master_key calls call = .err not_loaded) ∧
    (Call.load ∈ calls → ask ring master_key calls call = ask ring master_key [.load] call ∧
      Returns (ask ring master_key calls call)) := by
  refine ⟨fun hnot hreads => ?_, fun hmem => ?_⟩
  · rw [ask, history_new_of_not_mem hnot, ok_bind]
    cases call
    case load => exact hreads.elim
    case is_loaded => exact hreads.elim
    all_goals rfl
  · have honce : Call.load ∈ [Call.load] := List.mem_singleton_self _
    rw [ask_of_mem hmem, ask_of_mem honce]
    exact ⟨rfl, returns_loaded call⟩

/-! ## Two contexts -/

theorem bytes_eq_ok_iff {x : Res PyErr Bytes} {bs : Bytes} :
    (x >>= fun bs => .ok (.bytes bs)) = (.ok (.bytes bs) : Res PyErr Answer) ↔ x = .ok bs := by
  cases x <;> simp

/-- **Contexts of one master key understand each other**, and nothing else: once both are loaded, whatever
each was asked before, one decrypts exactly what the other can encrypt, with the same additional data, and
verifies exactly what the other signs. -/
theorem interoperate (hring : ring.Lawful) (master_key : Bytes) {calls calls' : List Call}
    (h : Call.load ∈ calls) (h' : Call.load ∈ calls') :
    (∀ data aad plaintext, ask ring master_key calls (.decrypt data aad) = .ok (.bytes plaintext) ↔
      ∃ random, ask ring master_key calls' (.encrypt plaintext aad random) = .ok (.bytes data)) ∧
    (∀ data sig, ask ring master_key calls (.verify data sig) = .ok (.bool true) ↔
      ask ring master_key calls' (.sign data) = .ok (.bytes sig)) ∧
    (∀ topic sig, ask ring master_key calls (.verify_route topic sig) = .ok (.bool true) ↔
      ask ring master_key calls' (.sign_route topic) = .ok (.bytes sig)) := by
  refine ⟨fun data aad plaintext => ?_, fun data sig => ?_, fun topic sig => ?_⟩
  · simp only [ask_of_mem h, ask_of_mem h']
    simp only [answer, loaded, okOr_some, ok_bind, pure_eq, bytes_eq_ok_iff, value_error_eq_ok_iff]
    exact decrypt_eq_ok_iff hring
  · rw [ask_of_mem h, ask_of_mem h']
    simp only [answer, loaded, okOr_some, ok_bind, pure_eq, ok.injEq, Answer.bool.injEq,
      Answer.bytes.injEq, verify, sign, hring.hmac_verify]
    exact eq_comm
  · rw [ask_of_mem h, ask_of_mem h']
    simp only [answer, loaded, okOr_some, ok_bind, pure_eq, ok.injEq, Answer.bool.injEq,
      Answer.bytes.injEq, verify, sign, hring.hmac_verify]
    exact eq_comm

/-! ## A sample -/

/-- Sixteen bytes of the key, the nonce and the additional data. -/
def sample_tag (key nonce aad : Bytes) : Bytes := (key ++ nonce ++ aad ++ List.replicate 16 0).take 16

theorem length_sample_tag (key nonce aad : Bytes) : (sample_tag key nonce aad).length = 16 := by
  simp [sample_tag]
  omega

/-- The plaintext itself with its tag stands for a ciphertext. -/
def sample_ring : Ring where
  hkdf salt master info len := (salt ++ master ++ info ++ List.replicate len 0).take len
  hmac_sign key data := key ++ data
  hmac_verify key data sig := sig == key ++ data
  seal_in_place_append_tag key nonce aad plaintext := some (plaintext ++ sample_tag key nonce aad)
  open_in_place key nonce aad sealed :=
    if sealed = sealed.take (sealed.length - 16) ++ sample_tag key nonce aad
    then some (sealed.take (sealed.length - 16)) else none
  unspecified := "ring::error::Unspecified"

theorem sample_ring_lawful : sample_ring.Lawful where
  length_hkdf salt master info len _ := by
    simp [sample_ring]
    omega
  hmac_verify key data sig := by simp [sample_ring]
  length_seal key nonce aad plaintext sealed h := by
    simp only [sample_ring, Option.some.injEq] at h
    rw [← h, List.length_append, length_sample_tag]
  open_in_place key nonce aad sealed plaintext := by
    simp only [sample_ring, Option.some.injEq, Option.ite_none_right_eq_some]
    constructor
    · rintro ⟨hsealed, rfl⟩
      exact hsealed.symm
    · rintro rfl
      have hlen : (plaintext ++ sample_tag key nonce aad).length - 16 = plaintext.length := by
        rw [List.length_append, length_sample_tag, Nat.add_sub_cancel]
      rw [hlen, List.take_left]
      exact ⟨rfl, rfl⟩

/-- A context that is asked for a signature before it is loaded, and after it was loaded twice. -/
theorem answers_sample : ask sample_ring [1] [.is_loaded] (.sign []) = .err not_loaded ∧
    ask sample_ring [1] [.load, .is_loaded, .load] (.sign []) = ask sample_ring [1] [.load] (.sign []) :=
  ⟨(answers sample_ring [1] [.is_loaded] (.sign [])).1 (by simp) trivial,
    ((answers sample_ring [1] [.load, .is_loaded, .load] (.sign [])).2 List.mem_cons_self).1⟩

/-- A context that was loaded twice and one that was asked for a signature. -/
theorem interoperate_sample :
    (∀ data aad plaintext, ask sample_ring [1] [.load, .load] (.decrypt data aad) =
      .ok (.bytes plaintext) ↔ ∃ random, ask sample_ring [1] [.load, .sign []]
        (.encrypt plaintext aad random) = .ok (.bytes data)) ∧
    (∀ data sig, ask sample_ring [1] [.load, .load] (.verify data sig) = .ok (.bool true) ↔
      ask sample_ring [1] [.load, .sign []] (.sign data) = .ok (.bytes sig)) ∧
    (∀ topic sig, ask sample_ring [1] [.load, .load] (.verify_route topic sig) = .ok (.bool true) ↔
      ask sample_ring [1] [.load, .sign []] (.sign_route topic) = .ok (.bytes sig)) :=
  interoperate sample_ring_lawful [1] (List.mem_cons_self) (List.mem_cons_self)

end SecurityContext

end Aqap.Kernel
