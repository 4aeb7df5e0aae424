import Aqap.Core.Validate

/-!
# The payload cipher

AES-GCM, base64 and the JSON text of a payload are the functions of `CipherLib`; the model has what
`PayloadCipher` does with them, and the ways in which `decrypt_payload` raises.
-/

namespace Aqap.Core

open Py

/-- The functions that the cipher calls. -/
structure CipherLib where
  /-- `json.dumps(payload, ensure_ascii=False).encode()` -/
  dumps : Json → Except String (List UInt8)
  /-- `json.loads(plaintext.decode())` -/
  loads : List UInt8 → Except String Json
  /-- `base64.b64encode(b).decode()` -/
  b64encode : List UInt8 → String
  b64decode : Json → Except String (List UInt8)
  /-- `os.urandom(12)` at its `n`-th call. -/
  urandom : Nat → List UInt8
  /-- `AESGCM(key).encrypt(nonce, data, None)` -/
  encrypt : List UInt8 → List UInt8 → List UInt8 → List UInt8
  /-- `AESGCM(key).decrypt(nonce, data, None)` -/
  decrypt : List UInt8 → List UInt8 → List UInt8 → Except String (List UInt8)

/-- The cipher; it has a key when it is enabled. -/
structure PayloadCipher where
  lib : CipherLib
  key : Option (List UInt8)

namespace PayloadCipher

/-- `enabled`: there is a key. -/
def enabled (self : PayloadCipher) : Bool := self.key.isSome

/-- `encrypt_payload`: without a key, the payload itself. -/
def encrypt_payload (self : PayloadCipher) (n : Nat) (payload : Json) : Except String Json :=
  match self.key with
  | none => .ok payload
  | some key =>
    (self.lib.dumps payload).map fun plaintext =>
      let nonce := self.lib.urandom n
      .obj [
        ("_encrypted", .bool true),
        ("_ciphertext", .str (self.lib.b64encode (self.lib.encrypt key nonce plaintext))),
        ("_nonce", .str (self.lib.b64encode nonce))]

/-- Whether a payload can be encrypted does not depend on the nonce. -/
theorem encrypt_payload_error {self : PayloadCipher} {n : Nat} {payload : Json} {text : String}
    (h : self.encrypt_payload n payload = .error text) (n' : Nat) :
    self.encrypt_payload n' payload = .error text := by
  unfold encrypt_payload at h ⊢
  cases hk : self.key with
  | none => rw [hk] at h; cases h
  | some key =>
    rw [hk] at h
    cases hd : self.lib.dumps payload with
    | ok plaintext => simp [hd, Except.map] at h
    | error e => simpa [hd, Except.map] using h

/-- `payload[field]`. -/
def item (payload : List (String × Json)) (field : String) : Except String Json :=
  match payload.lookup field with
  | some v => .ok v
  | none => .error ("'" ++ field ++ "'")

/-- The payload is an object that is marked as encrypted. -/
def marked : Json → Bool
  | .obj payload => ((payload.lookup "_encrypted").getD .null).truthy
  | _ => false

/-- The decryption of a payload with the mark. -/
def decrypt_marked (self : PayloadCipher) (key : List UInt8) (payload : List (String × Json)) :
    Except String Json := do
  let ciphertext ← item payload "_ciphertext"
  let ciphertext ← self.lib.b64decode ciphertext
  let nonce ← item payload "_nonce"
  let nonce ← self.lib.b64decode nonce
  let plaintext ← self.lib.decrypt key nonce ciphertext
  self.lib.loads plaintext

/-- `decrypt_payload`: a payload without the mark is returned as it is. -/
def decrypt_payload (self : PayloadCipher) (payload : Json) : Except String Json :=
  match self.key with
  | none => .ok payload
  | some key =>
    match payload with
    | .obj fields => if marked payload then self.decrypt_marked key fields else .ok payload
    | v => .error (no_attribute v "get")

end PayloadCipher

end Aqap.Core
