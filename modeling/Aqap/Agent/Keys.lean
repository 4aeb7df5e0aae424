import Aqap.Agent.Decryption
import Aqap.Agent.Report
import Aqap.Agent.Startup

/-!
# Which agents read each other

An agent encrypts the payloads of its replies if its cipher has a key. An agent with another key, or without one,
handles the message all the same: with the ciphertext as its payload.

* `opens_of_key_eq`, `opens_of_registered`: agents with one key, and the agents of one engine
  (`Deployment.shared_of_registered`).
* `read_iff`: what the handler of an agent gets of the reply of another one.
-/

namespace Aqap

open Py Aqap.Core Async

/-- What the cipher relies on: the texts of JSON and base64 are read back, and so is what AES-GCM encrypts. -/
structure Core.CipherLib.Lawful (lib : CipherLib) : Prop where
  loads_dumps : ∀ payload text, lib.dumps payload = .ok text → lib.loads text = .ok payload
  b64decode_b64encode : ∀ bs, lib.b64decode (.str (lib.b64encode bs)) = .ok bs
  decrypt_encrypt : ∀ key nonce data, lib.decrypt key nonce (lib.encrypt key nonce data) = .ok data

/-- Nothing that is encrypted with `key` is authentic for `key'`. -/
def Core.CipherLib.Rejects (lib : CipherLib) (key key' : List UInt8) : Prop :=
  ∀ n plaintext, ∃ text, lib.decrypt key' (lib.urandom n) (lib.encrypt key (lib.urandom n) plaintext) = .error text

namespace Core.PayloadCipher

variable {sender receiver : PayloadCipher} {n : Nat} {payload v : Json}

/-- What a cipher with a key makes of a payload. -/
theorem encrypt_payload_eq_ok {key : List UInt8} (hkey : sender.key = some key)
    (h : sender.encrypt_payload n payload = .ok v) :
    ∃ plaintext, sender.lib.dumps payload = .ok plaintext ∧ v = .obj [
      ("_encrypted", .bool true),
      ("_ciphertext", .str (sender.lib.b64encode (sender.lib.encrypt key (sender.lib.urandom n) plaintext))),
      ("_nonce", .str (sender.lib.b64encode (sender.lib.urandom n)))] := by
  unfold encrypt_payload at h
  rw [hkey] at h
  dsimp only at h
  cases hdumps : sender.lib.dumps payload with
  | error e => rw [hdumps] at h; cases h
  | ok plaintext =>
    rw [hdumps] at h
    cases h
    exact ⟨plaintext, rfl, rfl⟩

/-- What a cipher with a key makes of that. -/
theorem decrypt_encrypted (hlaw : receiver.lib.Lawful) {key nonce ciphertext : List UInt8}
    (hkey : receiver.key = some key) :
    receiver.decrypt_payload (.obj [
      ("_encrypted", .bool true),
      ("_ciphertext", .str (receiver.lib.b64encode ciphertext)),
      ("_nonce", .str (receiver.lib.b64encode nonce))]) =
      (receiver.lib.decrypt key nonce ciphertext).bind receiver.lib.loads := by
  have hmarked : marked (.obj [
      ("_encrypted", .bool true),
      ("_ciphertext", .str (receiver.lib.b64encode ciphertext)),
      ("_nonce", .str (receiver.lib.b64encode nonce))]) = true := rfl
  unfold decrypt_payload
  rw [hkey]
  dsimp only
  rw [if_pos hmarked]
  show (receiver.lib.b64decode (.str (receiver.lib.b64encode ciphertext))).bind (fun ciphertext =>
    (receiver.lib.b64decode (.str (receiver.lib.b64encode nonce))).bind fun nonce =>
      (receiver.lib.decrypt key nonce ciphertext).bind receiver.lib.loads) = _
  rw [hlaw.b64decode_b64encode, Except.bind, hlaw.b64decode_b64encode, Except.bind]

/-- A payload that is not marked is left as it is, with a key and without. -/
theorem decrypt_unmarked {fields : List (String × Json)} (hunmarked : marked (.obj fields) = false) :
    receiver.decrypt_payload (.obj fields) = .ok (.obj fields) := by
  unfold decrypt_payload
  cases receiver.key with
  | none => rfl
  | some key =>
    dsimp only
    rw [hunmarked, if_neg Bool.false_ne_true]

/-- With another key a ciphertext is not decrypted, and without one it is not tried. -/
theorem decrypt_sealed (hlaw : sender.lib.Lawful) (hlib : receiver.lib = sender.lib) {key : List UInt8}
    (hsender : sender.key = some key) (hkey : receiver.key ≠ some key)
    (hrejects : ∀ key', receiver.key = some key' → key' ≠ key → sender.lib.Rejects key key')
    (hencrypt : sender.encrypt_payload n payload = .ok v) :
    marked v = true ∧ (receiver.decrypt_payload v = .ok v ∨ ∃ text, receiver.decrypt_payload v = .error text) := by
  obtain ⟨plaintext, -, rfl⟩ := encrypt_payload_eq_ok hsender hencrypt
  refine ⟨rfl, ?_⟩
  cases hreceiver : receiver.key with
  | none =>
    unfold decrypt_payload
    rw [hreceiver]
    exact .inl rfl
  | some key' =>
    rw [hreceiver, Ne, Option.some.injEq] at hkey
    obtain ⟨text, hfails⟩ := hrejects key' hreceiver hkey n plaintext
    rw [← hlib] at hlaw hfails ⊢
    rw [decrypt_encrypted hlaw hreceiver, hfails]
    exact .inr ⟨text, rfl⟩

/-- Ciphers with one key, or without one, open each other. -/
theorem opens_of_key_eq (hlaw : sender.lib.Lawful) (hlib : receiver.lib = sender.lib)
    (hkey : receiver.key = sender.key) : sender.Opens receiver := by
  intro n payload v hencrypt
  cases hsender : sender.key with
  | none =>
    unfold encrypt_payload at hencrypt
    rw [hsender] at hencrypt
    cases hencrypt
    unfold decrypt_payload
    rw [hkey, hsender]
  | some key =>
    obtain ⟨plaintext, hdumps, rfl⟩ := encrypt_payload_eq_ok hsender hencrypt
    rw [← hlib] at hlaw hdumps ⊢
    rw [decrypt_encrypted hlaw (hkey.trans hsender), hlaw.decrypt_encrypt]
    exact hlaw.loads_dumps payload plaintext hdumps

end Core.PayloadCipher

/-- The agents of one engine open each other. -/
theorem opens_of_registered {lib : CipherLib} (hlaw : lib.Lawful) {cipher : Option PayloadCipher}
    (hcipher : ∀ c, cipher = some c → c.lib = lib) {clock : Int} {entries : List (String × Json)}
    (hnodup : (entries.map Prod.fst).Nodup) {s' : SupervisorState CreatedAgent}
    (h : _init_agents lib cipher (.new clock) (.obj entries) = .ok s') {id id' : String} {a b : CreatedAgent}
    (ha : s'.agents.get? id = some a) (hb : s'.agents.get? id' = some b) : a.cipher.Opens b.cipher := by
  obtain ⟨_, _, _, _, _, _, hmade⟩ := made_of_registered hnodup h ha
  obtain ⟨_, _, _, _, _, _, hmade'⟩ := made_of_registered hnodup h hb
  have hlib : a.cipher.lib = lib := by
    rw [hmade.cipher]
    cases hc : cipher with
    | none => rfl
    | some c => exact hcipher c hc
  have hsame : b.cipher = a.cipher := hmade'.cipher.trans hmade.cipher.symm
  rw [hsame]
  exact PayloadCipher.opens_of_key_eq (hlib.symm ▸ hlaw) rfl rfl

/-- A Probe, a Judge and a Reporter with the ciphers of registered agents open what they get. -/
theorem Deployment.shared_of_registered {d : Deployment} {lib : CipherLib} (hlaw : lib.Lawful)
    {cipher : Option PayloadCipher} (hcipher : ∀ c, cipher = some c → c.lib = lib) {clock : Int}
    {entries : List (String × Json)} (hnodup : (entries.map Prod.fst).Nodup)
    {s' : SupervisorState CreatedAgent}
    (h : _init_agents lib cipher (.new clock) (.obj entries) = .ok s') {ids : Fin 3 → String}
    {probe judge reporter : CreatedAgent} (hprobe : s'.agents.get? (ids 0) = some probe)
    (hjudge : s'.agents.get? (ids 1) = some judge) (hreporter : s'.agents.get? (ids 2) = some reporter)
    (hciphers : d.probe.cipher = probe.cipher ∧ d.judge.cipher = judge.cipher ∧
      d.reporter.cipher = reporter.cipher) : d.Shared where
  judge := by
    rw [hciphers.1, hciphers.2.1]
    exact opens_of_registered hlaw hcipher hnodup h hprobe hjudge
  reporter := by
    rw [hciphers.2.1, hciphers.2.2]
    exact opens_of_registered hlaw hcipher hnodup h hjudge hreporter

namespace Agent

variable {R : AgentState → AgentState → Prop} {self other : Agent} {m₁ m' : Message} {topic : String}
  {s s' : AgentState} {tr : List AgentEvent}

/-- The handler is invoked on what the consume loop has opened. -/
theorem handled_opened {r : Except Exc Bool}
    (h : Co.Run (fun _ _ => True) (self.consume_one topic m₁) s tr s' r) {ev : AgentEvent} (hev : ev ∈ tr)
    (hreq : ev.req = .handle_message m') : m' = self.opened m₁ := by
  rcases run_consume_one_events h ev hev with ⟨_, _, -, hpublish⟩ | hacquire | ⟨s₁, tr₁, r₁, -, hev₁, hone⟩
  · rw [hreq] at hpublish
    cases hpublish
  · rw [hreq] at hacquire
    cases hacquire
  · exact handled_eq hone ev hev₁ m' hreq

/-- **Who reads what.** If the handler of an agent is invoked on a message that another agent has published as a
reply, it gets the payload of the reply exactly if the sender does not encrypt or both have the same key. Otherwise
it gets the ciphertext: decryption fails or is not tried, and the message is handled all the same. -/
theorem read_iff (hlaw : self.cipher.lib.Lawful) (hlib : other.cipher.lib = self.cipher.lib) {m msg : Message}
    {replies : List Message}
    (hrejects : ∀ key key', self.cipher.key = some key → other.cipher.key = some key' → key' ≠ key →
      self.cipher.lib.Rejects key key')
    (hplain : ∀ reply ∈ replies, ∃ fields, reply.payload = .obj fields ∧
      PayloadCipher.marked reply.payload = false)
    {s₀ s₁ : AgentState} {tr₀ : List AgentEvent} {r₀ : Except Exc Unit}
    (hsent : Co.Run (fun _ _ => True) (self.publish_replies m replies) s₀ tr₀ s₁ r₀) {sent : AgentEvent}
    (hmem : sent ∈ tr₀) {t : String} (hpublish : sent.req = .publish t msg) (hdelivered : Delivered msg m₁)
    {r : Except Exc Bool} (h : Co.Run (fun _ _ => True) (other.consume_one topic m₁) s tr s' r)
    {ev : AgentEvent} (hev : ev ∈ tr) (hreq : ev.req = .handle_message m') :
    ∃ reply ∈ replies, msg = { reply with payload := msg.payload } ∧
      (m'.payload = reply.payload ↔ self.cipher.key = none ∨ other.cipher.key = self.cipher.key) ∧
      (m'.payload = reply.payload ∨ m'.payload = msg.payload ∧ PayloadCipher.marked msg.payload = true) := by
  obtain ⟨t', msg', hissued, hreply⟩ := isReply_of_run hsent sent hmem
  rw [hpublish] at hissued
  cases hissued
  obtain ⟨reply, hreplies, n, payload, -, hencrypt, rfl⟩ := hreply
  obtain ⟨fields, hfields, hunmarked⟩ := hplain reply hreplies
  have hpayload : m₁.payload = payload := by rw [hdelivered.eq]
  have hopened {v : Json} (hdecrypt : other.cipher.decrypt_payload payload = .ok v) : m'.payload = v := by
    rw [handled_opened h hev hreq]
    unfold opened
    rw [hpayload, hdecrypt]
  refine ⟨reply, hreplies, rfl, ?_⟩
  cases hsender : self.cipher.key with
  | none =>
    -- The payload is sent as it is, and it is not marked.
    unfold PayloadCipher.encrypt_payload at hencrypt
    rw [hsender] at hencrypt
    cases hencrypt
    rw [hfields] at hunmarked hopened ⊢
    have hsame := hopened (PayloadCipher.decrypt_unmarked hunmarked)
    exact ⟨iff_of_true hsame (.inl rfl), .inl hsame⟩
  | some key =>
    by_cases hkey : other.cipher.key = some key
    · have hsame := hopened (PayloadCipher.opens_of_key_eq hlaw hlib (hkey.trans hsender.symm) n _ _ hencrypt)
      exact ⟨iff_of_true hsame (.inr hkey), .inl hsame⟩
    · -- The handler gets the ciphertext, which is marked.
      obtain ⟨hmarked, hdecrypt⟩ := PayloadCipher.decrypt_sealed hlaw hlib hsender hkey
        (fun key' => hrejects key key' hsender) hencrypt
      have hcipher : m'.payload = payload := by
        rcases hdecrypt with hdecrypt | ⟨text, hdecrypt⟩
        · exact hopened hdecrypt
        · rw [handled_opened h hev hreq]
          unfold opened
          rw [hpayload, hdecrypt]
          exact hpayload
      have hne : m'.payload ≠ reply.payload := by
        intro heq
        rw [← heq, hcipher, hmarked] at hunmarked
        cases hunmarked
      exact ⟨iff_of_false hne (not_or.mpr ⟨Option.some_ne_none key, hkey⟩), .inr ⟨hcipher, hmarked⟩⟩

/-- Ciphertexts that begin with their keys; the nonces are empty. -/
def sealing_lib : CipherLib where
  dumps
    | .obj [] => .ok [0x7b, 0x7d]
    | _ => .error "not JSON serializable"
  loads text := if text = [0x7b, 0x7d] then .ok (.obj []) else .error "Expecting value"
  b64encode bs := String.ofList (bs.map fun b => Char.ofNat b.toNat)
  b64decode
    | .str text => .ok (text.toList.map fun c => UInt8.ofNat c.toNat)
    | _ => .error "argument should be bytes or ASCII string"
  urandom _ := []
  encrypt key _ data := key ++ data
  decrypt key _ data := if key.isPrefixOf data then .ok (data.drop key.length) else .error ""

theorem sealing_lib_lawful : sealing_lib.Lawful where
  loads_dumps payload text h := by
    simp only [sealing_lib] at h
    split at h
    · cases h
      rfl
    · cases h
  b64decode_b64encode bs := by
    have hback (b : UInt8) : UInt8.ofNat (Char.ofNat b.toNat).toNat = b := by
      have hvalid : b.toNat.isValidChar := .inl (Nat.lt_trans b.toNat_lt (by decide))
      have hchar : (Char.ofNat b.toNat).toNat = b.toNat := by
        unfold Char.ofNat
        rw [dif_pos hvalid]
        rfl
      rw [hchar, UInt8.ofNat_toNat]
    simp [sealing_lib, Function.comp_def, hback]
  decrypt_encrypt key nonce data := by simp [sealing_lib]

def sealing_agent (key : List UInt8) : Agent := { sample_agent 3 with cipher := ⟨sealing_lib, some key⟩ }

/-- A reply, and what the first agent publishes for it. -/
def plain_reply : Message := { sample_task with target := .str "judge-1", source := .str "client" }

def sealed_reply : Message :=
  { plain_reply with
    payload := .obj [
      ("_encrypted", .bool true),
      ("_ciphertext", .str (sealing_lib.b64encode [1, 0x7b, 0x7d])),
      ("_nonce", .str (sealing_lib.b64encode []))] }

/-- The second agent has another key: its handler gets the ciphertext. -/
theorem read_iff_sample : ∃ reply ∈ [plain_reply], sealed_reply = { reply with payload := sealed_reply.payload } ∧
    (sealed_reply.payload = reply.payload ↔ some [(1 : UInt8)] = none ∨ some [(2 : UInt8)] = some [1]) ∧
    (sealed_reply.payload = reply.payload ∨
      sealed_reply.payload = sealed_reply.payload ∧ PayloadCipher.marked sealed_reply.payload = true) := by
  have hadm : (sealing_agent [2]).Admitted sealed_reply (.str "0011223344556677") (AgentState.started 0) :=
    ⟨rfl, by decide, rfl, rfl, by decide +kernel, by decide⟩
  have hlaw : (sealing_agent [2]).cipher.lib.Lawful := sealing_lib_lawful
  have hraises : (sealing_agent [2]).cipher.decrypt_payload sealed_reply.payload = .error "" :=
    PayloadCipher.decrypt_encrypted hlaw rfl
  obtain ⟨tr, s', r, hrun, ev, hev, hreq⟩ := exists_handled_run "t" hadm hraises
  have hsent := Co.run_exec (R := fun _ _ => True) (fun _ => trivial) (sample_answer (.ok none))
    ((sealing_agent [1]).publish_replies sample_task [plain_reply]) (AgentState.started 0)
  have hrejects : ∀ key key', some [(1 : UInt8)] = some key → some [(2 : UInt8)] = some key' → key' ≠ key →
      sealing_lib.Rejects key key' := by
    rintro key key' ⟨⟩ ⟨⟩ -
    exact fun _ plaintext => ⟨"", by simp [sealing_lib]⟩
  have hlib : (sealing_agent [2]).cipher.lib = (sealing_agent [1]).cipher.lib := rfl
  have hlaw₁ : (sealing_agent [1]).cipher.lib.Lawful := sealing_lib_lawful
  exact read_iff hlaw₁ hlib hrejects (List.forall_mem_singleton.mpr ⟨[], rfl, rfl⟩) hsent List.mem_cons_self rfl
    (Delivered.refl sealed_reply) hrun hev hreq

end Agent

end Aqap
