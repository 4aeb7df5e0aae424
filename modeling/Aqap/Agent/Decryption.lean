import Aqap.Agent.Frame

/-!
# What the handler sees of an encrypted payload

The consume loop logs an exception of `decrypt_payload` and goes on with the received payload.

* `failsClosed_iff`: the handler gets nothing but decrypted payloads exactly if the message is dropped
  before its payload is decrypted, or decryption succeeds.
* `undecrypted_handled`: a payload that is marked as encrypted and has no ciphertext is handled.
-/

namespace Aqap

open Py Aqap.Core Async

namespace Agent

variable {R : AgentState → AgentState → Prop} {self : Agent} {m : Message} {topic : String}
  {s s' : AgentState} {tr : List AgentEvent}

/-- In every run of the iteration, the handler is invoked only with the payload that `decrypt_payload`
returned. -/
def FailsClosed (self : Agent) (topic : String) (m : Message) (s : AgentState) : Prop :=
  ∀ tr s' r, Co.Run (fun _ _ => True) (self.consume_one topic m) s tr s' r →
    ∀ ev ∈ tr, ∀ m', ev.req = .handle_message m' →
      ∃ payload, self.cipher.decrypt_payload m.payload = .ok payload ∧ m' = { m with payload }

/-- Processing a message invokes the handler on that message only. -/
theorem handled_eq {r : Except Exc Bool} (h : Co.Run R (self.process_one m topic) s tr s' r) :
    ∀ ev ∈ tr, ∀ m', ev.req = .handle_message m' → m' = m := by
  have hg : Co.Guarded (fun _ => True) (fun _ _ => True)
      (fun q => ∀ m', q = .handle_message m' → m' = m) (self.process_one m topic) := by
    refine guarded_process_one (.of_forall (fun _ _ h => h) (fun _ _ h => h) fun _ _ h => h) ?_ ?_ ?_
    · rintro q hq m' rfl
      exact hq
    · rintro msg m' ⟨⟩
    · rintro s s₁ id - - - m' ⟨⟩
  intro ev hev
  exact ((hg.run (fun _ _ _ h => h) trivial h).2 ev hev).1

/-- Processing a message invokes its handler. -/
theorem handler_invoked {r : Except Exc Bool} (h : Co.Run R (self.process_one m topic) s tr s' r) :
    ∃ ev ∈ tr, ev.req = .handle_message m := by
  have hattempt : ∀ {t₁ s₁} {r : Except Exc Unit}, Co.Run R (self.attempt m) s t₁ s₁ r →
      ∃ ev ∈ t₁, ev.req = .handle_message m := by
    intro t₁ s₁ r ha
    rcases run_attempt ha with ⟨-, _, _, _, rfl, -⟩ | ⟨e, -, rfl | ⟨_, _, _, _, _, _, _, rfl, -⟩⟩ <;>
      exact ⟨_, List.mem_cons_self, rfl⟩
  cases run_process_one h with
  | handled ha hf =>
    obtain ⟨ev, hev, hreq⟩ := hattempt ha
    exact ⟨ev, List.mem_append_left _ hev, hreq⟩
  | cancelled ha hf =>
    obtain ⟨ev, hev, hreq⟩ := hattempt ha
    exact ⟨ev, List.mem_append_left _ hev, hreq⟩
  | retried ha hlt => exact hattempt ha
  | exhausted ha hle hd hf =>
    obtain ⟨ev, hev, hreq⟩ := hattempt ha
    exact ⟨ev, List.mem_append_left _ hev, hreq⟩

/-- A message that passes the checks and cannot be decrypted is handled as it was received. -/
theorem exists_handled_run (topic : String) {k : Key} {text : String} (hadm : self.Admitted m k s)
    (hraise : self.cipher.decrypt_payload m.payload = .error text) :
    ∃ tr s' r, Co.Run (fun _ _ => True) (self.consume_one topic m) s tr s' r ∧
      ∃ ev ∈ tr, ev.req = .handle_message m := by
  have hopened : self.opened m = m := by
    unfold opened
    rw [hraise]
  have hrun := Co.run_exec (R := fun _ _ => True) (fun _ => trivial) (sample_answer (.ok none))
    (self.consume_one topic m) s
  have hans := Co.exec_ans (sample_answer (.ok none)) (self.consume_one topic m) s
  refine ⟨_, _, _, hrun, ?_⟩
  obtain ⟨r', -, hp⟩ := (run_consume_one hrun).of_admitted hadm
  rw [hopened] at hp
  rcases run_with_sem hp with ⟨-, hone⟩ | ⟨-, ans, st, rest, htr, -, hrest⟩
  · exact handler_invoked hone
  rw [htr] at hans ⊢
  rcases hrest with ⟨e, rfl, -⟩ | ⟨-, hone⟩
  · cases hans _ List.mem_cons_self
  · obtain ⟨ev, hev, hreq⟩ := handler_invoked hone
    exact ⟨ev, List.mem_cons_of_mem _ hev, hreq⟩

/-- **When the handler sees only what was decrypted**: the message is dropped before its payload is
decrypted, or `decrypt_payload` returns. -/
theorem failsClosed_iff :
    self.FailsClosed topic m s ↔
      (¬ ∃ k, self.Admitted m k s) ∨ ∃ payload, self.cipher.decrypt_payload m.payload = .ok payload := by
  constructor
  · intro h
    by_cases hadm : ∃ k, self.Admitted m k s
    · obtain ⟨k, hadm⟩ := hadm
      cases hd : self.cipher.decrypt_payload m.payload with
      | ok payload => exact .inr ⟨payload, rfl⟩
      | error text =>
        obtain ⟨tr, s', r, hrun, ev, hev, hreq⟩ := exists_handled_run topic hadm hd
        obtain ⟨payload, hpayload, -⟩ := h tr s' r hrun ev hev m hreq
        rw [hd] at hpayload
        cases hpayload
    · exact .inl hadm
  · intro hcond tr s' r hrun ev hev m' hreq
    have hopened : ∀ {payload}, self.cipher.decrypt_payload m.payload = .ok payload →
        self.opened m = { m with payload } := by
      intro payload hp
      unfold opened
      rw [hp]
    cases run_consume_one hrun with
    | unknown =>
      rw [List.mem_singleton] at hev
      subst hev
      cases hreq
    | admitted hadm hp =>
      obtain ⟨payload, hpayload⟩ := hcond.resolve_left fun h => h ⟨_, hadm⟩
      refine ⟨payload, hpayload, ?_⟩
      rw [← hopened hpayload]
      rcases run_with_sem hp with ⟨-, hone⟩ | ⟨-, ans, st, rest, rfl, -, hrest⟩
      · exact handled_eq hone ev hev m' hreq
      rcases List.mem_cons.mp hev with rfl | hev
      · cases hreq
      rcases hrest with ⟨e, -, rfl, -⟩ | ⟨-, hone⟩
      · cases hev
      · exact handled_eq hone ev hev m' hreq
    | _ => cases hev

/-- An agent whose cipher is enabled. -/
def encrypting_agent : Agent := { sample_agent 3 with cipher := ⟨sample_lib, some []⟩ }

/-- A task whose payload is marked as encrypted, without a ciphertext. -/
def marked_task : Message := { sample_task with payload := .obj [("_encrypted", .bool true)] }

/-- The cipher is enabled, and the payload is marked as encrypted and holds no ciphertext: the handler
gets it as it is. -/
theorem undecrypted_handled :
    ¬ ∀ (self : Agent) (topic : String) (m : Message) (s : AgentState),
      self.cipher.enabled = true → PayloadCipher.marked m.payload = true →
      self.FailsClosed topic m s := by
  intro h
  have hadm : encrypting_agent.Admitted marked_task (.str "0011223344556677") (AgentState.started 0) :=
    ⟨rfl, by decide, rfl, rfl, by decide +kernel, by decide⟩
  obtain ⟨tr, s', r, hrun, ev, hev, hreq⟩ := exists_handled_run "t" hadm rfl
  obtain ⟨payload, hpayload, -⟩ := h encrypting_agent "t" marked_task _ rfl rfl _ _ _ hrun ev hev _ hreq
  cases hpayload

end Agent

end Aqap
