import Aqap.Agent.Base

/-!
# Runs of the agent's methods

What a run of each method goes through, one lemma for each method: its events, and how it ends. The
lemmas of the callers use those of the callees.

* `run_process_one`: the handler and the replies, then the failure path if they raised, then the
  acknowledgement of the `finally`.
* `run_consume_one`: the ways through an iteration of `_consume_loop`, most of which drop the message.
-/

namespace Aqap

open Py Aqap.Core Async

variable {R : AgentState → AgentState → Prop} {s s' : AgentState} {tr : List AgentEvent}

/-- The id that `ack_last` acknowledges. -/
def AgentState.ack_id (s : AgentState) : Option TransportId := s.last_msg_id.filter (·.truthy)

namespace Agent

variable {self : Agent} {m : Message} {topic : String}

/-! ## Acknowledging and dead letters -/

theorem run_fresh_bind {α : Type} {f : Fresh → AgentCo α} {r : Except Exc α} :
    Co.Run R (self.fresh >>= f) s tr s' r ↔
      Co.Run R (f (self.rt.fresh s.made s.clock)) { s with made := s.made + 1 } tr s' r := Iff.rfl

theorem run_publish_bind {α : Type} {msg : Message} {f : Unit → AgentCo α} {r : Except Exc α} :
    Co.Run R (publish topic msg >>= f) s tr s' r ↔ ∃ (ans : Except Exc Unit) (st : AgentState)
      (rest : List AgentEvent), tr = ⟨.publish topic msg, ans, st⟩ :: rest ∧ R s st ∧
        ((∃ e, ans = .error e ∧ rest = [] ∧ s' = st ∧ r = .error e) ∨
          (ans = .ok () ∧ Co.Run R (f ()) st rest s' r)) := by
  refine Co.run_call_bind.trans ?_
  refine exists_congr fun ans => exists_congr fun st => exists_congr fun rest => ?_
  refine and_congr_right fun _ => and_congr_right fun _ => or_congr_right ?_
  exact ⟨fun ⟨_, ha, h⟩ => ⟨ha, h⟩, fun ⟨ha, h⟩ => ⟨_, ha, h⟩⟩

theorem run_ack_last {r : Except Exc Unit} (h : Co.Run R (ack_last topic) s tr s' r) :
    (∃ id, s.ack_id = some id ∧ tr = [⟨.ack topic id s.last_group, r, s'⟩] ∧ R s s') ∨
      (s.ack_id = none ∧ tr = [] ∧ s' = s ∧ r = .ok ()) := by
  unfold ack_last at h
  rw [Co.run_read_bind, Co.run_read_bind] at h
  show (∃ id, s.last_msg_id.filter _ = some id ∧ _) ∨ (s.last_msg_id.filter _ = none ∧ _)
  cases hid : s.last_msg_id.filter (·.truthy) with
  | none =>
    rw [hid] at h
    exact .inr ⟨rfl, h⟩
  | some id =>
    rw [hid] at h
    exact .inl ⟨id, rfl, Co.run_call.mp h⟩

/-- A run of `ack_last` acknowledges the last id, if there is one. -/
theorem run_ack_last_iff {id : TransportId} (hid : s.ack_id = some id) {r : Except Exc Unit} :
    Co.Run R (ack_last topic) s tr s' r ↔ tr = [⟨.ack topic id s.last_group, r, s'⟩] ∧ R s s' := by
  have hid' : s.last_msg_id.filter (·.truthy) = some id := hid
  unfold ack_last
  rw [Co.run_read_bind, Co.run_read_bind, hid']
  exact Co.run_call

/-- A message that carries the dead letter record of `m` after `n` failures. -/
def CarriesDeadLetter (m : Message) (n : Nat) (msg : Message) : Prop :=
  ∃ record, msg.payload = .obj record ∧ record.lookup "original_message" = some (.obj m.to_dict) ∧
    record.lookup "retry_count" = some (.int n)

/-- The record tells the count. -/
theorem CarriesDeadLetter.count_eq {m' : Message} {n n' : Nat} {msg : Message}
    (h : CarriesDeadLetter m n msg) (h' : CarriesDeadLetter m' n' msg) : n = n' := by
  obtain ⟨record, hpayload, -, hcount⟩ := h
  obtain ⟨record', hpayload', -, hcount'⟩ := h'
  cases hpayload.symm.trans hpayload'
  cases hcount.symm.trans hcount'
  rfl

/-- No publication of a dead letter raises. -/
def Accepted (tr : List AgentEvent) : Prop :=
  ∀ msg e st, (⟨.publish DLQ_TOPIC msg, .error e, st⟩ : AgentEvent) ∉ tr

theorem carriesDeadLetter_dlq_message (fresh : Fresh) (error : String) (n : Nat)
    (failed_at : String) : CarriesDeadLetter m n (self.dlq_message fresh m error n failed_at) :=
  ⟨_, rfl, rfl, rfl⟩

/-- A run of `dead_letter`: the record is published, and if that returns, the last id is
acknowledged. -/
theorem run_dead_letter {error : String} {n : Nat} {r : Except Exc Unit}
    (h : Co.Run R (self.dead_letter m error n topic) s tr s' r) :
    ∃ msg ans st rest, tr = ⟨.publish DLQ_TOPIC msg, ans, st⟩ :: rest ∧ CarriesDeadLetter m n msg ∧
      R { s with made := s.made + 1 } st ∧
      ((∃ e, ans = .error e ∧ rest = [] ∧ s' = st ∧ r = .error e) ∨
        (ans = .ok () ∧ Co.Run R (ack_last topic)
          { st with retry_counts := st.retry_counts.pop (self.msg_key m) } rest s' r)) := by
  unfold dead_letter at h
  rw [Co.run_read_bind, run_fresh_bind, run_publish_bind] at h
  obtain ⟨ans, st, rest, rfl, hR, h⟩ := h
  exact ⟨_, ans, st, rest, rfl, carriesDeadLetter_dlq_message .., hR, h⟩

/-- A run of `handle_failure`: below the limit it only counts the failure, at the limit it publishes
the dead letter. -/
theorem run_handle_failure {error : String} {r : Except Exc Bool}
    (h : Co.Run R (self.handle_failure m error topic) s tr s' r) :
    (self.failures m s + 1 < self.max_retries ∧ tr = [] ∧ r = .ok false ∧ s' =
      { s with retry_counts := s.retry_counts.set (self.msg_key m) (self.failures m s + 1) }) ∨
    (self.max_retries ≤ self.failures m s + 1 ∧ ∃ r', r = r'.map (fun _ => true) ∧
      Co.Run R (self.dead_letter m error (self.failures m s + 1) topic)
        { s with retry_counts := s.retry_counts.set (self.msg_key m) (self.failures m s + 1) }
        tr s' r') := by
  unfold handle_failure at h
  rw [Co.run_read_bind, Co.run_update_bind] at h
  split at h
  · rename_i hle
    obtain ⟨r', h', rfl⟩ := Co.run_bind_pure.mp h
    exact .inr ⟨by exact_mod_cast hle, r', rfl, h'⟩
  · rename_i hlt
    obtain ⟨rfl, rfl, rfl⟩ := h
    exact .inl ⟨by push_cast at hlt; omega, rfl, rfl, rfl⟩

/-! ## Replies -/

/-- The event publishes the reply to `m` on its topic, with the payload that the cipher made. -/
def Sent (self : Agent) (m reply : Message) (ev : AgentEvent) : Prop :=
  ∃ topic payload n st, self.reply_topic m reply = .ok topic ∧
    self.cipher.encrypt_payload n reply.payload = .ok payload ∧
    ev = ⟨.publish topic { reply with payload }, .ok (), st⟩

/-- The reply to `m` has no topic, or its payload cannot be encrypted. -/
def Unsendable (self : Agent) (m reply : Message) : Prop :=
  ∃ text, (self.reply_topic m reply).bind (fun _ => self.cipher.encrypt_payload 0 reply.payload) =
    .error text

/-- The replies up to `failed` were published and `failed` was not: it cannot be sent, or publishing it
raised. -/
def SendFailed (self : Agent) (m failed : Message) (e : Exc) (s' : AgentState)
    (last : List AgentEvent) : Prop :=
  (last = [] ∧ (∃ text, e = .error text) ∧ self.Unsendable m failed) ∨
    ∃ topic payload, self.reply_topic m failed = .ok topic ∧
      last = [⟨.publish topic { failed with payload }, .error e, s'⟩]

theorem Sent.not_unsendable {reply : Message} {ev : AgentEvent} (h : self.Sent m reply ev) :
    ¬ self.Unsendable m reply := by
  obtain ⟨topic, payload, n, st, ht, hp, -⟩ := h
  rintro ⟨text, htext⟩
  rw [ht] at htext
  have herr := PayloadCipher.encrypt_payload_error htext n
  rw [hp] at herr
  cases herr

theorem run_publish_reply {reply : Message} {r : Except Exc Unit}
    (h : Co.Run R (self.publish_reply m reply) s tr s' r) :
    (r = .ok () ∧ ∃ ev, tr = [ev] ∧ self.Sent m reply ev) ∨
      ∃ e, r = .error e ∧ self.SendFailed m reply e s' tr := by
  unfold publish_reply at h
  rcases Co.run_lift_bind.mp h with ⟨text, he, rfl, -, rfl⟩ | ⟨topic, ht, h⟩
  · exact .inr ⟨_, rfl, .inl ⟨rfl, ⟨text, rfl⟩, text, by rw [he]; rfl⟩⟩
  rw [Co.run_read_bind, Co.run_update_bind] at h
  rcases Co.run_lift_bind.mp h with ⟨text, he, rfl, -, rfl⟩ | ⟨payload, hp, h⟩
  · refine .inr ⟨_, rfl, .inl ⟨rfl, ⟨text, rfl⟩, text, ?_⟩⟩
    rw [ht]
    exact PayloadCipher.encrypt_payload_error he 0
  obtain ⟨rfl, -⟩ := Co.run_call.mp h
  cases r with
  | ok u => exact .inl ⟨rfl, _, rfl, topic, payload, s.made, s', ht, hp, rfl⟩
  | error e => exact .inr ⟨e, rfl, .inr ⟨topic, payload, ht, rfl⟩⟩

/-- **A run of `publish_replies`** publishes every reply, or it publishes the replies before one that
fails. -/
theorem run_publish_replies {replies : List Message} {r : Except Exc Unit}
    (h : Co.Run R (self.publish_replies m replies) s tr s' r) :
    (r = .ok () ∧ List.Forall₂ (self.Sent m) replies tr) ∨
      ∃ e done failed rest sent last, r = .error e ∧ replies = done ++ failed :: rest ∧
        tr = sent ++ last ∧ List.Forall₂ (self.Sent m) done sent ∧
        self.SendFailed m failed e s' last := by
  induction replies generalizing s tr with
  | nil =>
    obtain ⟨rfl, rfl, rfl⟩ := h
    exact .inl ⟨rfl, .nil⟩
  | cons reply replies ih =>
    unfold publish_replies at h
    rcases Co.run_bind.mp h with ⟨e, h₁, rfl⟩ | ⟨u, t₁, s₁, t₂, h₁, rfl, h₂⟩
    · rcases run_publish_reply h₁ with ⟨⟨⟩, -⟩ | ⟨e', ⟨⟩, hf⟩
      exact .inr ⟨e, [], reply, replies, [], tr, rfl, rfl, rfl, .nil, hf⟩
    · rcases run_publish_reply h₁ with ⟨-, ev, rfl, hsent⟩ | ⟨e, ⟨⟩, -⟩
      rcases ih h₂ with ⟨rfl, hall⟩ | ⟨e, done, failed, rest, sent, last, rfl, rfl, rfl, hall, hf⟩
      · exact .inl ⟨rfl, .cons hsent hall⟩
      · exact .inr ⟨e, reply :: done, failed, rest, ev :: sent, last, rfl, rfl, rfl,
          .cons hsent hall, hf⟩

/-! ## One attempt -/

/-- The events of a handler that returned, and whose replies were all published. -/
def Handled (self : Agent) (m : Message) (tr : List AgentEvent) : Prop :=
  ∃ replies st sent, tr = ⟨.handle_message m, .ok replies, st⟩ :: sent ∧
    List.Forall₂ (self.Sent m) (replies.getD []) sent

/-- The events of a handler that raised `e`, or one of whose replies could not be published. -/
def AttemptFailed (self : Agent) (m : Message) (e : Exc) (s' : AgentState) (tr : List AgentEvent) :
    Prop :=
  tr = [⟨.handle_message m, .error e, s'⟩] ∨
    ∃ replies st done failed rest sent last, tr = ⟨.handle_message m, .ok replies, st⟩ ::
      (sent ++ last) ∧ replies.getD [] = done ++ failed :: rest ∧
        List.Forall₂ (self.Sent m) done sent ∧ self.SendFailed m failed e s' last

theorem run_handle_bind {α : Type} {f : Option (List Message) → AgentCo α} {r : Except Exc α} :
    Co.Run R (handle_message m >>= f) s tr s' r ↔ ∃ (ans : Except Exc (Option (List Message)))
      (st : AgentState) (rest : List AgentEvent), tr = ⟨.handle_message m, ans, st⟩ :: rest ∧ R s st ∧
        ((∃ e, ans = .error e ∧ rest = [] ∧ s' = st ∧ r = .error e) ∨
          ∃ replies, ans = .ok replies ∧ Co.Run R (f replies) st rest s' r) :=
  Co.run_call_bind

theorem run_attempt {r : Except Exc Unit} (h : Co.Run R (self.attempt m) s tr s' r) :
    (r = .ok () ∧ self.Handled m tr) ∨ ∃ e, r = .error e ∧ self.AttemptFailed m e s' tr := by
  unfold attempt at h
  rw [Co.run_update_bind, run_handle_bind] at h
  obtain ⟨ans, st, rest, rfl, -, ⟨e, rfl, rfl, rfl, rfl⟩ | ⟨replies, rfl, h⟩⟩ := h
  · exact .inr ⟨e, rfl, .inl rfl⟩
  rw [Co.run_update_bind] at h
  rcases Co.run_bind.mp h with ⟨e, hp, rfl⟩ | ⟨u, t₁, s₁, t₂, hp, rfl, rfl, rfl, rfl⟩
  · rcases run_publish_replies hp with ⟨⟨⟩, -⟩ | ⟨e', done, failed, rest, sent, last, ⟨⟩, hr, rfl, hs, hf⟩
    exact .inr ⟨e, rfl, .inr ⟨replies, st, done, failed, rest, sent, last, rfl, hr, hs, hf⟩⟩
  · rcases run_publish_replies hp with ⟨-, hall⟩ | ⟨e, _, _, _, _, _, ⟨⟩, _⟩
    exact .inl ⟨rfl, replies, st, t₁, by rw [List.append_nil], hall⟩

/-! ## Processing a message -/

/-- The state after the message failed below the limit. -/
def failed_once (self : Agent) (m : Message) (s : AgentState) : AgentState :=
  { s with
    current_message := none
    retry_counts := s.retry_counts.set (self.msg_key m) (self.failures m s + 1) }

theorem failures_failed_once : self.failures m (self.failed_once m s) = self.failures m s + 1 := by
  simp [failures, failed_once]

/-- The ways through `_process_one`. -/
inductive Processed (R : AgentState → AgentState → Prop) (self : Agent) (m : Message)
    (topic : String) (s : AgentState) : List AgentEvent → AgentState → Except Exc Bool → Prop
  /-- The attempt succeeded. -/
  | handled {t₁ t₂ : List AgentEvent} {s₁ s' : AgentState} {r : Except Exc Unit} :
      Co.Run R (self.attempt m) s t₁ s₁ (.ok ()) → Co.Run R (ack_last topic) s₁ t₂ s' r →
      Processed R self m topic s (t₁ ++ t₂) s' (r.map fun _ => true)
  /-- The attempt was cancelled; the `finally` runs with `should_ack` still true. -/
  | cancelled {t₁ t₂ : List AgentEvent} {s₁ s' : AgentState} {r : Except Exc Unit} :
      Co.Run R (self.attempt m) s t₁ s₁ (.error .cancelled) →
      Co.Run R (ack_last topic) s₁ t₂ s' r →
      Processed R self m topic s (t₁ ++ t₂) s' (r.bind fun _ => .error .cancelled)
  /-- The attempt failed below the limit. -/
  | retried {t₁ : List AgentEvent} {s₁ : AgentState} {text : String} :
      Co.Run R (self.attempt m) s t₁ s₁ (.error (.error text)) →
      self.failures m s₁ + 1 < self.max_retries →
      Processed R self m topic s t₁ (self.failed_once m s₁) (.ok false)
  /-- The attempt failed at the limit. However the dead letter ends, the `finally` acknowledges. -/
  | exhausted {t₁ t₂ t₃ : List AgentEvent} {s₁ s₂ s' : AgentState} {text : String}
      {r₂ r : Except Exc Unit} :
      Co.Run R (self.attempt m) s t₁ s₁ (.error (.error text)) →
      self.max_retries ≤ self.failures m s₁ + 1 →
      Co.Run R (self.dead_letter m text (self.failures m s₁ + 1) topic) (self.failed_once m s₁)
        t₂ s₂ r₂ →
      Co.Run R (ack_last topic) s₂ t₃ s' r →
      Processed R self m topic s (t₁ ++ (t₂ ++ t₃)) s' ((r.bind fun _ => r₂).map fun _ => true)

theorem run_process_one {r : Except Exc Bool}
    (h : Co.Run R (self.process_one m topic) s tr s' r) : Processed R self m topic s tr s' r := by
  unfold process_one at h
  obtain ⟨r₀, h₀, rfl⟩ := Co.run_bind_pure.mp h
  obtain ⟨r₁, t₁, s₁, t₂, r₂, hp, rfl, hf, rfl⟩ := Co.run_tryFinally.mp h₀
  unfold process at hp
  rcases Co.run_tryExcept.mp hp with ⟨a, ha, rfl⟩ | ⟨hc, rfl⟩ | ⟨text, ta, sa, tb, ha, rfl, hb⟩
  · obtain ⟨r, hr, heq⟩ := Co.run_bind_pure.mp ha
    cases r with
    | error e => cases heq
    | ok u =>
      cases heq
      have := Processed.handled hr hf
      cases r₂ <;> exact this
  · obtain ⟨r, hr, heq⟩ := Co.run_bind_pure.mp hc
    cases r with
    | ok u => cases heq
    | error e =>
      cases heq
      have := Processed.cancelled hr hf
      cases r₂ <;> exact this
  · obtain ⟨r, hr, heq⟩ := Co.run_bind_pure.mp ha
    cases r with
    | ok u => cases heq
    | error e =>
      cases heq
      unfold recover at hb
      rw [Co.run_update_bind] at hb
      obtain ⟨r', hb', rfl⟩ := Co.run_bind_pure.mp hb
      rcases run_handle_failure hb' with ⟨hlt, rfl, rfl, rfl⟩ | ⟨hle, r'', rfl, hd⟩
      · obtain ⟨rfl, rfl, rfl⟩ : t₂ = [] ∧ s' = _ ∧ r₂ = .ok () := hf
        have hret : Processed R self m topic s ta (self.failed_once m sa) (.ok false) :=
          .retried hr hlt
        rwa [List.append_nil, List.append_nil]
      · have hf' : Co.Run R (ack_last topic) s₁ t₂ s' r₂ := by
          cases r'' <;> exact hf
        rw [List.append_assoc]
        have := Processed.exhausted hr hle hd hf'
        cases r'' <;> cases r₂ <;> exact this

/-! ## One iteration of the loop -/

/-- Decryption changes nothing that the retry count is kept for. -/
@[simp] theorem msg_key_opened : self.msg_key (self.opened m) = self.msg_key m := by
  unfold opened
  split <;> rfl

@[simp] theorem failures_opened : self.failures (self.opened m) = self.failures m := by
  funext s
  unfold failures
  rw [msg_key_opened]

/-- The state in which a message is processed: its id is recorded. -/
def admitted_state (self : Agent) (topic : String) (m : Message) (k : Key) (s : AgentState) :
    AgentState :=
  { self.receive topic m s with processed_ids := s.processed_ids.set k s.clock }

/-- The message passes every check before its payload is decrypted; `k` is the key of its id. -/
structure Admitted (agent : Agent) (m : Message) (k : Key) (s : AgentState) : Prop where
  running : s.running = true
  not_echo : m.source.eq_str agent.agent_id = false
  key : m.message_id.key = .ok k
  not_seen : agent.seen (s.processed_ids.get? k) s.clock = false
  valid : validate_message m.to_dict = .ok []
  known : m.type ≠ .UNKNOWN

/-- The ways through an iteration of `_consume_loop`. -/
inductive Consumed (R : AgentState → AgentState → Prop) (self : Agent) (topic : String)
    (m : Message) (s : AgentState) : List AgentEvent → AgentState → Except Exc Bool → Prop
  | stopped : s.running = false → Consumed R self topic m s [] s (.ok false)
  | echo : s.running = true → m.source.eq_str self.agent_id = true →
      Consumed R self topic m s [] (self.receive topic m s) (.ok true)
  /-- The id is a list or a dict. -/
  | unhashable {text : String} : s.running = true → m.source.eq_str self.agent_id = false →
      m.message_id.key = .error text →
      Consumed R self topic m s [] (self.receive topic m s) (.error (.error text))
  | duplicate {k : Key} : s.running = true → m.source.eq_str self.agent_id = false →
      m.message_id.key = .ok k → self.seen (s.processed_ids.get? k) s.clock = true →
      Consumed R self topic m s [] (self.receive topic m s) (.ok true)
  /-- The version check raised. -/
  | unreadable {k : Key} {text : String} : s.running = true → m.source.eq_str self.agent_id = false →
      m.message_id.key = .ok k → self.seen (s.processed_ids.get? k) s.clock = false →
      validate_message m.to_dict = .error text →
      Consumed R self topic m s [] (self.admitted_state topic m k s) (.error (.error text))
  | invalid {k : Key} {errors : List String} : s.running = true →
      m.source.eq_str self.agent_id = false → m.message_id.key = .ok k →
      self.seen (s.processed_ids.get? k) s.clock = false →
      validate_message m.to_dict = .ok errors → errors ≠ [] →
      Consumed R self topic m s [] (self.admitted_state topic m k s) (.ok true)
  | unknown {k : Key} {dest : String} {err : Message} {s' : AgentState} {r : Except Exc Unit} :
      s.running = true → m.source.eq_str self.agent_id = false → m.message_id.key = .ok k →
      self.seen (s.processed_ids.get? k) s.clock = false →
      validate_message m.to_dict = .ok [] → m.type = .UNKNOWN →
      R { self.admitted_state topic m k s with made := s.made + 1 } s' →
      Consumed R self topic m s [⟨.publish dest err, r, s'⟩] s' (r.map fun _ => true)
  | admitted {k : Key} {tr : List AgentEvent} {s' : AgentState} {r : Except Exc Bool} :
      self.Admitted m k s →
      Co.Run R (self.with_sem (self.process_one (self.opened m) topic))
        (self.admitted_state topic m k s) tr s' r →
      Consumed R self topic m s tr s' (r.map fun _ => true)

theorem run_consume_one {r : Except Exc Bool}
    (h : Co.Run R (self.consume_one topic m) s tr s' r) : Consumed R self topic m s tr s' r := by
  unfold consume_one at h
  rw [Co.run_read_bind] at h
  split at h
  · rename_i hrun
    obtain ⟨rfl, rfl, rfl⟩ := h
    exact .stopped (by simpa using hrun)
  rename_i hrun
  have hrun : s.running = true := by simpa using hrun
  rw [Co.run_update_bind] at h
  split at h
  · rename_i hecho
    obtain ⟨rfl, rfl, rfl⟩ := h
    exact .echo hrun hecho
  rename_i hecho
  rw [Bool.not_eq_true] at hecho
  -- From here on an exception ends the loop.
  unfold deduplicate at h
  rcases Co.run_lift_bind.mp h with ⟨e, hk, rfl, rfl, rfl⟩ | ⟨k, hk, h⟩
  · exact .unhashable hrun hecho hk
  rw [Co.run_read_bind, Co.run_read_bind] at h
  split at h
  · rename_i hseen
    obtain ⟨rfl, rfl, rfl⟩ := h
    exact .duplicate hrun hecho hk hseen
  rename_i hseen
  rw [Bool.not_eq_true] at hseen
  rw [Co.run_update_bind] at h
  unfold check at h
  rcases Co.run_lift_bind.mp h with ⟨e, hv, rfl, rfl, rfl⟩ | ⟨errors, hv, h⟩
  · exact .unreadable hrun hecho hk hseen hv
  split at h
  · rename_i herr
    obtain ⟨rfl, rfl, rfl⟩ := h
    exact .invalid hrun hecho hk hseen hv herr
  rename_i herr
  rw [not_not] at herr
  subst herr
  split at h
  · rename_i hunknown
    unfold reject_unknown at h
    rw [run_fresh_bind] at h
    obtain ⟨r', h', rfl⟩ := Co.run_bind_pure.mp h
    obtain ⟨rfl, hR⟩ := Co.run_call.mp h'
    exact .unknown hrun hecho hk hseen hv hunknown hR
  · rename_i hknown
    unfold accept at h
    obtain ⟨r', h', rfl⟩ := Co.run_bind_pure.mp h
    exact .admitted ⟨hrun, hecho, hk, hseen, hv, hknown⟩ h'

/-- The iteration of a message that passes the checks processes it. -/
theorem Consumed.of_admitted {k : Key} {r : Except Exc Bool} (hadm : self.Admitted m k s)
    (h : Consumed R self topic m s tr s' r) : ∃ r', r = r'.map (fun _ => true) ∧
      Co.Run R (self.with_sem (self.process_one (self.opened m) topic))
        (self.admitted_state topic m k s) tr s' r' := by
  cases h with
  | stopped hrun => cases hadm.running.symm.trans hrun
  | echo _ hecho => cases hadm.not_echo.symm.trans hecho
  | unhashable _ _ hk => cases hadm.key.symm.trans hk
  | duplicate _ _ hk hseen =>
    cases hadm.key.symm.trans hk
    cases hadm.not_seen.symm.trans hseen
  | unreadable _ _ _ _ hv => cases hadm.valid.symm.trans hv
  | invalid _ _ _ _ hv herr =>
    cases hadm.valid.symm.trans hv
    exact absurd rfl herr
  | unknown _ _ _ _ _ hunknown _ => exact absurd hunknown hadm.known
  | admitted hadm' hrun =>
    cases hadm.key.symm.trans hadm'.key
    exact ⟨_, rfl, hrun⟩

/-- A run inside the semaphore: it is acquired first, when there is one. -/
theorem run_with_sem {α : Type} {c : AgentCo α} {r : Except Exc α}
    (h : Co.Run R (self.with_sem c) s tr s' r) :
    (self.sem = false ∧ Co.Run R c s tr s' r) ∨
      (self.sem = true ∧ ∃ (ans : Except Exc Unit) (st : AgentState) (rest : List AgentEvent),
        tr = ⟨.acquire, ans, st⟩ :: rest ∧ R s st ∧
          ((∃ e, ans = .error e ∧ rest = [] ∧ s' = st ∧ r = .error e) ∨
            (ans = .ok () ∧ Co.Run R c st rest s' r))) := by
  unfold with_sem at h
  split at h
  · rename_i hsem
    obtain ⟨ans, st, rest, rfl, hR, herr | ⟨_, rfl, hc⟩⟩ := Co.run_call_bind.mp h
    · exact .inr ⟨hsem, ans, st, rest, rfl, hR, .inl herr⟩
    · exact .inr ⟨hsem, _, st, rest, rfl, hR, .inr ⟨rfl, hc⟩⟩
  · rename_i hsem
    exact .inl ⟨by simpa using hsem, h⟩

end Agent

/-! ## A sample agent -/

/-- A runtime in which every identifier and time is the same. -/
def sample_runtime : Runtime where
  repr _ := "1.5"
  uuid4_hex _ := "00112233445566778899aabbccddeeff"
  isoformat _ := "2026-01-01T00:00:00+00:00"

/-- An encryption that prefixes the nonce, on the empty object. -/
def sample_lib : CipherLib where
  dumps _ := .ok [0x7b, 0x7d]
  loads _ := .ok (.obj [])
  b64encode _ := ""
  b64decode v := if v.eq_str "" then .ok [] else .error "Incorrect padding"
  urandom _ := []
  encrypt _ nonce data := nonce ++ data
  decrypt _ _ _ := .error ""

def sample_agent (max_retries : Int) : Agent where
  rt := sample_runtime
  cipher := ⟨sample_lib, none⟩
  agent_id := "probe-1"
  max_retries

/-- A task, as it was delivered with the transport id `1-0`. -/
def sample_task : Message :=
  { Message.new ⟨"0011223344556677", "8899aabbccddeeff", "2026-01-01T00:00:00+00:00"⟩
      .TASK_DISPATCH (.str "client") [] with
    transport_msg_id := some (.id "1-0") }

/-- The transport answers every call, and the handler ends with `outcome`. -/
def sample_answer (outcome : Except Exc (Option (List Message))) :
    (q : Request) → Except Exc q.Answer
  | .publish _ _ => .ok ()
  | .ack _ _ _ => .ok ()
  | .handle_message _ => outcome
  | .acquire => .ok ()

/-- The state of an agent that received `sample_task`. -/
def sample_state : AgentState :=
  { AgentState.started 0 with
    last_topic := Topic.AGENT_PROBE, last_group := "aqap-default", last_msg_id := some (.id "1-0") }

end Aqap
