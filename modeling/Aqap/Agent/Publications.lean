import Aqap.Agent.EarlyAck
import Aqap.Agent.Stages

/-!
# What an iteration publishes

* `run_process_one_handler`: the handler comes first, then its replies, then what disposes of the
  message.
* `Consumption.Calls.issued`: an iteration publishes the ERROR for an unknown type, or replies of its
  handler (`IsReply`), or the dead letter of its message after an attempt that raised at the limit.
* `dead_letter_of_raisesAtLimit`: such an attempt is followed by a dead letter.
* `sends_probe`, `sends_judge`, `sends_reporter`: the Reporter alone sends something, its broadcast.
-/

namespace Aqap

open Py Aqap.Core Async

variable {R : AgentState → AgentState → Prop} {s s' : AgentState} {tr : List AgentEvent}

namespace Agent

variable {self : Agent} {m : Message} {topic : String}

/-! ## Replies -/

/-- The message is one of the replies, and its payload is what the cipher made of that of the reply. -/
def IsReply (self : Agent) (m : Message) (replies : List Message) (topic : String)
    (msg : Message) : Prop :=
  ∃ reply ∈ replies, ∃ n payload, self.reply_topic m reply = .ok topic ∧
    self.cipher.encrypt_payload n reply.payload = .ok payload ∧ msg = { reply with payload }

/-- Only replies are published. -/
theorem guarded_isReply {replies : List Message} {rest : List Message} (hsub : rest ⊆ replies) :
    Co.Guarded (fun _ => True) (fun _ _ => True)
      (fun q => ∃ t msg, q = .publish t msg ∧ self.IsReply m replies t msg)
      (self.publish_replies m rest) := by
  induction rest with
  | nil => exact .pure ()
  | cons reply rest ih =>
    have hmem : reply ∈ replies := hsub List.mem_cons_self
    refine .bind (.lift_bind fun t ht => ?_) fun _ => ih fun r hr => hsub (List.mem_cons_of_mem _ hr)
    refine .read_bind fun s _ => .bind (.update fun _ h => ⟨h, trivial⟩) fun _ => ?_
    exact .lift_bind fun payload hp => .call ⟨t, _, rfl, reply, hmem, s.made, payload, ht, hp, rfl⟩

theorem isReply_of_run {replies : List Message} {r : Except Exc Unit}
    (h : Co.Run R (self.publish_replies m replies) s tr s' r) :
    ∀ ev ∈ tr, ∃ t msg, ev.req = .publish t msg ∧ self.IsReply m replies t msg := fun ev hev =>
  (((guarded_isReply fun _ h => h).run (fun _ _ _ h => h) trivial h).2 ev hev).1

/-- If a payload can be encrypted, it can be with any nonce. -/
theorem encrypt_zero {n : Nat} {payload v : Json} (h : self.cipher.encrypt_payload n payload = .ok v) :
    ∃ v, self.cipher.encrypt_payload 0 payload = .ok v := by
  cases h₀ : self.cipher.encrypt_payload 0 payload with
  | ok v => exact ⟨v, rfl⟩
  | error text => cases h.symm.trans (PayloadCipher.encrypt_payload_error h₀ n)

/-- If the first reply can be sent, it is published. -/
theorem first_reply_issued {reply : Message} {replies : List Message} {t : String} {payload : Json}
    {r : Except Exc Unit} (ht : self.reply_topic m reply = .ok t)
    (hp : self.cipher.encrypt_payload 0 reply.payload = .ok payload)
    (h : Co.Run R (self.publish_replies m (reply :: replies)) s tr s' r) :
    ∃ payload, ∃ ev ∈ tr, ev.req = .publish t { reply with payload } := by
  have hsendable : ¬ self.Unsendable m reply := by
    rintro ⟨text, htext⟩
    rw [ht, Except.bind, hp] at htext
    cases htext
  unfold publish_replies at h
  have hreply : ∀ {tr₁ s₁} {r₁ : Except Exc Unit}, Co.Run R (self.publish_reply m reply) s tr₁ s₁ r₁ →
      ∃ payload, ∃ ev ∈ tr₁, ev.req = .publish t { reply with payload } := by
    intro tr₁ s₁ r₁ h₁
    rcases run_publish_reply h₁ with ⟨-, ev, rfl, t', payload, n, st, ht', -, rfl⟩ |
      ⟨e, -, ⟨-, -, hun⟩ | ⟨t', payload, ht', rfl⟩⟩
    · cases ht.symm.trans ht'
      exact ⟨payload, _, List.mem_singleton_self _, rfl⟩
    · exact absurd hun hsendable
    · cases ht.symm.trans ht'
      exact ⟨payload, _, List.mem_singleton_self _, rfl⟩
  rcases Co.run_bind.mp h with ⟨e, h₁, -⟩ | ⟨u, t₁, s₁, t₂, h₁, rfl, -⟩
  · exact hreply h₁
  · obtain ⟨payload, ev, hev, hreq⟩ := hreply h₁
    exact ⟨payload, ev, List.mem_append_left _ hev, hreq⟩

/-- If an untargeted reply has a topic, every reply has one. -/
theorem reply_topic_ok {first : Message} {t : String} (hfirst : first.target.truthy = false)
    (h : self.reply_topic m first = .ok t) (second : Message) :
    ∃ t, self.reply_topic m second = .ok t := by
  rw [reply_topic, hfirst, if_neg Bool.false_ne_true] at h
  unfold reply_topic
  split
  · exact ⟨_, rfl⟩
  · exact ⟨t, h⟩

/-- If the publication of an untargeted reply returned and the next reply can be encrypted, the next reply
is published. -/
theorem second_reply_issued {first second : Message} {replies : List Message} {payload : Json}
    {q : Request} {ans : q.Answer} {st : AgentState} {r : Except Exc Unit}
    (hfirst : first.target.truthy = false)
    (hp : self.cipher.encrypt_payload 0 second.payload = .ok payload)
    (hok : (⟨q, .ok ans, st⟩ : AgentEvent) ∈ tr)
    (h : Co.Run R (self.publish_replies m (first :: second :: replies)) s tr s' r) :
    ∃ t payload, ∃ ev ∈ tr, ev.req = .publish t { second with payload } := by
  unfold publish_replies at h
  rcases Co.run_bind.mp h with ⟨e, h₁, -⟩ | ⟨u, t₁, s₁, t₂, h₁, rfl, h₂⟩
  · -- No publication returned.
    rcases run_publish_reply h₁ with ⟨⟨⟩, -⟩ | ⟨e', -, ⟨rfl, -, -⟩ | ⟨t', p', -, rfl⟩⟩
    · cases hok
    · cases List.mem_singleton.mp hok
  · rcases run_publish_reply h₁ with ⟨-, ev', rfl, t', payload', n, st', ht', -, rfl⟩ | ⟨e, ⟨⟩, -⟩
    obtain ⟨t, ht⟩ := reply_topic_ok hfirst ht' second
    obtain ⟨payload, ev, hev, hreq⟩ := first_reply_issued ht hp h₂
    exact ⟨t, payload, ev, List.mem_append_right _ hev, hreq⟩

/-- If the second reply was published, the publication of the first one returned. -/
theorem first_reply_returned {first second msg : Message} {t : String} {ev : AgentEvent}
    {r : Except Exc Unit} (hev : ev ∈ tr) (hreq : ev.req = .publish t msg) (htype : msg.type ≠ first.type)
    (h : Co.Run R (self.publish_replies m [first, second]) s tr s' r) :
    ∃ t payload st, (⟨.publish t { first with payload }, .ok (), st⟩ : AgentEvent) ∈ tr := by
  unfold publish_replies at h
  rcases Co.run_bind.mp h with ⟨e, h₁, -⟩ | ⟨u, t₁, s₁, t₂, h₁, rfl, h₂⟩
  · rcases run_publish_reply h₁ with ⟨⟨⟩, -⟩ | ⟨e', -, ⟨rfl, -, -⟩ | ⟨t', p', -, rfl⟩⟩
    · cases hev
    · cases List.mem_singleton.mp hev
      cases hreq
      exact absurd rfl htype
  · rcases run_publish_reply h₁ with ⟨-, ev', rfl, t', payload, n, st, -, -, rfl⟩ | ⟨e, ⟨⟩, -⟩
    exact ⟨t', payload, st, List.mem_append_left _ (List.mem_singleton_self _)⟩

/-- An attempt awaits the handler, and then it publishes the replies. -/
theorem run_attempt_handler {r : Except Exc Unit} (h : Co.Run R (self.attempt m) s tr s' r) :
    ∃ outcome st rest, tr = ⟨.handle_message m, outcome, st⟩ :: rest ∧
      ((∃ e, outcome = .error e ∧ rest = []) ∨ ∃ replies s₀ s₁ r₁, outcome = .ok replies ∧
        Co.Run R (self.publish_replies m (replies.getD [])) s₀ rest s₁ r₁) := by
  unfold attempt at h
  rw [Co.run_update_bind, run_handle_bind] at h
  obtain ⟨ans, st, rest, rfl, -, ⟨e, rfl, rfl, rfl, rfl⟩ | ⟨replies, rfl, h⟩⟩ := h
  · exact ⟨_, _, [], rfl, .inl ⟨e, rfl, rfl⟩⟩
  refine ⟨_, st, rest, rfl, .inr ⟨replies, { st with current_message := none }, ?_⟩⟩
  rw [Co.run_update_bind] at h
  rcases Co.run_bind.mp h with ⟨e, hp, -⟩ | ⟨u, t₁, s₁, t₂, hp, rfl, rfl, -⟩
  · exact ⟨s', _, rfl, hp⟩
  · exact ⟨s₁, _, rfl, by rwa [List.append_nil]⟩

/-! ## The dead letter -/

/-- The attempt on the message raised an exception in a state in which the message had failed
`max_retries - 1` times, or more. -/
def RaisesAtLimit (self : Agent) (m : Message) (s : AgentState) (tr : List AgentEvent) : Prop :=
  ∃ t₁ t₂ s₁ text, tr = t₁ ++ t₂ ∧
    Co.Run (fun _ _ => True) (self.attempt m) s t₁ s₁ (.error (.error text)) ∧
    self.max_retries ≤ self.failures m s₁ + 1

/-- The request acknowledges a message, or it publishes the dead letter of `m`. -/
def OfDisposal (self : Agent) (m : Message) : Request → Prop
  | .ack _ _ _ => True
  | .publish t msg => t = DLQ_TOPIC ∧
      ∃ fresh error n failed_at, msg = self.dlq_message fresh m error n failed_at
  | _ => False

theorem ofDisposal_ack_last {r : Except Exc Unit} (h : Co.Run R (ack_last topic) s tr s' r) :
    ∀ ev ∈ tr, ∃ id group, ev.req = .ack topic id group := by
  intro ev hev
  rcases run_ack_last h with ⟨id, -, rfl, -⟩ | ⟨-, rfl, -, -⟩
  · rw [List.mem_singleton] at hev
    subst hev
    exact ⟨id, s.last_group, rfl⟩
  · cases hev

theorem ofDisposal_dead_letter {error : String} {n : Nat} {r : Except Exc Unit}
    (h : Co.Run R (self.dead_letter m error n topic) s tr s' r) :
    ∀ ev ∈ tr, self.OfDisposal m ev.req := by
  have hg : Co.Guarded (fun _ => True) (fun _ _ => True) (self.OfDisposal m)
      (self.dead_letter m error n topic) := by
    refine .read_bind fun s _ => .bind ?_ fun fresh => ?_
    · exact .read_bind fun s _ => .bind (.update fun _ h => ⟨h, trivial⟩) fun _ => .pure _
    refine .bind (.call ⟨rfl, fresh, error, n, _, rfl⟩) fun _ => ?_
    exact .bind (.update fun _ h => ⟨h, trivial⟩) fun _ => guarded_ack_last fun _ _ _ _ _ _ => trivial
  exact fun ev hev => ((hg.run (fun _ _ _ h => h) trivial h).2 ev hev).1

/-- **A run of `_process_one`**: the handler, its replies, and then the events that dispose of the
message; a dead letter only after an attempt that raised at the limit. -/
theorem run_process_one_handler {r : Except Exc Bool}
    (h : Co.Run (fun _ _ => True) (self.process_one m topic) s tr s' r) :
    ∃ outcome st pubs post, tr = ⟨.handle_message m, outcome, st⟩ :: (pubs ++ post) ∧
      ((∃ e, outcome = .error e ∧ pubs = []) ∨ ∃ replies s₀ s₁ r₁, outcome = .ok replies ∧
        Co.Run (fun _ _ => True) (self.publish_replies m (replies.getD [])) s₀ pubs s₁ r₁) ∧
      (∀ ev ∈ post, self.OfDisposal m ev.req) ∧
      ∀ ev ∈ post, ∀ t msg, ev.req = .publish t msg → self.RaisesAtLimit m s tr := by
  -- The acknowledgements after an attempt.
  have hacked : ∀ {t₁ t₂ : List AgentEvent} {s₁ s₂ : AgentState} {r₁ r₂ : Except Exc Unit},
      Co.Run (fun _ _ => True) (self.attempt m) s t₁ s₁ r₁ →
      Co.Run (fun _ _ => True) (ack_last topic) s₁ t₂ s₂ r₂ →
      ∃ outcome st pubs post, t₁ ++ t₂ = ⟨.handle_message m, outcome, st⟩ :: (pubs ++ post) ∧
        ((∃ e, outcome = .error e ∧ pubs = []) ∨ ∃ replies s₀ s₁ r₁, outcome = .ok replies ∧
          Co.Run (fun _ _ => True) (self.publish_replies m (replies.getD [])) s₀ pubs s₁ r₁) ∧
        (∀ ev ∈ post, self.OfDisposal m ev.req) ∧
        ∀ ev ∈ post, ∀ t msg, ev.req = .publish t msg → self.RaisesAtLimit m s (t₁ ++ t₂) := by
    intro t₁ t₂ s₁ s₂ r₁ r₂ ha hf
    obtain ⟨outcome, st, rest, rfl, hrest⟩ := run_attempt_handler ha
    refine ⟨outcome, st, rest, t₂, rfl, hrest, fun ev hev => ?_, fun ev hev t msg hreq => ?_⟩
    · obtain ⟨id, group, hreq⟩ := ofDisposal_ack_last hf ev hev
      rw [hreq]
      trivial
    · obtain ⟨id, group, hack⟩ := ofDisposal_ack_last hf ev hev
      cases hack.symm.trans hreq
  cases run_process_one h with
  | handled ha hf => exact hacked ha hf
  | cancelled ha hf => exact hacked ha hf
  | retried ha _ =>
    obtain ⟨outcome, st, rest, rfl, hrest⟩ := run_attempt_handler ha
    exact ⟨outcome, st, rest, [], by rw [List.append_nil], hrest, fun _ h => (nomatch h),
      fun _ h => nomatch h⟩
  | @exhausted t₁ t₂ t₃ s₁ s₂ _ text r₂ r ha hle hd hf =>
    have hraises : self.RaisesAtLimit m s (t₁ ++ (t₂ ++ t₃)) := ⟨t₁, t₂ ++ t₃, s₁, text, rfl, ha, hle⟩
    obtain ⟨outcome, st, rest, rfl, hrest⟩ := run_attempt_handler ha
    refine ⟨outcome, st, rest, t₂ ++ t₃, rfl, hrest, fun ev hev => ?_, fun _ _ _ _ _ => hraises⟩
    rcases List.mem_append.mp hev with hev | hev
    · exact ofDisposal_dead_letter hd ev hev
    · obtain ⟨id, group, hreq⟩ := ofDisposal_ack_last hf ev hev
      rw [hreq]
      trivial

/-- After an attempt that raised at the limit, a dead letter is published. -/
theorem dead_letter_of_raisesAtLimit {r : Except Exc Bool}
    (h : Co.Run (fun _ _ => True) (self.process_one m topic) s tr s' r)
    (hraises : self.RaisesAtLimit m s tr) :
    ∃ msg n ans st, (⟨.publish DLQ_TOPIC msg, ans, st⟩ : AgentEvent) ∈ tr ∧
      CarriesDeadLetter m n msg := by
  obtain ⟨t, u, s₀, text₀, heq, ha₀, hle₀⟩ := hraises
  cases run_process_one h with
  | handled ha hf =>
    obtain ⟨-, -, ⟨⟩⟩ := ha.unique ha₀ heq
  | cancelled ha hf =>
    obtain ⟨-, -, ⟨⟩⟩ := ha.unique ha₀ heq
  | retried ha hlt =>
    obtain ⟨-, rfl, -⟩ := ha.unique ha₀ ((List.append_nil _).trans heq)
    omega
  | exhausted ha hle hd hf =>
    obtain ⟨msg, ans, st, rest, rfl, hcarries, -⟩ := run_dead_letter hd
    exact ⟨msg, _, ans, st, by simp, hcarries⟩

/-! ## One iteration -/

/-- The message passes every check but its type is unknown. -/
structure Rejects (agent : Agent) (m : Message) (k : Key) (s : AgentState) : Prop where
  running : s.running = true
  not_echo : m.source.eq_str agent.agent_id = false
  key : m.message_id.key = .ok k
  not_seen : agent.seen (s.processed_ids.get? k) s.clock = false
  valid : validate_message m.to_dict = .ok []
  unknown : m.type = .UNKNOWN

/-- `_process_one` starts in the state `s₁`, with the events `tr₁`, after the semaphore was entered. -/
inductive Entered (self : Agent) (s : AgentState) :
    List AgentEvent → AgentState → List AgentEvent → Prop
  | free {tr : List AgentEvent} : self.sem = false → Entered self s tr s tr
  | acquired {s₁ : AgentState} {tr₁ : List AgentEvent} : self.sem = true →
      Entered self s (⟨.acquire, .ok (), s₁⟩ :: tr₁) s₁ tr₁

/-- The message is admitted in the state `s`, and `_process_one` starts in the state `s₁` with the events
`tr₁`. -/
def Processes (self : Agent) (topic : String) (m : Message) (s : AgentState) (tr : List AgentEvent)
    (s₁ : AgentState) (tr₁ : List AgentEvent) : Prop :=
  ∃ k, self.Admitted m k s ∧ self.Entered (self.admitted_state topic m k s) tr s₁ tr₁

theorem Entered.subset {s₁ : AgentState} {tr₁ : List AgentEvent} (h : self.Entered s tr s₁ tr₁) :
    ∀ ev ∈ tr₁, ev ∈ tr := by
  cases h with
  | free => exact fun _ h => h
  | acquired => exact fun _ h => List.mem_cons_of_mem _ h

/-- Only the semaphore comes before `_process_one`. -/
theorem Entered.mem_of_ne {s₁ : AgentState} {tr₁ : List AgentEvent} (h : self.Entered s tr s₁ tr₁)
    {ev : AgentEvent} (hev : ev ∈ tr) (hne : ev.req ≠ .acquire) : ev ∈ tr₁ := by
  cases h with
  | free => exact hev
  | acquired =>
    rcases List.mem_cons.mp hev with rfl | hev
    · exact absurd rfl hne
    · exact hev

/-- A message of an unknown type is answered with an ERROR. -/
theorem run_reject_unknown {r : Except Exc Bool} (h : Co.Run R (self.reject_unknown m) s tr s' r) :
    ∃ t ans, tr =
      [⟨.publish t (self.unknown_type_error (self.rt.fresh s.made s.clock) m), ans, s'⟩] := by
  unfold reject_unknown at h
  rw [run_fresh_bind] at h
  obtain ⟨r', h', -⟩ := Co.run_bind_pure.mp h
  exact ⟨_, r', (Co.run_call.mp h').1⟩

theorem run_consume_one_rejects {k : Key} {r : Except Exc Bool} (hrej : self.Rejects m k s)
    (h : Co.Run R (self.consume_one topic m) s tr s' r) :
    Co.Run R (self.reject_unknown m) (self.admitted_state topic m k s) tr s' r := by
  have hseen : self.seen ((self.receive topic m s).processed_ids.get? k)
      (self.receive topic m s).clock = false := hrej.not_seen
  unfold consume_one at h
  rw [Co.run_read_bind, hrej.running, Bool.not_true, if_neg Bool.false_ne_true, Co.run_update_bind,
    hrej.not_echo, if_neg Bool.false_ne_true, deduplicate, hrej.key] at h
  change Co.Run R (Co.read _ >>= _) _ _ _ _ at h
  rw [Co.run_read_bind, Co.run_read_bind, hseen, if_neg Bool.false_ne_true, Co.run_update_bind, check,
    hrej.valid] at h
  change Co.Run R (if _ then _ else _) _ _ _ _ at h
  rwa [if_pos hrej.unknown] at h

/-- **What an iteration awaits**: the ERROR for a message of an unknown type; the semaphore; or what
`_process_one` awaits. -/
theorem run_consume_one_events {r : Except Exc Bool}
    (h : Co.Run (fun _ _ => True) (self.consume_one topic m) s tr s' r) : ∀ ev ∈ tr,
      (∃ k t, self.Rejects m k s ∧
        ev.req = .publish t (self.unknown_type_error (self.rt.fresh s.made s.clock) m)) ∨
      ev.req = .acquire ∨
      ∃ s₁ tr₁ r₁, self.Processes topic m s tr s₁ tr₁ ∧ ev ∈ tr₁ ∧
        Co.Run (fun _ _ => True) (self.process_one (self.opened m) topic) s₁ tr₁ s' r₁ := by
  intro ev hev
  have hrun := h
  cases run_consume_one h with
  | unknown hrunning hecho hk hseen hv hunknown hR =>
    have hrej : self.Rejects m _ s := ⟨hrunning, hecho, hk, hseen, hv, hunknown⟩
    obtain ⟨t, ans, htr⟩ := run_reject_unknown (run_consume_one_rejects hrej hrun)
    rw [htr, List.mem_singleton] at hev
    subst hev
    exact .inl ⟨_, t, hrej, rfl⟩
  | admitted hadm hp =>
    right
    rcases run_with_sem hp with ⟨hsem, hone⟩ | ⟨hsem, ans, st, rest, rfl, -, hrest⟩
    · exact .inr ⟨_, _, _, ⟨_, hadm, .free hsem⟩, hev, hone⟩
    rcases List.mem_cons.mp hev with rfl | hmem
    · exact .inl rfl
    rcases hrest with ⟨e, -, rfl, -⟩ | ⟨rfl, hone⟩
    · cases hmem
    · exact .inr ⟨_, _, _, ⟨_, hadm, .acquired hsem⟩, hmem, hone⟩
  | _ => cases hev

/-- If the message is processed, `_process_one` runs. -/
theorem Processes.run {s₁ : AgentState} {tr₁ : List AgentEvent} {r : Except Exc Bool}
    (hp : self.Processes topic m s tr s₁ tr₁)
    (h : Co.Run R (self.consume_one topic m) s tr s' r) :
    ∃ r₁, Co.Run R (self.process_one (self.opened m) topic) s₁ tr₁ s' r₁ := by
  obtain ⟨k, hadm, hentered⟩ := hp
  obtain ⟨r₁, -, hsem⟩ := (run_consume_one h).of_admitted hadm
  cases hentered with
  | free hfree =>
    rcases run_with_sem hsem with ⟨-, hone⟩ | ⟨hsem', -⟩
    · exact ⟨r₁, hone⟩
    · cases hfree.symm.trans hsem'
  | acquired hsem' =>
    rcases run_with_sem hsem with ⟨hfree, -⟩ | ⟨-, ans, st, rest, heq, -, hrest⟩
    · cases hsem'.symm.trans hfree
    obtain ⟨hev, rfl⟩ := List.cons.inj heq
    cases hev
    rcases hrest with ⟨e, ⟨⟩, -⟩ | ⟨-, hone⟩
    exact ⟨r₁, hone⟩

/-- Decryption changes the payload only. -/
theorem opened_eq (self : Agent) (m : Message) :
    self.opened m = { m with payload := (self.opened m).payload } := by
  unfold opened
  split <;> rfl

@[simp] theorem type_opened : (self.opened m).type = m.type := by rw [opened_eq]

@[simp] theorem source_opened : (self.opened m).source = m.source := by rw [opened_eq]

@[simp] theorem message_id_opened : (self.opened m).message_id = m.message_id := by rw [opened_eq]

@[simp] theorem target_opened : (self.opened m).target = m.target := by rw [opened_eq]

@[simp] theorem topic_opened : (self.opened m).topic = m.topic := by rw [opened_eq]

@[simp] theorem trace_id_opened : (self.opened m).trace_id = m.trace_id := by rw [opened_eq]

@[simp] theorem correlation_id_opened : (self.opened m).correlation_id = m.correlation_id := by
  rw [opened_eq]

theorem determine_reply_topic_opened :
    self.determine_reply_topic (self.opened m) = self.determine_reply_topic m := by
  unfold determine_reply_topic
  rw [topic_opened, source_opened]

end Agent

namespace Consumption

variable {agent : Agent} {handler : Handler} {c : Consumption agent handler} {calls : List AgentEvent}

/-- The handler runs on the decrypted message, once. -/
theorem Calls.handled (h : c.Calls calls) {m : Message} {r : Except Exc (Option (List Message))}
    {st : AgentState} (hev : (⟨.handle_message m, r, st⟩ : AgentEvent) ∈ calls) :
    m = agent.opened c.message ∧ ∃ s₁ tr₁ pubs post,
      agent.Processes c.topic c.message c.start calls s₁ tr₁ ∧
        tr₁ = ⟨.handle_message m, r, st⟩ :: (pubs ++ post) ∧
        ((∃ e, r = .error e ∧ pubs = []) ∨ ∃ replies s₀ s₂ r₂, r = .ok replies ∧
          Co.Run (fun _ _ => True) (agent.publish_replies m (replies.getD [])) s₀ pubs s₂ r₂) ∧
        ∀ ev ∈ post, agent.OfDisposal m ev.req := by
  rcases Agent.run_consume_one_events h.run _ hev with
    ⟨k, t, -, ⟨⟩⟩ | ⟨⟨⟩⟩ | ⟨s₁, tr₁, r₁, hp, hmem, hrun⟩
  obtain ⟨outcome, st', pubs, post, rfl, hpubs, hpost, -⟩ := Agent.run_process_one_handler hrun
  rcases List.mem_cons.mp hmem with hhead | hmem
  · cases hhead
    exact ⟨rfl, s₁, _, pubs, post, hp, rfl, hpubs, hpost⟩
  rcases List.mem_append.mp hmem with hmem | hmem
  · rcases hpubs with ⟨e, -, rfl⟩ | ⟨replies, s₀, s₂, r₂, -, hpub⟩
    · cases hmem
    · obtain ⟨t, msg, ⟨⟩, -⟩ := Agent.isReply_of_run hpub _ hmem
  · exact (hpost _ hmem).elim

/-- **What an iteration publishes itself.** -/
theorem Calls.issued (h : c.Calls calls) {t : String} {msg : Message} {ans : Except Exc Unit}
    {st : AgentState} (hev : (⟨.inl (.publish t msg), ans, st⟩ : AwaitEvent) ∈ c.events) :
    (∃ k, agent.Rejects c.message k c.start ∧
      msg = agent.unknown_type_error (agent.rt.fresh c.start.made c.start.clock) c.message) ∨
    ∃ s₁ tr₁, agent.Processes c.topic c.message c.start calls s₁ tr₁ ∧
      ((∃ replies st', (⟨.handle_message (agent.opened c.message), .ok replies, st'⟩ : AgentEvent) ∈ calls ∧
          agent.IsReply (agent.opened c.message) (replies.getD []) t msg) ∨
        (t = DLQ_TOPIC ∧ (∃ fresh error n failed_at,
          msg = agent.dlq_message fresh (agent.opened c.message) error n failed_at) ∧
          agent.RaisesAtLimit (agent.opened c.message) s₁ tr₁)) := by
  rw [h.inl_mem_iff (by rintro m ⟨⟩)] at hev
  rcases Agent.run_consume_one_events h.run _ hev with
    ⟨k, t', hrej, heq⟩ | ⟨⟨⟩⟩ | ⟨s₁, tr₁, r₁, hp, hmem, hrun⟩
  · cases heq
    exact .inl ⟨k, hrej, rfl⟩
  refine .inr ⟨s₁, tr₁, hp, ?_⟩
  have hsub : ∀ ev ∈ tr₁, ev ∈ calls := by
    obtain ⟨k, -, hentered⟩ := hp
    exact hentered.subset
  obtain ⟨outcome, st', pubs, post, rfl, hpubs, hpost, hlimit⟩ := Agent.run_process_one_handler hrun
  rcases List.mem_cons.mp hmem with hhead | htail
  · cases hhead
  rcases List.mem_append.mp htail with hpub | hdlq
  · rcases hpubs with ⟨e, -, rfl⟩ | ⟨replies, s₀, s₂, r₂, rfl, hrun'⟩
    · cases hpub
    · obtain ⟨t', msg', heq, hreply⟩ := Agent.isReply_of_run hrun' _ hpub
      cases heq
      exact .inl ⟨replies, st', hsub _ List.mem_cons_self, hreply⟩
  · obtain ⟨ht, hmsg⟩ := hpost _ hdlq
    exact .inr ⟨ht, hmsg, hlimit _ hdlq t msg rfl⟩

/-- The event publishes a message other than an ERROR, and that returned. -/
def Returned (c : Consumption agent handler) : Prop :=
  ∃ t msg st, (⟨.inl (.publish t msg), .ok (), st⟩ : AwaitEvent) ∈ c.events ∧ msg.type ≠ .ERROR

/-- The handler is awaited once, and what is published after it and is no ERROR are its replies. -/
theorem Calls.answered (h : c.Calls calls) {m : Message} {r : Except Exc (Option (List Message))}
    {st : AgentState} (hev : (⟨.handle_message m, r, st⟩ : AgentEvent) ∈ calls) :
    ∃ pubs, ((∃ e, r = .error e ∧ pubs = []) ∨ ∃ replies s₀ s₂ r₂, r = .ok replies ∧
        Co.Run (fun _ _ => True) (agent.publish_replies m (replies.getD [])) s₀ pubs s₂ r₂) ∧
      (∀ ev ∈ pubs, ev ∈ calls) ∧
      ∀ ev ∈ calls, ∀ t msg, ev.req = .publish t msg → msg.type ≠ .ERROR → ev ∈ pubs := by
  obtain ⟨rfl, s₁, tr₁, pubs, post, ⟨k, -, hentered⟩, rfl, hpubs, hpost⟩ := h.handled hev
  refine ⟨pubs, hpubs, fun ev hmem => ?_, fun ev hmem t msg hreq htype => ?_⟩
  · exact hentered.subset _ (List.mem_cons_of_mem _ (List.mem_append_left _ hmem))
  · have hne : ev.req ≠ .acquire := fun h => nomatch hreq.symm.trans h
    rcases List.mem_cons.mp (hentered.mem_of_ne hmem hne) with rfl | hall
    · cases hreq
    rcases List.mem_append.mp hall with hpub | hdisposal
    · exact hpub
    · have hof := hpost _ hdisposal
      rw [hreq] at hof
      obtain ⟨-, fresh, error, n, failed_at, rfl⟩ := hof
      exact absurd rfl htype

/-- If the publication of an untargeted first reply returned, and the second one can be encrypted, the
second one is published. -/
theorem Calls.second_published (h : c.Calls calls) {m first second : Message} {st : AgentState}
    {payload : Json}
    (hhandle : (⟨.handle_message m, .ok (some [first, second]), st⟩ : AgentEvent) ∈ calls)
    (hreturned : c.Returned) (hfirst : first.target.truthy = false)
    (hp : agent.cipher.encrypt_payload 0 second.payload = .ok payload) :
    ∃ t payload, c.Publishes t { second with payload } := by
  obtain ⟨pubs, ⟨e, ⟨⟩, -⟩ | ⟨replies, s₀, s₂, r₂, ⟨⟩, hrun⟩, hsub, hall⟩ := h.answered hhandle
  obtain ⟨t', msg, st', hev, htype⟩ := hreturned
  have hmem := hall _ ((h.inl_mem_iff (by rintro m ⟨⟩)).mp hev) t' msg rfl htype
  obtain ⟨t, payload', ⟨q, ans, st''⟩, hissued, rfl⟩ :=
    Agent.second_reply_issued hfirst hp hmem hrun
  exact ⟨t, payload', .inl ⟨ans, st'', (h.inl_mem_iff (by rintro m ⟨⟩)).mpr (hsub _ hissued)⟩⟩

/-- If the second of two replies was published, the publication of the first one returned. -/
theorem Calls.returned (h : c.Calls calls) {m first second msg : Message} {st st' : AgentState}
    {t : String} {ans : Except Exc Unit}
    (hhandle : (⟨.handle_message m, .ok (some [first, second]), st⟩ : AgentEvent) ∈ calls)
    (hev : (⟨.inl (.publish t msg), ans, st'⟩ : AwaitEvent) ∈ c.events) (hfirst : first.type ≠ .ERROR)
    (htype : msg.type ≠ .ERROR) (hne : msg.type ≠ first.type) : c.Returned := by
  obtain ⟨pubs, ⟨e, ⟨⟩, -⟩ | ⟨replies, s₀, s₂, r₂, ⟨⟩, hrun⟩, hsub, hall⟩ := h.answered hhandle
  have hmem := hall _ ((h.inl_mem_iff (by rintro m ⟨⟩)).mp hev) t msg rfl htype
  obtain ⟨t', payload, st'', hfirst'⟩ := Agent.first_reply_returned hmem rfl hne hrun
  exact ⟨t', _, st'', (h.inl_mem_iff (by rintro m ⟨⟩)).mpr (hsub _ hfirst'), hfirst⟩

/-! ## What the three agents send -/

theorem sends_probe {self : ProbeAgent} {c : Consumption self.toAgent self.handle_message} {t : String}
    {msg : Message} : ¬ c.Sends t msg := by
  rintro ⟨ans, st, hev⟩
  obtain ⟨calls, hcalls⟩ := c.exists_calls
  obtain ⟨m, r, s, s', tr, -, hrun, hmem⟩ := hcalls.of_inr hev
  cases run_probe hrun with
  | ignored => cases hmem
  | failed _ hplugins =>
    obtain ⟨ctx, ⟨⟩⟩ := hplugins _ hmem
  | probed => cases List.mem_singleton.mp hmem

theorem sends_judge {self : JudgeAgent} {c : Consumption self.toAgent self.handle_message} {t : String}
    {msg : Message} : ¬ c.Sends t msg := by
  rintro ⟨ans, st, hev⟩
  obtain ⟨calls, hcalls⟩ := c.exists_calls
  obtain ⟨m, r, s, s', tr, -, hrun, hmem⟩ := hcalls.of_inr hev
  cases run_judge hrun with
  | ignored => cases hmem
  | failed _ hplugins =>
    obtain ⟨ctx, ⟨⟩⟩ := hplugins _ hmem
  | judged _ hplugins =>
    obtain ⟨ctx, ⟨⟩⟩ := hplugins _ hmem

/-- The Reporter sends its report to everyone. -/
theorem sends_reporter {self : ReporterAgent} {c : Consumption self.toAgent self.handle_message}
    {t : String} {msg : Message} (h : c.Sends t msg) : t = Topic.BROADCAST ∧
      ∃ fresh at_time results report,
        self.report at_time (self.opened c.message).payload results = .ok report ∧
          msg = self.broadcast fresh (self.opened c.message) report := by
  obtain ⟨ans, st, hev⟩ := h
  obtain ⟨calls, hcalls⟩ := c.exists_calls
  obtain ⟨m, r, s, s', tr, hhandle, hrun, hmem⟩ := hcalls.of_inr hev
  obtain ⟨rfl, -⟩ := hcalls.handled hhandle
  cases run_reporter hrun with
  | ignored => cases hmem
  | failed _ hplugins =>
    obtain ⟨ctx, ⟨⟩⟩ := hplugins _ hmem
  | reported tr fresh _ hplugins hreport =>
    rcases List.mem_append.mp hmem with hmem | hmem
    · obtain ⟨ctx, ⟨⟩⟩ := hplugins _ hmem
    · cases List.mem_singleton.mp hmem
      exact ⟨rfl, _, _, _, _, hreport, rfl⟩

end Consumption

end Aqap
