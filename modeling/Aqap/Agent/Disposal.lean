import Aqap.Agent.Accounts

/-!
# What becomes of a delivered message

An iteration of the consume loop should leave a message acknowledged exactly once, or not at all when
its handler failed and has failed fewer than `max_retries` times.

* `attemptRaises_iff`: the answers that decide whether an attempt fails.
* `settled_process_one`: how often `_process_one` calls for an acknowledgement. After a dead letter it
  does so twice: in `_handle_failure` and again in its `finally`.
* `disposed_iff`: the iteration disposes of the messages that pass the checks of the loop (`Admitted`),
  enter the semaphore, and have the acknowledgements that they should have (`Settles`).
* `undisposed_invalid`: a message of another protocol version is dropped, and not acknowledged.
-/

namespace Aqap

open Py Aqap.Core Async

/-- The request acknowledges the id. -/
def Request.acks (tid : TransportId) : Request → Bool
  | .ack _ id _ => id == tid
  | _ => false

/-- How often the transport was called to acknowledge the id. -/
def ackCalls (tid : TransportId) (tr : List AgentEvent) : Nat := tr.countP fun ev => ev.req.acks tid

/-- How many of these calls raised. -/
def ackErrors (tid : TransportId) (tr : List AgentEvent) : Nat :=
  tr.countP fun ev => ev.req.acks tid && !ev.ans.toBool

/-- How often the id was acknowledged: a call that raised acknowledges nothing. -/
def ackCount (tid : TransportId) (tr : List AgentEvent) : Nat :=
  tr.countP fun ev => ev.req.acks tid && ev.ans.toBool

theorem ackCalls_append (tid : TransportId) (t₁ t₂ : List AgentEvent) :
    ackCalls tid (t₁ ++ t₂) = ackCalls tid t₁ + ackCalls tid t₂ := List.countP_append

/-- Every call returned or raised. -/
theorem ackCount_add_ackErrors (tid : TransportId) (tr : List AgentEvent) :
    ackCount tid tr + ackErrors tid tr = ackCalls tid tr := by
  unfold ackCount ackErrors ackCalls
  induction tr with
  | nil => rfl
  | cons ev tr ih =>
    rw [List.countP_cons, List.countP_cons, List.countP_cons, ← ih]
    cases ev.req.acks tid <;> cases ev.ans.toBool <;> simp <;> omega

namespace Agent

variable {agent self : Agent} {m : Message} {topic : String} {tid : TransportId}
  {s s' : AgentState} {tr : List AgentEvent}

/-- While the message is processed, the other tasks leave its transport id and its retry count
alone. -/
structure Apart (agent : Agent) (m : Message) (s s' : AgentState) : Prop where
  last_msg_id : s'.last_msg_id = s.last_msg_id
  failures : agent.failures m s' = agent.failures m s

/-- A pass of the cleanup does. -/
theorem apart_idempotency_cleanup (s : AgentState) : self.Apart m s (self.idempotency_cleanup s) := by
  unfold idempotency_cleanup
  lift_lets
  intro cutoff ids sorted_ids overflow
  split <;> exact ⟨rfl, rfl⟩

/-- The delivery `d` after the course `h`; meanwhile no other loop of the agent is at work. -/
structure Delivers (agent : Agent) (h : Course) (d : Service) (s' : AgentState) : Prop where
  run : ∃ r, Co.Run (agent.Apart d.message) (agent.consume_one d.topic d.message) h.state d.events s' r
  ended : agent.Ended d.topic d.message h.state d.events d.outcome

/-- The message failed, and it has failed fewer than `max_retries` times by itself. -/
def FailedBelow (agent : Agent) (h : Course) (d : Service) : Prop :=
  d.outcome = .failed ∧ ∃ k, d.message.message_id.key = .ok k ∧ h.own k + 1 < agent.max_retries

/-- The message was acknowledged once, or not at all if it failed below the limit. -/
def Disposed (agent : Agent) (tid : TransportId) (h : Course) (d : Service) : Prop :=
  (agent.FailedBelow h d → ackCount tid d.events = 0) ∧
    (¬ agent.FailedBelow h d → ackCount tid d.events = 1)

/-- The handler raised, or the publication of a reply, or a reply of the handler cannot be sent and no
publication before it was cancelled. -/
inductive AttemptRaises (self : Agent) (m : Message) (tr : List AgentEvent) : Prop
  | handler {text : String} {st : AgentState} :
      ⟨.handle_message m, .error (.error text), st⟩ ∈ tr → AttemptRaises self m tr
  | reply {topic text : String} {msg : Message} {st : AgentState} : topic ≠ DLQ_TOPIC →
      ⟨.publish topic msg, .error (.error text), st⟩ ∈ tr → AttemptRaises self m tr
  | unsendable {replies : Option (List Message)} {st : AgentState} {reply : Message} :
      ⟨.handle_message m, .ok replies, st⟩ ∈ tr → reply ∈ replies.getD [] →
      self.Unsendable m reply →
      (∀ topic msg st, topic ≠ DLQ_TOPIC →
        (⟨.publish topic msg, .error .cancelled, st⟩ : AgentEvent) ∉ tr) → AttemptRaises self m tr

/-- The semaphore was not entered. -/
def NotAcquired (tr : List AgentEvent) : Prop :=
  ∃ e st, (⟨.acquire, .error e, st⟩ : AgentEvent) ∈ tr

/-- The answers that a message needs which has failed `own` times by itself. The retry count of its text
decides whether it is tried again; it may count failures of other messages, too. -/
structure Settles (agent : Agent) (tid : TransportId) (own : Nat) (m : Message) (s : AgentState)
    (tr : List AgentEvent) : Prop where
  /-- The acknowledgement of the `finally` returns. -/
  handled : ¬ agent.AttemptRaises m tr → ackErrors tid tr = 0
  /-- The message is tried again, and it should be. -/
  retried : agent.AttemptRaises m tr → agent.failures m s + 1 < agent.max_retries →
    own + 1 < agent.max_retries
  /-- Without a dead letter the `finally` acknowledges. -/
  unpublished : agent.AttemptRaises m tr → agent.max_retries ≤ agent.failures m s + 1 →
    ¬ Accepted tr → ackErrors tid tr = if own + 1 < agent.max_retries then 1 else 0
  /-- After the dead letter both acknowledge, which is once too often. -/
  published : agent.AttemptRaises m tr → agent.max_retries ≤ agent.failures m s + 1 →
    Accepted tr → ackErrors tid tr = if own + 1 < agent.max_retries then 2 else 1

/-! ## The parts of a run -/

theorem apart_failures (s s' : AgentState) (h : self.Apart m s s') :
    self.failures m s' = self.failures m s := h.failures

theorem ackCalls_attempt (hatt : ∀ ev ∈ tr, OfAttempt m ev.req) : ackCalls tid tr = 0 := by
  unfold ackCalls
  rw [List.countP_eq_zero]
  intro ev hev
  have := hatt ev hev
  cases hreq : ev.req <;> rw [hreq] at this <;> simp_all [OfAttempt, Request.acks]

theorem ackCalls_ack_last {R : AgentState → AgentState → Prop} {r : Except Exc Unit}
    (hid : s.ack_id = some tid) (h : Co.Run R (ack_last topic) s tr s' r) : ackCalls tid tr = 1 := by
  obtain ⟨rfl, -⟩ := (run_ack_last_iff hid).mp h
  simp [ackCalls, Request.acks]

theorem ack_id_of_attempt {r : Except Exc Unit}
    (h : Co.Run (self.Apart m) (self.attempt m) s tr s' r) : s'.ack_id = s.ack_id := by
  have hI : Stable (self.msg_key m) (fun s₁ => s₁.last_msg_id = s.last_msg_id) fun _ _ => True :=
    .of_forall (fun _ _ h => h) (fun _ _ h => h) fun _ _ h => h
  have hlast := ((guarded_attempt hI).run (fun s₁ s₂ h₁₂ h => h₁₂.last_msg_id.trans h) rfl h).1
  unfold AgentState.ack_id
  rw [hlast]

theorem ack_id_of_ack_last {r : Except Exc Unit}
    (h : Co.Run (self.Apart m) (ack_last topic) s tr s' r) : s'.ack_id = s.ack_id := by
  rcases run_ack_last h with ⟨id, -, -, hR⟩ | ⟨-, -, rfl, -⟩
  · unfold AgentState.ack_id
    rw [hR.last_msg_id]
  · rfl

/-! ## When the attempt raises -/

/-- Whether the attempt raises depends on its own awaits only. -/
theorem AttemptRaises.of_subset {t₁ t₂ : List AgentEvent} (h : self.AttemptRaises m t₁)
    (hev : ∀ ev, OfAttempt m ev.req → (ev ∈ t₁ ↔ ev ∈ t₂)) : self.AttemptRaises m t₂ := by
  cases h with
  | handler h => exact .handler ((hev ⟨.handle_message m, _, _⟩ rfl).mp h)
  | reply hne h => exact .reply hne ((hev ⟨.publish _ _, _, _⟩ hne).mp h)
  | unsendable h hmem hun hnot =>
    refine .unsendable ((hev ⟨.handle_message m, _, _⟩ rfl).mp h) hmem hun ?_
    intro topic msg st hne hc
    exact hnot topic msg st hne ((hev ⟨.publish _ _, _, _⟩ hne).mpr hc)

theorem attemptRaises_append_left {t₁ t₂ : List AgentEvent}
    (h₂ : ∀ ev ∈ t₂, ¬ OfAttempt m ev.req) :
    self.AttemptRaises m (t₁ ++ t₂) ↔ self.AttemptRaises m t₁ := by
  have hev : ∀ ev : AgentEvent, OfAttempt m ev.req → (ev ∈ t₁ ++ t₂ ↔ ev ∈ t₁) := by
    intro ev hatt
    rw [List.mem_append, or_iff_left]
    exact fun hmem => h₂ ev hmem hatt
  exact ⟨fun h => h.of_subset hev, fun h => h.of_subset fun ev hatt => (hev ev hatt).symm⟩

theorem attemptRaises_cons {ev : AgentEvent} (h : ¬ OfAttempt m ev.req) :
    self.AttemptRaises m (ev :: tr) ↔ self.AttemptRaises m tr := by
  have hev : ∀ ev' : AgentEvent, OfAttempt m ev'.req → (ev' ∈ ev :: tr ↔ ev' ∈ tr) := by
    intro ev' hatt
    rw [List.mem_cons, or_iff_right]
    rintro rfl
    exact h hatt
  exact ⟨fun h => h.of_subset hev, fun h => h.of_subset fun ev' hatt => (hev ev' hatt).symm⟩

/-- The events of replies that were sent are publications that returned. -/
theorem Sent.event {reply : Message} {ev : AgentEvent} (h : self.Sent m reply ev) :
    ∃ topic msg st, ev = ⟨.publish topic msg, .ok (), st⟩ := by
  obtain ⟨topic, payload, n, st, -, -, rfl⟩ := h
  exact ⟨_, _, _, rfl⟩

theorem sent_all {replies : List Message} {sent : List AgentEvent}
    (h : List.Forall₂ (self.Sent m) replies sent) {reply : Message} (hmem : reply ∈ replies) :
    ∃ ev, self.Sent m reply ev := by
  induction h with
  | nil => cases hmem
  | cons hs _ ih =>
    rcases List.mem_cons.mp hmem with rfl | hmem
    · exact ⟨_, hs⟩
    · exact ih hmem

/-- No await raised before the replies that were sent. -/
theorem not_failed_of_sent {replies : Option (List Message)} {st : AgentState} {done : List Message}
    {sent : List AgentEvent} (hall : List.Forall₂ (self.Sent m) done sent) :
    ∀ ev ∈ (⟨.handle_message m, .ok replies, st⟩ :: sent : List AgentEvent), ∀ e, ev.ans ≠ .error e := by
  intro ev hev e
  rcases List.mem_cons.mp hev with rfl | hev
  · rintro ⟨⟩
  · obtain ⟨reply, hs⟩ := sent_of_mem hall ev hev
    exact hs.not_failed e

/-- The attempt of a handler that returned, and whose replies were sent. -/
theorem Handled.not_raises (h : self.Handled m tr) : ¬ self.AttemptRaises m tr := by
  obtain ⟨replies, st, sent, rfl, hall⟩ := h
  intro hraises
  cases hraises with
  | handler h => exact not_failed_of_sent hall _ h _ rfl
  | reply _ h => exact not_failed_of_sent hall _ h _ rfl
  | unsendable h hmem hun _ =>
    rcases List.mem_cons.mp h with h | h
    · cases h
      obtain ⟨ev, hs⟩ := sent_all hall hmem
      exact hs.not_unsendable hun
    · obtain ⟨reply, hs⟩ := sent_of_mem hall _ h
      obtain ⟨_, _, _, hev⟩ := hs.event
      cases hev

/-- A failed attempt raised, unless it was cancelled. -/
theorem AttemptFailed.raises_iff {e : Exc} (h : self.AttemptFailed m e s' tr) :
    self.AttemptRaises m tr ↔ ∃ text, e = .error text := by
  rcases h with rfl | ⟨replies, st, done, failed, rest, sent, last, rfl, hr, hall, hf⟩
  · constructor
    · intro h
      cases h with
      | handler h => cases List.mem_singleton.mp h; exact ⟨_, rfl⟩
      | reply _ h => cases List.mem_singleton.mp h
      | unsendable h => cases List.mem_singleton.mp h
    · rintro ⟨text, rfl⟩
      exact .handler (List.mem_singleton_self _)
  rcases hf with ⟨rfl, htext, hun⟩ | ⟨topic, payload, ht, rfl⟩
  · have hmem : failed ∈ replies.getD [] := by simp [hr]
    refine iff_of_true (.unsendable List.mem_cons_self hmem hun ?_) htext
    intro topic msg st' _ hc
    rw [List.append_nil] at hc
    exact not_failed_of_sent hall _ hc _ rfl
  have hne : topic ≠ DLQ_TOPIC := reply_topic_ne_dlq ht
  rw [← List.cons_append]
  have hlast : (⟨.publish topic { failed with payload }, .error e, s'⟩ : AgentEvent) ∈
      (⟨.handle_message m, .ok replies, st⟩ :: sent : List AgentEvent) ++
        [⟨.publish topic { failed with payload }, .error e, s'⟩] :=
    List.mem_append_right _ (List.mem_singleton_self _)
  constructor
  · intro h
    cases e with
    | error text => exact ⟨text, rfl⟩
    | cancelled =>
      -- Every other await of the attempt returned.
      have hevents : ∀ (req : Request) (text : String) (st' : AgentState),
          (⟨req, .error (.error text), st'⟩ : AgentEvent) ∉
            (⟨.handle_message m, .ok replies, st⟩ :: sent : List AgentEvent) ++
              [⟨.publish topic { failed with payload }, .error .cancelled, s'⟩] := by
        intro req text st' h
        rcases List.mem_append.mp h with h | h
        · exact not_failed_of_sent hall _ h _ rfl
        · cases List.mem_singleton.mp h
      cases h with
      | handler h => exact absurd h (hevents _ _ _)
      | reply _ h => exact absurd h (hevents _ _ _)
      | unsendable _ _ _ hnot => exact absurd hlast (hnot _ _ _ hne)
  · rintro ⟨text, rfl⟩
    exact .reply hne hlast

/-- **When an attempt raises**: the awaits that `AttemptRaises` names decide it. -/
theorem attemptRaises_iff {R : AgentState → AgentState → Prop} {r : Except Exc Unit}
    (h : Co.Run R (self.attempt m) s tr s' r) :
    self.AttemptRaises m tr ↔ ∃ text, r = .error (.error text) := by
  rcases run_attempt h with ⟨rfl, hdone⟩ | ⟨e, rfl, hfail⟩
  · refine iff_of_false hdone.not_raises ?_
    rintro ⟨text, ⟨⟩⟩
  · rw [hfail.raises_iff]
    simp

theorem not_ofAttempt_ack_last {R : AgentState → AgentState → Prop} {r : Except Exc Unit}
    (h : Co.Run R (ack_last topic) s tr s' r) : ∀ ev ∈ tr, ¬ OfAttempt m ev.req := by
  intro ev hev
  rcases run_ack_last h with ⟨id, -, rfl, -⟩ | ⟨-, rfl, -, -⟩
  · rw [List.mem_singleton] at hev
    subst hev
    exact fun hatt => hatt
  · cases hev

/-- After an attempt that raised nothing, the `finally` acknowledges. -/
theorem settled_of_not_raised {R : AgentState → AgentState → Prop} {t₁ t₂ : List AgentEvent}
    {s₁ : AgentState} {r₁ r : Except Exc Unit} (hid : s₁.ack_id = some tid)
    (ha : Co.Run R (self.attempt m) s t₁ s₁ r₁) (hr : ∀ text, r₁ ≠ .error (.error text))
    (hf : Co.Run R (ack_last topic) s₁ t₂ s' r) :
    ¬ self.AttemptRaises m (t₁ ++ t₂) ∧ ackCalls tid (t₁ ++ t₂) = 1 := by
  constructor
  · rw [attemptRaises_append_left (not_ofAttempt_ack_last hf), attemptRaises_iff ha]
    rintro ⟨text, rfl⟩
    exact hr text rfl
  · rw [ackCalls_append, ackCalls_attempt (ofAttempt_of_run ha), ackCalls_ack_last hid hf]

theorem accepted_append {t₁ t₂ : List AgentEvent} :
    Accepted (t₁ ++ t₂) ↔ Accepted t₁ ∧ Accepted t₂ := by
  unfold Accepted
  simp only [List.mem_append, not_or, forall_and]

theorem accepted_of_attempt (hatt : ∀ ev ∈ tr, OfAttempt m ev.req) : Accepted tr :=
  fun _ _ _ hev => hatt _ hev rfl

theorem accepted_ack_last {R : AgentState → AgentState → Prop} {r : Except Exc Unit}
    (h : Co.Run R (ack_last topic) s tr s' r) : Accepted tr := by
  intro msg e st hev
  rcases run_ack_last h with ⟨id, -, rfl, -⟩ | ⟨-, rfl, -, -⟩
  · cases List.mem_singleton.mp hev
  · cases hev

/-! ## One message -/

/-- What disposes of a message is no part of an attempt. -/
theorem OfDisposal.not_ofAttempt {q : Request} (h : self.OfDisposal m q) : ¬ OfAttempt m q := by
  cases q with
  | publish t msg => exact fun hne => hne h.1
  | ack => exact fun hatt => hatt
  | handle_message => exact absurd h fun h => h
  | acquire => exact absurd h fun h => h

/-- A run of `_process_one` is an attempt, followed by what disposes of the message. -/
theorem attempt_of_process_one {R : AgentState → AgentState → Prop} {r : Except Exc Bool}
    (h : Co.Run R (self.process_one m topic) s tr s' r) :
    ∃ t₁ t₂ s₁ r₁, tr = t₁ ++ t₂ ∧ Co.Run R (self.attempt m) s t₁ s₁ r₁ ∧
      (self.AttemptRaises m tr ↔ Outcome.of r₁ = .failed) := by
  have hraises : ∀ {t₁ t₂ s₁} {r₁ : Except Exc Unit}, Co.Run R (self.attempt m) s t₁ s₁ r₁ →
      (∀ ev ∈ t₂, ¬ OfAttempt m ev.req) →
      (self.AttemptRaises m (t₁ ++ t₂) ↔ Outcome.of r₁ = .failed) := by
    intro t₁ t₂ s₁ r₁ ha hafter
    rw [attemptRaises_append_left hafter, attemptRaises_iff ha]
    cases r₁ with
    | ok u => simp [Outcome.of]
    | error e => cases e <;> simp [Outcome.of]
  cases run_process_one h with
  | handled ha hf => exact ⟨_, _, _, _, rfl, ha, hraises ha (not_ofAttempt_ack_last hf)⟩
  | cancelled ha hf => exact ⟨_, _, _, _, rfl, ha, hraises ha (not_ofAttempt_ack_last hf)⟩
  | retried ha _ =>
    refine ⟨tr, [], _, _, (List.append_nil _).symm, ha, ?_⟩
    rw [attemptRaises_iff ha]
    simp [Outcome.of]
  | exhausted ha _ hd hf =>
    refine ⟨_, _, _, _, rfl, ha, hraises ha fun ev hev => ?_⟩
    rcases List.mem_append.mp hev with hev | hev
    · exact (ofDisposal_dead_letter hd ev hev).not_ofAttempt
    · exact not_ofAttempt_ack_last hf ev hev

/-- How often the transport is called to acknowledge a message, and what decides it; `count` is the retry
count before. -/
inductive Settled (agent : Agent) (m : Message) (count : Nat) (tr : List AgentEvent) : Nat → Prop
  | handled : ¬ agent.AttemptRaises m tr → Settled agent m count tr 1
  | retried : agent.AttemptRaises m tr → count + 1 < agent.max_retries → Settled agent m count tr 0
  | unpublished : agent.AttemptRaises m tr → agent.max_retries ≤ count + 1 → ¬ Accepted tr →
      Settled agent m count tr 1
  | published : agent.AttemptRaises m tr → agent.max_retries ≤ count + 1 → Accepted tr →
      Settled agent m count tr 2

/-- **How often `_process_one` acknowledges.** -/
theorem settled_process_one {r : Except Exc Bool} (hid : s.ack_id = some tid)
    (h : Co.Run (self.Apart m) (self.process_one m topic) s tr s' r) :
    self.Settled m (self.failures m s) tr (ackCalls tid tr) := by
  cases run_process_one h with
  | handled ha hf =>
    obtain ⟨hraises, hcalls⟩ := settled_of_not_raised ((ack_id_of_attempt ha).trans hid) ha
      (fun _ h => nomatch h) hf
    rw [hcalls]
    exact .handled hraises
  | cancelled ha hf =>
    obtain ⟨hraises, hcalls⟩ := settled_of_not_raised ((ack_id_of_attempt ha).trans hid) ha
      (fun _ h => nomatch h) hf
    rw [hcalls]
    exact .handled hraises
  | retried ha hlt =>
    rw [(failures_of_attempt apart_failures ha).2 _ rfl] at hlt
    rw [ackCalls_attempt (ofAttempt_of_run ha)]
    exact .retried ((attemptRaises_iff ha).mpr ⟨_, rfl⟩) (by exact_mod_cast hlt)
  | @exhausted t₁ t₂ t₃ s₁ s₂ _ text r₂ r ha hle hd hf =>
    have hatt := ofAttempt_of_run ha
    rw [(failures_of_attempt apart_failures ha).2 _ rfl] at hle
    have hlimit : self.max_retries ≤ self.failures m s + 1 := by exact_mod_cast hle
    have hraises : self.AttemptRaises m (t₁ ++ (t₂ ++ t₃)) := by
      refine (attemptRaises_append_left fun ev hev => ?_).mpr ((attemptRaises_iff ha).mpr ⟨text, rfl⟩)
      rcases List.mem_append.mp hev with hev | hev
      · exact (ofDisposal_dead_letter hd ev hev).not_ofAttempt
      · exact not_ofAttempt_ack_last hf ev hev
    obtain ⟨msg, ans, st, rest, rfl, -, hR, hrest⟩ := run_dead_letter hd
    have hst : st.ack_id = some tid := by
      rw [← hid, ← ack_id_of_attempt ha]
      unfold AgentState.ack_id
      rw [hR.last_msg_id]
      rfl
    have hpublish : ackCalls tid (t₁ ++ [(⟨.publish DLQ_TOPIC msg, ans, st⟩ : AgentEvent)]) = 0 := by
      rw [ackCalls_append, ackCalls_attempt hatt]
      rfl
    have hsplit : t₁ ++ (⟨.publish DLQ_TOPIC msg, ans, st⟩ :: rest ++ t₃) =
        t₁ ++ [⟨.publish DLQ_TOPIC msg, ans, st⟩] ++ (rest ++ t₃) := by simp
    rcases hrest with ⟨e, rfl, rfl, rfl, rfl⟩ | ⟨rfl, hl⟩
    · -- The dead letter was not published: the `finally` acknowledges, once.
      have hcalls : ackCalls tid (t₁ ++ (⟨.publish DLQ_TOPIC msg, .error e, s₂⟩ :: [] ++ t₃)) = 1 := by
        rw [hsplit, ackCalls_append tid (t₁ ++ [_]), hpublish, List.nil_append,
          ackCalls_ack_last hst hf]
      rw [hcalls]
      exact .unpublished hraises hlimit fun h => h msg e s₂ (by simp)
    · -- It was published, so both acknowledge.
      have hpop : AgentState.ack_id { st with retry_counts := st.retry_counts.pop (self.msg_key m) } =
          some tid := hst
      have hcalls : ackCalls tid (t₁ ++ (⟨.publish DLQ_TOPIC msg, .ok (), st⟩ :: rest ++ t₃)) = 2 := by
        rw [hsplit, ackCalls_append tid (t₁ ++ [_]), hpublish, ackCalls_append,
          ackCalls_ack_last hpop hl, ackCalls_ack_last ((ack_id_of_ack_last hl).trans hpop) hf]
      rw [hcalls]
      refine .published hraises hlimit ?_
      have hone : Accepted [⟨.publish DLQ_TOPIC msg, .ok (), st⟩] := by
        intro msg' e st' hev
        cases List.mem_singleton.mp hev
      rw [hsplit, accepted_append, accepted_append, accepted_append]
      exact ⟨⟨accepted_of_attempt hatt, hone⟩, accepted_ack_last hl, accepted_ack_last hf⟩

/-- Of `n + 1` calls the right number returned exactly if the others raised. -/
theorem acked_iff_errors {n count errors : Nat} {P : Prop} [Decidable P] (hsum : count + errors = n + 1) :
    (P → count = 0) ∧ (¬ P → count = 1) ↔ errors = if P then n + 1 else n := by
  by_cases hP : P
  · rw [if_pos hP]
    exact ⟨fun ⟨h, _⟩ => by have := h hP; omega, fun h => ⟨fun _ => by omega, fun hn => absurd hP hn⟩⟩
  · rw [if_neg hP]
    exact ⟨fun ⟨_, h⟩ => by have := h hP; omega, fun h => ⟨fun hp => absurd hp hP, fun _ => by omega⟩⟩

/-- The answers that decide whether the message is acknowledged as it should be. -/
theorem Settled.settles_iff {own : Nat} (h : agent.Settled m (agent.failures m s) tr (ackCalls tid tr)) :
    agent.Settles tid own m s tr ↔
      (agent.AttemptRaises m tr ∧ own + 1 < agent.max_retries → ackCount tid tr = 0) ∧
        (¬ (agent.AttemptRaises m tr ∧ own + 1 < agent.max_retries) → ackCount tid tr = 1) := by
  have hsum := ackCount_add_ackErrors tid tr
  generalize ackCalls tid tr = calls at h hsum
  cases h with
  | handled hnot =>
    have hbelow : ¬ (agent.AttemptRaises m tr ∧ own + 1 < agent.max_retries) := fun h => hnot h.1
    constructor
    · intro hs
      have herrors := hs.handled hnot
      exact ⟨fun h => absurd h hbelow, fun _ => by omega⟩
    · rintro ⟨-, hone⟩
      have hcount := hone hbelow
      exact ⟨fun _ => by omega, fun h => absurd h hnot, fun h => absurd h hnot, fun h => absurd h hnot⟩
  | retried hraises hlt =>
    rw [and_iff_right hraises]
    constructor
    · intro hs
      exact ⟨fun _ => by omega, fun h => absurd (hs.retried hraises hlt) h⟩
    · rintro ⟨-, hone⟩
      have hown : own + 1 < agent.max_retries := by
        by_contra hown
        have := hone hown
        omega
      exact ⟨fun h => absurd hraises h, fun _ _ => hown, fun _ hle => absurd hlt (by omega),
        fun _ hle => absurd hlt (by omega)⟩
  | unpublished hraises hle hnot =>
    rw [and_iff_right hraises, acked_iff_errors hsum]
    constructor
    · exact fun hs => hs.unpublished hraises hle hnot
    · intro herrors
      exact ⟨fun h => absurd hraises h, fun _ hlt => absurd hle (by omega), fun _ _ _ => herrors,
        fun _ _ h => absurd h hnot⟩
  | published hraises hle hacc =>
    rw [and_iff_right hraises, acked_iff_errors hsum]
    constructor
    · exact fun hs => hs.published hraises hle hacc
    · intro herrors
      exact ⟨fun h => absurd hraises h, fun _ hlt => absurd hle (by omega), fun _ _ h => absurd hacc h,
        fun _ _ _ => herrors⟩

/-! ## One iteration -/

theorem apart_opened : self.Apart (self.opened m) = self.Apart m := by
  funext s s'
  refine propext ⟨fun h => ⟨h.last_msg_id, ?_⟩, fun h => ⟨h.last_msg_id, ?_⟩⟩
  · rw [← failures_opened, h.failures]
  · rw [failures_opened, h.failures]

/-- Processing a message does not wait for the semaphore. -/
theorem not_notAcquired {R : AgentState → AgentState → Prop} {r : Except Exc Bool}
    (h : Co.Run R (self.process_one m topic) s tr s' r) : ¬ NotAcquired tr := by
  have hg : Co.Guarded (fun _ => True) (fun _ _ => True) (· ≠ .acquire)
      (self.process_one m topic) := by
    refine guarded_process_one (.of_forall (fun _ _ h => h) (fun _ _ h => h) fun _ _ h => h) ?_ ?_ ?_
    · rintro q hq rfl
      exact hq
    · rintro msg ⟨⟩
    · rintro s s₁ id - - - ⟨⟩
  rintro ⟨e, st, hev⟩
  exact ((hg.run (fun _ _ _ h => h) trivial h).2 _ hev).1 rfl

/-- A message is processed if it is admitted and the semaphore is entered. -/
theorem processes_iff {R : AgentState → AgentState → Prop} {r : Except Exc Bool}
    (h : Co.Run R (self.consume_one topic m) s tr s' r) :
    (∃ s₁ tr₁, self.Processes topic m s tr s₁ tr₁) ↔ (∃ k, self.Admitted m k s) ∧ ¬ NotAcquired tr := by
  constructor
  · rintro ⟨s₁, tr₁, hp⟩
    obtain ⟨r₁, hone⟩ := hp.run h
    obtain ⟨k, hadm, hentered⟩ := hp
    refine ⟨⟨k, hadm⟩, ?_⟩
    rintro ⟨e, st, hev⟩
    cases hentered with
    | free => exact not_notAcquired hone ⟨e, st, hev⟩
    | acquired =>
      rcases List.mem_cons.mp hev with hev | hev
      · cases hev
      · exact not_notAcquired hone ⟨e, st, hev⟩
  · rintro ⟨⟨k, hadm⟩, hacq⟩
    obtain ⟨r₁, -, hsem⟩ := (run_consume_one h).of_admitted hadm
    rcases run_with_sem hsem with ⟨hfree, -⟩ | ⟨hlimited, ans, st, rest, rfl, -, -⟩
    · exact ⟨_, _, k, hadm, .free hfree⟩
    cases ans with
    | error e => exact absurd ⟨e, st, List.mem_cons_self⟩ hacq
    | ok u => exact ⟨_, _, k, hadm, .acquired hlimited⟩

/-- A message that is not processed is not acknowledged. -/
theorem ackCalls_of_dropped {R : AgentState → AgentState → Prop} {r : Except Exc Bool}
    (h : Co.Run R (self.consume_one topic m) s tr s' r)
    (hnone : ¬ ∃ s₁ tr₁, self.Processes topic m s tr s₁ tr₁) : ackCalls tid tr = 0 := by
  cases run_consume_one h with
  | unknown => rfl
  | admitted hadm hsem =>
    rcases run_with_sem hsem with ⟨hfree, -⟩ | ⟨hlimited, ans, st, rest, rfl, -, hrest⟩
    · exact absurd ⟨_, _, _, hadm, .free hfree⟩ hnone
    rcases hrest with ⟨e, -, rfl, -, -⟩ | ⟨rfl, -⟩
    · rfl
    · exact absurd ⟨_, _, _, hadm, .acquired hlimited⟩ hnone
  | _ => rfl

/-- Entering the semaphore acknowledges nothing and fails nothing. -/
theorem settled_acquire_cons {st : AgentState} {n calls : Nat} (h : agent.Settled m n tr calls) :
    agent.Settled m n (⟨.acquire, .ok (), st⟩ :: tr) calls := by
  have hraises : agent.AttemptRaises m (⟨.acquire, .ok (), st⟩ :: tr) ↔ agent.AttemptRaises m tr :=
    attemptRaises_cons fun hatt => hatt
  have hacc : Accepted (⟨.acquire, .ok (), st⟩ :: tr) ↔ Accepted tr := by simp [Accepted]
  cases h with
  | handled h => exact .handled (hraises.not.mpr h)
  | retried h hlt => exact .retried (hraises.mpr h) hlt
  | unpublished h hle hnot => exact .unpublished (hraises.mpr h) hle (hacc.not.mpr hnot)
  | published h hle hyes => exact .published (hraises.mpr h) hle (hacc.mpr hyes)

/-- **How often an iteration acknowledges** a message that is processed. -/
theorem settled_consume_one {s₁ : AgentState} {tr₁ : List AgentEvent} {r : Except Exc Bool}
    (htid : m.transport_msg_id = some tid) (htruthy : tid.truthy = true)
    (hp : self.Processes topic m s tr s₁ tr₁)
    (h : Co.Run (self.Apart m) (self.consume_one topic m) s tr s' r) :
    self.Settled (self.opened m) (self.failures (self.opened m) s) tr (ackCalls tid tr) := by
  obtain ⟨k, hadm, hentered⟩ := hp
  obtain ⟨r₁, -, hsem⟩ := (run_consume_one h).of_admitted hadm
  have hid : (self.admitted_state topic m k s).ack_id = some tid := by
    show m.transport_msg_id.filter _ = some tid
    rw [htid, Option.filter_some, if_pos htruthy]
  rw [← apart_opened] at hsem
  cases hentered with
  | free hfree =>
    rcases run_with_sem hsem with ⟨-, hone⟩ | ⟨hsem', -⟩
    · exact settled_process_one (s := self.admitted_state topic m k s) hid hone
    · cases hfree.symm.trans hsem'
  | acquired hlimited =>
    rcases run_with_sem hsem with ⟨hfree, -⟩ | ⟨-, ans, st, rest, heq, hR, hrest⟩
    · cases hlimited.symm.trans hfree
    obtain ⟨hev, rfl⟩ := List.cons.inj heq
    cases hev
    rcases hrest with ⟨e, ⟨⟩, -⟩ | ⟨-, hone⟩
    have hst : s₁.ack_id = some tid := by
      rw [← hid]
      unfold AgentState.ack_id
      rw [hR.last_msg_id]
    have hsettled := settled_process_one hst hone
    rw [hR.failures] at hsettled
    exact settled_acquire_cons hsettled

/-- The outcome of an iteration that processes its message. -/
theorem Ended.failed_iff {R : AgentState → AgentState → Prop} {o : Outcome} {r : Except Exc Bool}
    (hended : agent.Ended topic m s tr o) (hrun : Co.Run R (agent.consume_one topic m) s tr s' r)
    (hp : ∃ s₁ tr₁, agent.Processes topic m s tr s₁ tr₁) :
    o = .failed ↔ agent.AttemptRaises (agent.opened m) tr := by
  cases hended with
  | dropped hnone =>
    obtain ⟨s₁, tr₁, hp⟩ := hp
    exact absurd hp (hnone _ _)
  | @attempted s₂ s₃ t₁ t₂ r₀ hp' hatt =>
    obtain ⟨r₁, hone⟩ := hp'.run hrun
    obtain ⟨u₁, u₂, s₄, r₂, heq, ha, hraises⟩ := attempt_of_process_one hone
    obtain ⟨-, -, rfl⟩ := ha.unique hatt heq.symm
    rw [← hraises]
    obtain ⟨k, -, hentered⟩ := hp'
    cases hentered with
    | free => exact Iff.rfl
    | acquired =>
      have hacquire : ¬ OfAttempt (agent.opened m) Request.acquire := fun hatt => hatt
      exact (attemptRaises_cons hacquire).symm

/-- The outcome of an iteration that does not process its message. -/
theorem Ended.eq_dropped {o : Outcome} (hended : agent.Ended topic m s tr o)
    (hnone : ¬ ∃ s₁ tr₁, agent.Processes topic m s tr s₁ tr₁) : o = .dropped := by
  cases hended with
  | dropped => rfl
  | attempted hp => exact absurd ⟨_, _, hp⟩ hnone

/-- **Which deliveries are disposed of.** When an iteration of the consume loop ends, the delivered
message was acknowledged exactly once, or not at all if it failed and has failed fewer than `max_retries`
times by itself, if and only if it passed the checks, entered the semaphore, and the acknowledgements were
answered as it needs (`Settles`). -/
theorem disposed_iff {h : Course} {d : Service} (htid : d.message.transport_msg_id = some tid)
    (htruthy : tid.truthy = true) (hdel : agent.Delivers h d s') :
    agent.Disposed tid h d ↔ (∃ k, agent.Admitted d.message k h.state ∧
      agent.Settles tid (h.own k) (agent.opened d.message) h.state d.events) ∧
        ¬ NotAcquired d.events := by
  obtain ⟨r, hrun⟩ := hdel.run
  by_cases hp : ∃ s₁ tr₁, agent.Processes d.topic d.message h.state d.events s₁ tr₁
  · obtain ⟨⟨k, hadm⟩, hacq⟩ := (processes_iff hrun).mp hp
    have hbelow : agent.FailedBelow h d ↔
        agent.AttemptRaises (agent.opened d.message) d.events ∧ h.own k + 1 < agent.max_retries := by
      unfold FailedBelow
      rw [hdel.ended.failed_iff hrun hp]
      refine and_congr_right fun _ => ⟨?_, fun h => ⟨k, hadm.key, h⟩⟩
      rintro ⟨k', hk', hlt⟩
      cases hadm.key.symm.trans hk'
      exact hlt
    obtain ⟨s₁, tr₁, hp⟩ := hp
    unfold Disposed
    rw [hbelow, ← (settled_consume_one htid htruthy hp hrun).settles_iff]
    constructor
    · exact fun hs => ⟨⟨k, hadm, hs⟩, hacq⟩
    · rintro ⟨⟨k', hadm', hs⟩, -⟩
      cases hadm.key.symm.trans hadm'.key
      exact hs
  · -- Every other exit acknowledges nothing.
    refine iff_of_false ?_ fun ⟨⟨k, hadm, _⟩, hacq⟩ => hp ((processes_iff hrun).mpr ⟨⟨k, hadm⟩, hacq⟩)
    rintro ⟨-, hone⟩
    have hcount := hone fun hbelow => by cases (hdel.ended.eq_dropped hp).symm.trans hbelow.1
    have hsum := ackCount_add_ackErrors tid d.events
    rw [hcount, ackCalls_of_dropped hrun hp] at hsum
    omega

/-- The delivery of a task to the agent in the course `h`, when its handler ends with `outcome`. -/
theorem delivers_sample (agent : Agent) (h : Course) (task : Message)
    (outcome : Except Exc (Option (List Message))) :
    ∃ o, agent.Delivers h
      ⟨"t", task, ((agent.consume_one "t" task).exec (sample_answer outcome) h.state).1, o⟩
      ((agent.consume_one "t" task).exec (sample_answer outcome) h.state).2.1 := by
  have hrun := Co.run_exec (fun s => (⟨rfl, rfl⟩ : agent.Apart task s s)) (sample_answer outcome)
    (agent.consume_one "t" task) h.state
  obtain ⟨o, ho⟩ := exists_ended hrun
  exact ⟨o, ⟨_, hrun⟩, ho⟩

/-- A task whose handler raises, for the first time. -/
theorem disposed_iff_sample :
    let tr := (((sample_agent 3).consume_one "t" sample_task).exec
      (sample_answer (.error (.error "boom"))) (.started 0)).1
    ∃ o,
      let d : Service := ⟨"t", sample_task, tr, o⟩
      (sample_agent 3).Disposed (.id "1-0") ⟨.started 0, []⟩ d ↔
        (∃ k, (sample_agent 3).Admitted sample_task k (.started 0) ∧
          (sample_agent 3).Settles (.id "1-0") (Course.own ⟨.started 0, []⟩ k)
            ((sample_agent 3).opened sample_task) (.started 0) tr) ∧ ¬ NotAcquired tr := by
  obtain ⟨o, hdel⟩ := delivers_sample (sample_agent 3) ⟨.started 0, []⟩ sample_task
    (.error (.error "boom"))
  exact ⟨o, disposed_iff rfl (by decide) hdel⟩

/-- A task of another protocol version. -/
def invalid_task : Message := { sample_task with version := .str "2.0" }

/-- A task with the version `2.0` is dropped by the validation, and it stays unacknowledged. -/
theorem undisposed_invalid :
    ¬ ∀ (agent : Agent) (tid : TransportId) (h : Course) (d : Service) (s' : AgentState),
      d.message.transport_msg_id = some tid → tid.truthy = true → h.state.running = true →
      agent.Delivers h d s' → agent.Disposed tid h d := by
  intro hall
  obtain ⟨o, hdel⟩ := delivers_sample (sample_agent 3) ⟨.started 0, []⟩ invalid_task (.ok none)
  have hnone : ¬ ∃ s₁ tr₁, (sample_agent 3).Processes "t" invalid_task (.started 0)
      (((sample_agent 3).consume_one "t" invalid_task).exec (sample_answer (.ok none)) (.started 0)).1
      s₁ tr₁ := by
    rintro ⟨s₁, tr₁, k, hadm, -⟩
    exact absurd hadm.valid (by decide +kernel)
  have hdisp := hall _ (.id "1-0") _ _ _ rfl (by decide) rfl hdel
  have hcount : ackCount (.id "1-0") (((sample_agent 3).consume_one "t" invalid_task).exec
      (sample_answer (.ok none)) (.started 0)).1 = 1 :=
    hdisp.2 fun hbelow => by cases (hdel.ended.eq_dropped hnone).symm.trans hbelow.1
  revert hcount
  decide +kernel

end Agent

end Aqap
