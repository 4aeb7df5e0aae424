import Aqap.Agent.Frame

/-!
# A message whose handler raises

A message that is not acknowledged is delivered again. Two parts of the agent act on the redelivery:
`_handle_failure` counts on it, and the idempotency cache, in which the id was recorded before the
handler ran, drops it.

* `elsewhere_idempotency_cleanup`, `elsewhere_consume_one`: what the other tasks of the agent leave
  alone meanwhile.
* `run_raising`: one delivery, from which `retried_iff` follows by induction on the deliveries.
* `retried_iff`: the handler is invoked until the limit and the message is then dead-lettered, once,
  exactly if each redelivery comes after the TTL of the one before it, or after its id left the cache,
  the transport accepts the dead letter, and no earlier failure is counted under the key of the message
  (or too few for the deliveries to reach the limit).
* `redelivery_dropped`: a message that comes again at once is dropped.
-/

namespace Aqap

open Py Aqap.Core Async

/-- The request publishes on the topic of the dead letters. -/
def Request.to_dlq : Request → Bool
  | .publish topic _ => topic == DLQ_TOPIC
  | _ => false

/-- The publications of dead letters. -/
def dead_letters (tr : List AgentEvent) : List AgentEvent := tr.filter fun ev => ev.req.to_dlq

theorem mem_dead_letters {tr : List AgentEvent} {ev : AgentEvent} :
    ev ∈ dead_letters tr ↔ ev ∈ tr ∧ ev.req.to_dlq = true := List.mem_filter

theorem dead_letters_append (t₁ t₂ : List AgentEvent) :
    dead_letters (t₁ ++ t₂) = dead_letters t₁ ++ dead_letters t₂ := List.filter_append ..

namespace Agent

variable {self : Agent} {m : Message} {topic : String} {s s' : AgentState} {tr : List AgentEvent}

/-! ## The other tasks -/

/-- What the other tasks of the agent do while `m` is pending: time passes, the id of `m` may leave the
cache, and messages with other ids and other retry counts are processed. -/
structure Elsewhere (agent : Agent) (m : Message) (s s' : AgentState) : Prop where
  running : s'.running = s.running
  failures : agent.failures m s' = agent.failures m s
  recorded : ∀ k, m.message_id.key = .ok k →
    s'.processed_ids.get? k = s.processed_ids.get? k ∨ s'.processed_ids.get? k = none

namespace Elsewhere

theorem refl (s : AgentState) : self.Elsewhere m s s := ⟨rfl, rfl, fun _ _ => .inl rfl⟩

theorem trans {s₁ s₂ s₃ : AgentState} (h₁ : self.Elsewhere m s₁ s₂) (h₂ : self.Elsewhere m s₂ s₃) :
    self.Elsewhere m s₁ s₃ where
  running := h₂.running.trans h₁.running
  failures := h₂.failures.trans h₁.failures
  recorded k hk := by
    rcases h₂.recorded k hk with h | h
    · rw [h]
      exact h₁.recorded k hk
    · exact .inr h

/-- A recorded id stays recorded with its time, or it is removed. -/
theorem entry {k : Key} {ts : Int} (h : self.Elsewhere m s s') (hk : m.message_id.key = .ok k)
    (hentry : s.processed_ids.get? k = some ts ∨ s.processed_ids.get? k = none) :
    s'.processed_ids.get? k = some ts ∨ s'.processed_ids.get? k = none := by
  rcases h.recorded k hk with heq | hnone
  · rwa [heq]
  · exact .inr hnone

theorem tick (now : Int) : self.Elsewhere m s { s with clock := now } :=
  ⟨rfl, rfl, fun _ _ => .inl rfl⟩

end Elsewhere

theorem get?_filter_or (d : Dict Key Int) (p : Key → Int → Bool) (k : Key) :
    (d.filter p).get? k = d.get? k ∨ (d.filter p).get? k = none := by
  rw [Dict.get?_filter]
  cases d.get? k with
  | none => exact .inl rfl
  | some ts => by_cases h : p k ts <;> simp [Option.filter, h]

theorem elsewhere_idempotency_cleanup (s : AgentState) :
    self.Elsewhere m s (self.idempotency_cleanup s) := by
  unfold idempotency_cleanup
  lift_lets
  intro cutoff ids sorted_ids overflow
  have hids : ∀ k, ids.get? k = s.processed_ids.get? k ∨ ids.get? k = none :=
    get?_filter_or s.processed_ids _
  split
  · refine ⟨rfl, rfl, fun k _ => ?_⟩
    rcases get?_filter_or ids (fun id _ => !(overflow.map Prod.fst).contains id) k with h | h
    · rw [h]
      exact hids k
    · exact .inr h
  · exact ⟨rfl, rfl, fun k _ => hids k⟩

/-- An iteration of a message with another id and another key. -/
theorem elsewhere_consume_one {m' : Message} (hid : m'.message_id.key ≠ m.message_id.key)
    (hkey : self.msg_key m' ≠ self.msg_key m) :
    Co.Guarded (fun _ => True) (self.Elsewhere m) (fun _ => True) (self.consume_one topic m') := by
  refine .read_bind fun s _ => ?_
  split
  · exact .pure _
  refine .bind (.update fun s _ => ⟨trivial, rfl, rfl, fun _ _ => .inl rfl⟩) fun _ => ?_
  split
  · exact .pure _
  refine guarded_deduplicate ⟨?_, ?_, ?_⟩ ?_ (fun _ _ => trivial) fun _ _ _ _ _ _ => trivial
  · exact fun s _ _ => ⟨trivial, rfl, rfl, fun _ _ => .inl rfl⟩
  · exact fun s _ _ => ⟨trivial, rfl, rfl, fun _ _ => .inl rfl⟩
  · intro s d hd _
    refine ⟨trivial, rfl, ?_, fun _ _ => .inl rfl⟩
    unfold failures
    rw [hd _ hkey.symm]
  · intro s k now hk _
    refine ⟨trivial, rfl, rfl, fun k' hk' => .inl ?_⟩
    have hne : k' ≠ k := by
      rintro rfl
      exact hid (hk.trans hk'.symm)
    rw [Dict.get?_set, if_neg hne]

/-! ## Deliveries -/

/-- A delivery of the message: the state it found, the awaits of its iteration, and the state after
it. -/
structure Delivery where
  before : AgentState
  events : List AgentEvent
  after : AgentState

/-- Every invocation of the handler raises, and the semaphore is entered. -/
structure HandlerRaises (tr : List AgentEvent) : Prop where
  handler : ∀ m ans st, (⟨.handle_message m, ans, st⟩ : AgentEvent) ∈ tr →
    ∃ text, ans = .error (.error text)
  acquire : ∀ ans st, (⟨.acquire, ans, st⟩ : AgentEvent) ∈ tr → ans = .ok ()

/-- Deliveries of `m` one after another, on any topics and at any times, whose handler raises. -/
inductive Redelivered (self : Agent) (m : Message) : AgentState → List Delivery → Prop
  | done {s : AgentState} : Redelivered self m s []
  | next {s : AgentState} {topic : String} {r : Except Exc Bool} {d : Delivery} {ds : List Delivery} :
      self.Elsewhere m s d.before →
      Co.Run (self.Elsewhere m) (self.consume_one topic m) d.before d.events d.after r →
      HandlerRaises d.events → Redelivered self m d.after ds → Redelivered self m s (d :: ds)

/-- The delivery is attempt `i` at the message: its handler is invoked, and one dead letter is
published, with the retry count `n`, if `i` is the limit `n`. -/
def IsAttempt (self : Agent) (m : Message) (n i : Nat) (tr : List AgentEvent) : Prop :=
  (∃ ev ∈ tr, ev.req = .handle_message (self.opened m)) ∧
    (i < n → dead_letters tr = []) ∧
    (i = n → ∃ msg st, dead_letters tr = [⟨.publish DLQ_TOPIC msg, .ok (), st⟩] ∧
      CarriesDeadLetter (self.opened m) n msg)

/-- The deliveries are the attempts `i`, `i + 1`, and so on up to the limit `n`. -/
def Retried (self : Agent) (m : Message) (n : Nat) : Nat → List Delivery → Prop
  | _, [] => True
  | i, d :: ds => self.IsAttempt m n i d.events ∧ (i < n → Retried self m n (i + 1) ds)

/-- The delivery `d'` comes after the TTL of `d`, or the id was removed from the cache. -/
def Expired (self : Agent) (m : Message) (d d' : Delivery) : Prop :=
  self.idempotency_ttl ≤ d'.before.clock - d.before.clock ∨
    ∀ k, m.message_id.key = .ok k → d'.before.processed_ids.get? k = none

/-- After the attempt `i` with the delivery `d`, and up to the limit `n`, each delivery comes when the
one before it has expired, and its dead letter is accepted. -/
def Spaced (self : Agent) (m : Message) (n : Nat) : Nat → Delivery → List Delivery → Prop
  | _, _, [] => True
  | i, d, d' :: ds =>
    i < n → (self.Expired m d d' ∧ Accepted d'.events) ∧ Spaced self m n (i + 1) d' ds

/-! ## One delivery -/

theorem dead_letters_ack_last {R : AgentState → AgentState → Prop} {r : Except Exc Unit}
    (h : Co.Run R (ack_last topic) s tr s' r) : dead_letters tr = [] := by
  rcases run_ack_last h with ⟨id, -, rfl, -⟩ | ⟨-, rfl, -, -⟩ <;> rfl

/-- `dead_letter` publishes one dead letter; if that returns, the retry count is cleared. -/
theorem run_dead_letter_once {R : AgentState → AgentState → Prop} {error : String} {n : Nat}
    {r : Except Exc Unit} (h : Co.Run R (self.dead_letter m error n topic) s tr s' r) :
    ∃ msg ans st, dead_letters tr = [⟨.publish DLQ_TOPIC msg, ans, st⟩] ∧ CarriesDeadLetter m n msg ∧
      R { s with made := s.made + 1 } st ∧
      ((∃ e, ans = .error e ∧ s' = st) ∨ (ans = .ok () ∧ ∃ rest, Co.Run R (ack_last topic)
        { st with retry_counts := st.retry_counts.pop (self.msg_key m) } rest s' r)) := by
  obtain ⟨msg, ans, st, rest, rfl, hcarries, hst, hrest⟩ := run_dead_letter h
  have hone : dead_letters (⟨.publish DLQ_TOPIC msg, ans, st⟩ :: rest) =
      ⟨.publish DLQ_TOPIC msg, ans, st⟩ :: dead_letters rest := rfl
  rw [hone]
  rcases hrest with ⟨e, rfl, rfl, rfl, -⟩ | ⟨rfl, hack⟩
  · exact ⟨msg, _, _, rfl, hcarries, hst, .inl ⟨e, rfl, rfl⟩⟩
  · rw [dead_letters_ack_last hack]
    exact ⟨msg, _, st, rfl, hcarries, hst, .inr ⟨rfl, rest, hack⟩⟩

/-- An attempt whose handler raises ends with that. -/
theorem attempt_raising {R : AgentState → AgentState → Prop} {r : Except Exc Unit}
    (hr : HandlerRaises tr) (h : Co.Run R (self.attempt m) s tr s' r) :
    ∃ text st, r = .error (.error text) ∧ tr = [⟨.handle_message m, .error (.error text), st⟩] := by
  rcases run_attempt h with ⟨-, _, st, _, rfl, -⟩ | ⟨e, rfl, rfl | ⟨_, st, _, _, _, _, _, rfl, -⟩⟩
  · obtain ⟨text, ⟨⟩⟩ := hr.handler _ _ st List.mem_cons_self
  · obtain ⟨text, he⟩ := hr.handler _ _ s' List.mem_cons_self
    cases he
    exact ⟨text, s', rfl, rfl⟩
  · obtain ⟨text, ⟨⟩⟩ := hr.handler _ _ st List.mem_cons_self

theorem HandlerRaises.left {t₁ t₂ : List AgentEvent} (h : HandlerRaises (t₁ ++ t₂)) :
    HandlerRaises t₁ where
  handler m ans st hev := h.handler m ans st (List.mem_append_left _ hev)
  acquire ans st hev := h.acquire ans st (List.mem_append_left _ hev)

/-- The processing of a message whose handler raises: the failure is counted, and at the limit the
message goes to the dead letters with that count. -/
theorem process_one_raising {R : AgentState → AgentState → Prop} {n : Nat} {r : Except Exc Bool}
    (hn : self.max_retries = n)
    (hR : ∀ s s', R s s' → self.failures m s' = self.failures m s) (hr : HandlerRaises tr)
    (h : Co.Run R (self.process_one m topic) s tr s' r) :
    (∃ ev ∈ tr, ev.req = .handle_message m) ∧
    (self.failures m s + 1 < n →
      dead_letters tr = [] ∧ self.failures m s' = self.failures m s + 1) ∧
    (n ≤ self.failures m s + 1 → ∃ msg ans st, dead_letters tr = [⟨.publish DLQ_TOPIC msg, ans, st⟩] ∧
      CarriesDeadLetter m (self.failures m s + 1) msg) := by
  cases run_process_one h with
  | handled ha => obtain ⟨text, st, ⟨⟩, -⟩ := attempt_raising hr.left ha
  | cancelled ha => obtain ⟨text, st, ⟨⟩, -⟩ := attempt_raising hr.left ha
  | @retried t₁ s₁ text ha hbelow =>
    have hcount : self.failures m s₁ = self.failures m s := (failures_of_attempt hR ha).2 _ rfl
    obtain ⟨_, st, -, rfl⟩ := attempt_raising hr ha
    refine ⟨⟨_, List.mem_cons_self, rfl⟩, fun _ => ⟨rfl, ?_⟩, fun hlim => ?_⟩
    · rw [failures_failed_once, hcount]
    · rw [hcount, hn] at hbelow
      omega
  | @exhausted t₁ t₂ t₃ s₁ s₂ _ text r₂ r ha hle hd hf =>
    have hcount : self.failures m s₁ = self.failures m s := (failures_of_attempt hR ha).2 _ rfl
    obtain ⟨_, st, -, rfl⟩ := attempt_raising hr.left ha
    refine ⟨⟨_, List.mem_cons_self, rfl⟩, fun hbelow => ?_, fun hlim => ?_⟩
    · rw [hcount, hn] at hle
      omega
    obtain ⟨msg, ans, st', hone, hcarries, -⟩ := run_dead_letter_once hd
    refine ⟨msg, ans, st', ?_, ?_⟩
    · rw [dead_letters_append, dead_letters_append, dead_letters_ack_last hf, List.append_nil, hone]
      rfl
    · rw [← hcount]
      exact hcarries

/-- An attempt at a message publishes a dead letter at the limit only, and there one that is
accepted. -/
theorem accepted_of_isAttempt {n i : Nat} (hi : i ≤ n) (h : self.IsAttempt m n i tr) :
    Accepted tr := by
  obtain ⟨-, hbelow, hlim⟩ := h
  intro msg e st hev
  have hmem : (⟨.publish DLQ_TOPIC msg, .error e, st⟩ : AgentEvent) ∈ dead_letters tr :=
    mem_dead_letters.mpr ⟨hev, rfl⟩
  rcases Nat.lt_or_eq_of_le hi with hlt | heq
  · rw [hbelow hlt] at hmem
    cases hmem
  · obtain ⟨msg', st', hone, -⟩ := hlim heq
    rw [hone, List.mem_singleton] at hmem
    cases hmem

/-- **One delivery.** The handler is invoked on a message that passes the checks. When it raises, the
failure is counted, and at the limit the message goes to the dead letters with that count; afterwards
its id is in the cache with the time of the delivery, or it was removed from there. -/
theorem run_raising {k : Key} {n : Nat} {r : Except Exc Bool} (hn : self.max_retries = n)
    (hadm : self.Admitted m k s)
    (h : Co.Run (self.Elsewhere m) (self.consume_one topic m) s tr s' r) (hr : HandlerRaises tr) :
    ((∃ ev ∈ tr, ev.req = .handle_message (self.opened m)) ∧
      (self.failures m s + 1 < n →
        dead_letters tr = [] ∧ self.failures m s' = self.failures m s + 1) ∧
      (n ≤ self.failures m s + 1 → ∃ msg ans st,
        dead_letters tr = [⟨.publish DLQ_TOPIC msg, ans, st⟩] ∧
          CarriesDeadLetter (self.opened m) (self.failures m s + 1) msg)) ∧
      s'.running = true ∧
      (s'.processed_ids.get? k = some s.clock ∨ s'.processed_ids.get? k = none) := by
  obtain ⟨r₁, -, hrun⟩ := (run_consume_one h).of_admitted hadm
  refine ⟨?_, ?_⟩
  · -- The semaphore is entered, and the message is processed with the same retry count.
    have hR : ∀ s₁ s₂, self.Elsewhere m s₁ s₂ →
        self.failures (self.opened m) s₂ = self.failures (self.opened m) s₁ := by
      intro s₁ s₂ h₁₂
      rw [failures_opened]
      exact h₁₂.failures
    have hstart : self.failures (self.opened m) (self.admitted_state topic m k s) =
        self.failures m s := by
      rw [failures_opened]
      rfl
    rcases run_with_sem hrun with ⟨-, hp⟩ | ⟨-, ans, st, rest, rfl, hst, hp⟩
    · have := process_one_raising hn hR hr hp
      rwa [hstart, failures_opened] at this
    · cases hr.acquire ans st List.mem_cons_self
      rcases hp with ⟨e, ⟨⟩, -⟩ | ⟨-, hp⟩
      have hcount : self.failures (self.opened m) st = self.failures m s := (hR _ _ hst).trans hstart
      have hr' : HandlerRaises rest :=
        ⟨fun m ans st h => hr.handler m ans st (List.mem_cons_of_mem _ h),
          fun ans st h => hr.acquire ans st (List.mem_cons_of_mem _ h)⟩
      have := process_one_raising hn hR hr' hp
      rw [hcount, failures_opened] at this
      obtain ⟨⟨ev, hev, hreq⟩, hbelow, hlim⟩ := this
      exact ⟨⟨ev, List.mem_cons_of_mem _ hev, hreq⟩, hbelow, hlim⟩
  · let I (s₁ : AgentState) : Prop := s₁.running = true ∧
      (s₁.processed_ids.get? k = some s.clock ∨ s₁.processed_ids.get? k = none)
    have hg : Co.Guarded I (fun _ _ => True) (fun _ => True)
        (self.with_sem (self.process_one (self.opened m) topic)) := by
      refine guarded_with_sem trivial (guarded_process_one ?_ ?_ ?_ ?_)
      · exact .of_forall (fun _ _ h => h) (fun _ _ h => h) fun _ _ h => h
      all_goals intros; trivial
    have hstart : I (self.admitted_state topic m k s) :=
      ⟨hadm.running, .inl ((Dict.get?_set ..).trans (if_pos rfl))⟩
    refine (hg.run ?_ hstart hrun).1
    rintro s₁ s₂ helse ⟨hrunning, hentry⟩
    exact ⟨helse.running.trans hrunning, helse.entry hadm.key hentry⟩

/-- With `c` failures counted before the first attempt, the delivery after `i` of them is the attempt
`i + 1` if its dead letter is accepted, and if the count is that of the attempts alone or stays below
the limit. -/
theorem isAttempt_iff {k : Key} {n c i : Nat} {r : Except Exc Bool} (hn : self.max_retries = n)
    (hi : i < n) (hfail : self.failures m s = c + i) (hadm : self.Admitted m k s)
    (h : Co.Run (self.Elsewhere m) (self.consume_one topic m) s tr s' r) (hr : HandlerRaises tr) :
    self.IsAttempt m n (i + 1) tr ↔ Accepted tr ∧ (c = 0 ∨ c + (i + 1) < n) := by
  obtain ⟨hinvoked, hbelow, hlim⟩ := (run_raising hn hadm h hr).1
  rw [hfail] at hbelow hlim
  constructor
  · intro hatt
    refine ⟨accepted_of_isAttempt hi hatt, ?_⟩
    obtain ⟨-, hnone, hone⟩ := hatt
    by_cases hreach : c + (i + 1) < n
    · exact .inr hreach
    obtain ⟨msg, ans, st, hletter, hcarries⟩ := hlim (by omega)
    rcases Nat.lt_or_eq_of_le (show i + 1 ≤ n from hi) with hlt | heq
    · rw [hnone hlt] at hletter
      cases hletter
    · obtain ⟨msg', st', hletter', hcarries'⟩ := hone heq
      cases hletter.symm.trans hletter'
      have := hcarries.count_eq hcarries'
      exact .inl (by omega)
  · rintro ⟨hacc, hc⟩
    refine ⟨hinvoked, fun hlt => (hbelow (by omega)).1, fun heq => ?_⟩
    obtain ⟨msg, ans, st, hone, hcarries⟩ := hlim (by omega)
    have hcount : c + i + 1 = n := by omega
    rw [hcount] at hcarries
    cases ans with
    | ok u => exact ⟨msg, st, hone, hcarries⟩
    | error e =>
      have hmem : (⟨.publish DLQ_TOPIC msg, .error e, st⟩ : AgentEvent) ∈ dead_letters tr := by
        rw [hone]
        exact List.mem_singleton_self _
      exact absurd (mem_dead_letters.mp hmem).1 (hacc msg e st)

/-- A delivery that is dropped invokes no handler. -/
theorem admitted_of_isAttempt {R : AgentState → AgentState → Prop} {n i : Nat} {r : Except Exc Bool}
    (h : Co.Run R (self.consume_one topic m) s tr s' r) (hatt : self.IsAttempt m n i tr) :
    ∃ k, self.Admitted m k s := by
  obtain ⟨⟨ev, hev, hreq⟩, -⟩ := hatt
  cases run_consume_one h with
  | admitted hadm => exact ⟨_, hadm⟩
  | unknown =>
    rw [List.mem_singleton] at hev
    subst hev
    cases hreq
  | _ => cases hev

/-! ## All deliveries -/

/-- A redelivery passes the checks that the first delivery passed, once that has expired. -/
theorem expired_iff {k : Key} {d d' : Delivery} (hk : m.message_id.key = .ok k)
    (hentry : d'.before.processed_ids.get? k = some d.before.clock ∨
      d'.before.processed_ids.get? k = none) :
    self.Expired m d d' ↔ self.seen (d'.before.processed_ids.get? k) d'.before.clock = false := by
  unfold Expired
  have hforall : (∀ k', m.message_id.key = .ok k' → d'.before.processed_ids.get? k' = none) ↔
      d'.before.processed_ids.get? k = none := by
    constructor
    · exact fun h => h k hk
    · rintro h k' hk'
      cases hk.symm.trans hk'
      exact h
  rw [hforall]
  rcases hentry with h | h
  · rw [h]
    simp [seen]
  · rw [h]
    simp [seen]

/-- The redeliveries after the attempt `i` with the delivery `d`; `c` failures were counted before the
first attempt. -/
theorem retried_iff_spaced {k : Key} {n c i : Nat} {s₀ : AgentState} {d : Delivery}
    {ds : List Delivery} (hn : self.max_retries = n) (hadm : self.Admitted m k s₀)
    (hrun : s.running = true) (hfail : i < n → self.failures m s = c + i)
    (hc : i < n → c = 0 ∨ c + i < n)
    (hentry : s.processed_ids.get? k = some d.before.clock ∨ s.processed_ids.get? k = none)
    (h : self.Redelivered m s ds) :
    (i < n → self.Retried m n (i + 1) ds) ↔
      self.Spaced m n i d ds ∧ (i < n → c = 0 ∨ c + i + ds.length < n) := by
  induction ds generalizing s i d with
  | nil => exact iff_of_true (fun _ => trivial) ⟨trivial, hc⟩
  | cons d' ds ih =>
    obtain _ | ⟨helse, hd', hr, hds⟩ := h
    rw [Spaced, ← forall_and]
    refine forall_congr' fun hi => ?_
    have hfail' : self.failures m d'.before = c + i := helse.failures.trans (hfail hi)
    have hentry' := helse.entry hadm.key hentry
    by_cases hexp : self.Expired m d d'
    · have hadm' : self.Admitted m k d'.before :=
        { hadm with
          running := helse.running.trans hrun
          not_seen := (expired_iff hadm.key hentry').mp hexp }
      have hatt := isAttempt_iff hn hi hfail' hadm' hd' hr
      obtain ⟨⟨-, hcount, -⟩, hrun', hrec⟩ := run_raising hn hadm' hd' hr
      rw [Retried, hatt, List.length_cons]
      by_cases hc' : c = 0 ∨ c + (i + 1) < n
      · have hnext : i + 1 < n → self.failures m d'.after = c + (i + 1) := by
          intro hlt
          rw [(hcount (by omega)).2, hfail', Nat.add_assoc]
        rw [ih hrun' hnext (fun _ => hc') hrec hds]
        exact ⟨fun ⟨⟨hacc, _⟩, hs, hlen⟩ => ⟨⟨⟨hexp, hacc⟩, hs⟩, by omega⟩,
          fun ⟨⟨⟨_, hacc⟩, hs⟩, hlen⟩ => ⟨⟨hacc, hc'⟩, hs, by omega⟩⟩
      · exact iff_of_false (fun h => hc' h.1.2) fun h => hc' (by omega)
    · refine iff_of_false ?_ fun h => hexp h.1.1.1
      rintro ⟨hatt, -⟩
      obtain ⟨k', hadm'⟩ := admitted_of_isAttempt hd' hatt
      cases hadm.key.symm.trans hadm'.key
      exact hexp ((expired_iff hadm.key hentry').mpr hadm'.not_seen)

/-- No failure is counted under the key of the message, or so few that the deliveries do not reach the
limit `n`. -/
def Uncounted (self : Agent) (m : Message) (n : Nat) (s : AgentState) (ds : List Delivery) : Prop :=
  self.failures m s = 0 ∨ self.failures m s + ds.length < n

/-- **When a message is tried again until it is dead-lettered.** Every delivery of a message whose
handler raises is an attempt at it, up to the limit and the one dead letter there, if and only if the
first delivery passes the checks, each redelivery comes after the TTL of the one before it or after the
id was removed from the cache, the dead letter is accepted, and no failure was counted under the key of
the message before, or too few for these deliveries to reach the limit. -/
theorem retried_iff {n : Nat} {d : Delivery} {ds : List Delivery} (hn : self.max_retries = n)
    (hpos : 1 ≤ n) (h : self.Redelivered m s (d :: ds)) :
    self.Retried m n 1 (d :: ds) ↔
      (((∃ k, self.Admitted m k d.before) ∧ Accepted d.events) ∧ self.Spaced m n 1 d ds) ∧
        self.Uncounted m n s (d :: ds) := by
  obtain _ | ⟨helse, hd, hr, hds⟩ := h
  rw [Uncounted, ← helse.failures, List.length_cons]
  by_cases hadm : ∃ k, self.Admitted m k d.before
  · obtain ⟨k, hadm⟩ := hadm
    have hatt := isAttempt_iff hn hpos (Nat.add_zero _).symm hadm hd hr
    obtain ⟨⟨-, hcount, -⟩, hrun, hrec⟩ := run_raising hn hadm hd hr
    rw [Retried, hatt]
    by_cases hc : self.failures m d.before = 0 ∨ self.failures m d.before + (0 + 1) < n
    · have hnext : 1 < n → self.failures m d.after = self.failures m d.before + 1 :=
        fun hlt => (hcount (by omega)).2
      rw [retried_iff_spaced hn hadm hrun hnext (fun _ => hc) hrec hds]
      exact ⟨fun ⟨⟨hacc, _⟩, hs, hlen⟩ => ⟨⟨⟨⟨k, hadm⟩, hacc⟩, hs⟩, by omega⟩,
        fun ⟨⟨⟨_, hacc⟩, hs⟩, hlen⟩ => ⟨⟨hacc, hc⟩, hs, by omega⟩⟩
    · exact iff_of_false (fun h => hc h.1.2) fun h => hc (by omega)
  · exact iff_of_false (fun h => hadm (admitted_of_isAttempt hd h.1)) fun h => hadm h.1.1.1

/-! ## A task that comes twice -/

/-- The delivery of `sample_task` at the time `clock`; its handler raises. -/
def sample_delivery (self : Agent) (clock : Int) (s : AgentState) : Delivery :=
  let before := { s with clock }
  let run := (self.consume_one "t" sample_task).exec (sample_answer (.error (.error "boom"))) before
  ⟨before, run.1, run.2.1⟩

/-- The task comes at the times 0 and `clock`. -/
def sample_deliveries (self : Agent) (clock : Int) : List Delivery :=
  let d := sample_delivery self 0 (AgentState.started 0)
  [d, sample_delivery self clock d.after]

theorem redelivered_sample (clock : Int) :
    self.Redelivered sample_task (AgentState.started 0) (sample_deliveries self clock) := by
  have hnext : ∀ (s : AgentState) (now : Int) (ds : List Delivery),
      self.Redelivered sample_task (sample_delivery self now s).after ds →
      self.Redelivered sample_task s (sample_delivery self now s :: ds) := by
    intro s now ds hds
    refine .next (.tick now) (Co.run_exec Elsewhere.refl _ _ _) ⟨?_, ?_⟩ hds
    · intro m ans st hev
      exact ⟨"boom", Co.exec_ans _ _ _ _ hev⟩
    · intro ans st hev
      exact Co.exec_ans _ _ _ _ hev
  exact hnext _ 0 _ (hnext _ clock _ .done)

/-- The task comes again when the TTL is over. -/
theorem retried_iff_sample :
    (sample_agent 2).Retried sample_task 2 1 (sample_deliveries (sample_agent 2) (300 * second)) ↔
      (((∃ k, (sample_agent 2).Admitted sample_task k (AgentState.started 0)) ∧
        Accepted (sample_delivery (sample_agent 2) 0 (AgentState.started 0)).events) ∧
      (sample_agent 2).Spaced sample_task 2 1
        (sample_delivery (sample_agent 2) 0 (AgentState.started 0))
        [sample_delivery (sample_agent 2) (300 * second)
          (sample_delivery (sample_agent 2) 0 (AgentState.started 0)).after]) ∧
      (sample_agent 2).Uncounted sample_task 2 (AgentState.started 0)
        (sample_deliveries (sample_agent 2) (300 * second)) :=
  retried_iff rfl (by decide) (redelivered_sample (300 * second))

/-- The limit is 2, and the task comes again at once: the redelivery is dropped as a duplicate. -/
theorem redelivery_dropped :
    ¬ ∀ (self : Agent) (m : Message) (n : Nat) (s : AgentState) (ds : List Delivery),
      self.max_retries = n → 1 ≤ n → self.failures m s = 0 → self.Redelivered m s ds →
      self.Retried m n 1 ds := by
  intro h
  have hret := h (sample_agent 2) sample_task 2 _ _ rfl (by decide) rfl (redelivered_sample 0)
  obtain ⟨⟨ev, hev, -⟩, -⟩ := (hret.2 (by decide)).1
  have hlen : (sample_delivery (sample_agent 2) 0
      (sample_delivery (sample_agent 2) 0 (AgentState.started 0)).after).events.length = 0 := by
    decide +kernel
  rw [List.length_eq_zero_iff] at hlen
  rw [hlen] at hev
  cases hev

end Agent

end Aqap
