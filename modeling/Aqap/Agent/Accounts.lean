import Aqap.Agent.Publications
import Aqap.Agent.Retry
import Aqap.Async.Lts
import Mathlib.Data.Set.Basic

/-!
# The retry counts of several messages

The agent keeps a retry count for each text `source:trace_id:type`. The messages of one trace that come
from one source with one type share it, whatever their ids are.

* `Course.own`: the failures of a message by itself, from the outcomes of its own deliveries.
* `run_counted`: what one delivery does to the count.
* `accounts_iff`: every message is counted by itself exactly if no message is handled or fails while
  another one with the same text has failures.
* `buried_after_one_failure`: two messages that share a count.
-/

namespace Aqap

open Py Aqap.Core Async

/-- How the attempt at a message ended; a delivery without an attempt was dropped. -/
inductive Outcome where
  | handled
  | failed
  | cancelled
  | dropped
  deriving DecidableEq

/-- The outcome of an attempt that ended with `r`. -/
def Outcome.of : Except Exc Unit → Outcome
  | .ok _ => .handled
  | .error (.error _) => .failed
  | .error .cancelled => .cancelled

/-- The failures of a message that had failed `n` times; one that is dead-lettered starts again. -/
def Outcome.count (buried : Bool) (n : Nat) : Outcome → Nat
  | .handled => 0
  | .failed => if buried then 0 else n + 1
  | .cancelled => n
  | .dropped => n

/-- The attempt ended, and its message is handled or has failed. -/
def Outcome.Settled (o : Outcome) : Prop := o = .handled ∨ o = .failed

theorem Outcome.count_of_not_settled {o : Outcome} {b : Bool} {n : Nat} (h : ¬ o.Settled) :
    o.count b n = n := by
  cases o with
  | handled => exact absurd (.inl rfl) h
  | failed => exact absurd (.inr rfl) h
  | cancelled => rfl
  | dropped => rfl

/-- A dead letter was published, and the publication returned. -/
def buried (tr : List AgentEvent) : Bool := (dead_letters tr).any fun ev => ev.ans.toBool

/-- A delivery of a message, with the awaits of its iteration and the outcome. -/
structure Service where
  topic : String
  message : Message
  events : List AgentEvent
  outcome : Outcome

/-- The state of the agent, and the deliveries that came before. -/
structure Course where
  state : AgentState
  past : List Service

/-- The failures of the message with the id `k` since it was last handled or dead-lettered; only its own
deliveries count. -/
def Course.own (h : Course) (k : Key) : Nat :=
  (h.past.filter fun d => d.message.message_id.key.toOption = some k).foldl
    (fun n d => d.outcome.count (buried d.events) n) 0

namespace Agent

variable {agent : Agent} {m : Message} {topic : String} {s s' : AgentState} {tr : List AgentEvent}
  {R : AgentState → AgentState → Prop} {keys : Set String}

/-- The retry count that is kept under the text `key`. -/
def counted (key : String) (s : AgentState) : Nat := (s.retry_counts.get? key).getD 0

/-- The attempt of the iteration that started in the state `s` ended with the outcome. -/
inductive Ended (agent : Agent) (topic : String) (m : Message) (s : AgentState) (tr : List AgentEvent) :
    Outcome → Prop
  | dropped : (∀ s₁ tr₁, ¬ agent.Processes topic m s tr s₁ tr₁) → Ended agent topic m s tr .dropped
  | attempted {s₁ s₂ : AgentState} {t₁ t₂ : List AgentEvent} {r : Except Exc Unit} :
      agent.Processes topic m s tr s₁ (t₁ ++ t₂) →
      Co.Run (fun _ _ => True) (agent.attempt (agent.opened m)) s₁ t₁ s₂ r →
      Ended agent topic m s tr (.of r)

/-- The other tasks leave the counts under the texts `keys` alone. -/
def KeepsCounts (keys : Set String) (s s' : AgentState) : Prop :=
  ∀ key ∈ keys, counted key s' = counted key s

/-- The delivery `d` of a message that has one of the texts `keys`. Meanwhile and until the next delivery
other tasks run. Messages with the same id are the same message. -/
structure Serves (agent : Agent) (keys : Set String) (h : Course) (d : Service) (h' : Course) : Prop where
  run : ∃ s r, Co.Run (KeepsCounts keys) (agent.consume_one d.topic d.message) h.state d.events s r ∧
    KeepsCounts keys s h'.state
  ended : agent.Ended d.topic d.message h.state d.events d.outcome
  key : agent.msg_key d.message ∈ keys
  same : ∀ d' ∈ h.past, ∀ k, d'.message.message_id.key = .ok k → d.message.message_id.key = .ok k →
    agent.msg_key d'.message = agent.msg_key d.message
  past : h'.past = h.past ++ [d]

/-- The count of a message that has failed is that of its own failures. -/
def Keeps (agent : Agent) (h : Course) : Prop :=
  ∀ d ∈ h.past, ∀ k, d.message.message_id.key = .ok k → 0 < h.own k →
    agent.failures d.message h.state = h.own k

/-- The message is dead-lettered exactly if this is a failure, and the message has failed `max_retries`
times by itself. -/
def Decides (agent : Agent) (h : Course) (d : Service) : Prop :=
  ∀ k, d.message.message_id.key = .ok k →
    (dead_letters d.events ≠ [] ↔ d.outcome = .failed ∧ agent.max_retries ≤ h.own k + 1)

/-- The message is not handled and does not fail while another one with the same text has failures. -/
def Unshared (agent : Agent) (h : Course) (d : Service) : Prop :=
  d.outcome.Settled →
    ∀ d' ∈ h.past, ∀ k, d'.message.message_id.key = .ok k → d.message.message_id.key ≠ .ok k →
      agent.msg_key d'.message = agent.msg_key d.message → h.own k = 0

/-! ## One delivery -/

theorem dead_letters_attempt {r : Except Exc Unit} (h : Co.Run R (agent.attempt m) s tr s' r) :
    dead_letters tr = [] := by
  refine List.filter_eq_nil_iff.mpr fun ev hev => ?_
  have hof := ofAttempt_of_run h ev hev
  obtain ⟨q, ans, st⟩ := ev
  cases q with
  | publish t msg =>
    have hne : t ≠ DLQ_TOPIC := hof
    simpa [Request.to_dlq] using hne
  | _ => simp [Request.to_dlq]

theorem failures_ack_last (hR : ∀ s s', R s s' → agent.failures m s' = agent.failures m s)
    {r : Except Exc Unit} (h : Co.Run R (ack_last topic) s tr s' r) :
    agent.failures m s' = agent.failures m s := by
  rcases run_ack_last h with ⟨id, -, -, hst⟩ | ⟨-, -, rfl, -⟩
  · exact hR _ _ hst
  · rfl

/-- What the processing of a message does to its count, and when it publishes the dead letter. -/
theorem run_process_one_counted (hR : ∀ s s', R s s' → agent.failures m s' = agent.failures m s)
    {r : Except Exc Bool} (h : Co.Run R (agent.process_one m topic) s tr s' r) :
    ∃ t₁ t₂ s₁ r₁, tr = t₁ ++ t₂ ∧ Co.Run R (agent.attempt m) s t₁ s₁ r₁ ∧
      agent.failures m s' = (Outcome.of r₁).count (buried tr) (agent.failures m s) ∧
      (dead_letters tr ≠ [] ↔ Outcome.of r₁ = .failed ∧ agent.max_retries ≤ agent.failures m s + 1) := by
  cases run_process_one h with
  | @handled t₁ t₂ s₁ _ r₂ ha hf =>
    refine ⟨t₁, t₂, s₁, _, rfl, ha, ?_, ?_⟩
    · rw [failures_ack_last hR hf, (failures_of_attempt hR ha).1 rfl]
      rfl
    · rw [dead_letters_append, dead_letters_attempt ha, dead_letters_ack_last hf]
      simp [Outcome.of]
  | @cancelled t₁ t₂ s₁ _ r₂ ha hf =>
    refine ⟨t₁, t₂, s₁, _, rfl, ha, ?_, ?_⟩
    · rw [failures_ack_last hR hf, (failures_of_attempt hR ha).2 _ rfl]
      rfl
    · rw [dead_letters_append, dead_letters_attempt ha, dead_letters_ack_last hf]
      simp [Outcome.of]
  | @retried t₁ s₁ text ha hbelow =>
    have hcount := (failures_of_attempt hR ha).2 _ rfl
    have hnone := dead_letters_attempt ha
    refine ⟨tr, [], s₁, _, (List.append_nil _).symm, ha, ?_, ?_⟩
    · have hburied : buried tr = false := by
        unfold buried
        rw [hnone]
        rfl
      rw [failures_failed_once, hcount, hburied]
      rfl
    · rw [hnone, ← hcount]
      simp [Outcome.of]
      omega
  -- The counter is removed if the dead letter was published, and stays otherwise.
  | @exhausted t₁ t₂ t₃ s₁ s₂ _ text r₂ r₃ ha hle hd hf =>
    have hcount := (failures_of_attempt hR ha).2 _ rfl
    obtain ⟨msg, ans, st, hletter, -, hst, hrest⟩ := run_dead_letter_once hd
    have hone : dead_letters (t₁ ++ (t₂ ++ t₃)) = [⟨.publish DLQ_TOPIC msg, ans, st⟩] := by
      rw [dead_letters_append, dead_letters_append, dead_letters_attempt ha, hletter,
        dead_letters_ack_last hf]
      rfl
    refine ⟨t₁, _, s₁, _, rfl, ha, ?_, ?_⟩
    · rw [failures_ack_last hR hf]
      unfold buried
      rw [hone]
      rcases hrest with ⟨e, rfl, rfl⟩ | ⟨rfl, rest, hack⟩
      · show agent.failures m s₂ = agent.failures m s + 1
        rw [hR _ _ hst, ← hcount]
        exact failures_failed_once
      · show agent.failures m s₂ = 0
        rw [failures_ack_last hR hack]
        simp [failures]
    · rw [hone, ← hcount]
      simp [Outcome.of, hle]

/-- An ERROR for an unknown type is no dead letter. -/
theorem dead_letters_reject_unknown {r : Except Exc Bool}
    (h : Co.Run R (agent.reject_unknown m) s tr s' r) : dead_letters tr = [] := by
  unfold reject_unknown at h
  rw [run_fresh_bind] at h
  obtain ⟨r', h', -⟩ := Co.run_bind_pure.mp h
  obtain ⟨rfl, -⟩ := Co.run_call.mp h'
  generalize agent.unknown_type_error _ m = err
  have hne : (if err.target.truthy then Topic.agent_inbox (agent.text err.target) else Topic.BROADCAST) ≠
      DLQ_TOPIC := by
    split
    · exact agent_inbox_ne_dlq _
    · decide
  simpa [dead_letters, Request.to_dlq] using hne

/-- The semaphore leaves the count alone, and it is no dead letter. -/
theorem Entered.counted {c : AgentCo Bool} {s₁ : AgentState} {tr₁ : List AgentEvent}
    (hR : ∀ s s', R s s' → agent.failures m s' = agent.failures m s)
    (h : agent.Entered s tr s₁ tr₁) {r : Except Exc Bool} (hrun : Co.Run R (agent.with_sem c) s tr s' r) :
    agent.failures m s₁ = agent.failures m s ∧ dead_letters tr = dead_letters tr₁ ∧
      Co.Run R c s₁ tr₁ s' r := by
  cases h with
  | free hfree =>
    rcases run_with_sem hrun with ⟨-, hc⟩ | ⟨hsem, -⟩
    · exact ⟨rfl, rfl, hc⟩
    · cases hfree.symm.trans hsem
  | acquired hsem =>
    rcases run_with_sem hrun with ⟨hfree, -⟩ | ⟨-, ans, st, rest, heq, hst, hc⟩
    · cases hsem.symm.trans hfree
    obtain ⟨hev, rfl⟩ := List.cons.inj heq
    cases hev
    rcases hc with ⟨e, ⟨⟩, -⟩ | ⟨-, hc⟩
    exact ⟨hR _ _ hst, rfl, hc⟩

/-- A delivery without an attempt leaves the count alone. -/
theorem dropped_counted (hR : ∀ s s', R s s' → agent.failures m s' = agent.failures m s)
    {r : Except Exc Bool} (h : Co.Run R (agent.consume_one topic m) s tr s' r)
    (hnone : ∀ s₁ tr₁, ¬ agent.Processes topic m s tr s₁ tr₁) :
    agent.failures m s' = agent.failures m s ∧ dead_letters tr = [] := by
  have hrun := h
  cases run_consume_one h with
  | unknown hrunning hecho hk hseen hv hunknown hst =>
    have hrej : agent.Rejects m _ s := ⟨hrunning, hecho, hk, hseen, hv, hunknown⟩
    exact ⟨(hR _ _ hst).trans rfl, dead_letters_reject_unknown (run_consume_one_rejects hrej hrun)⟩
  | admitted hadm hsem =>
    rcases run_with_sem hsem with ⟨hfree, -⟩ | ⟨hlimited, ans, st, rest, rfl, hst, hrest⟩
    · exact absurd ⟨_, hadm, .free hfree⟩ (hnone _ _)
    rcases hrest with ⟨e, -, rfl, rfl, -⟩ | ⟨rfl, -⟩
    · exact ⟨(hR _ _ hst).trans rfl, rfl⟩
    · exact absurd ⟨_, hadm, .acquired hlimited⟩ (hnone _ _)
  | _ => exact ⟨rfl, rfl⟩

/-- **What a delivery does to the count of its message**, and when it dead-letters the message. -/
theorem run_counted {o : Outcome} (hR : ∀ s s', R s s' → agent.failures m s' = agent.failures m s)
    {r : Except Exc Bool} (h : Co.Run R (agent.consume_one topic m) s tr s' r)
    (hended : agent.Ended topic m s tr o) :
    agent.failures m s' = o.count (buried tr) (agent.failures m s) ∧
      (dead_letters tr ≠ [] ↔ o = .failed ∧ agent.max_retries ≤ agent.failures m s + 1) := by
  have hR' : ∀ s s', R s s' → agent.failures (agent.opened m) s' = agent.failures (agent.opened m) s := by
    rwa [failures_opened]
  cases hended with
  | @attempted s₁ s₂ t₁ t₂ r₀ hp hatt =>
    obtain ⟨k, hadm, hentered⟩ := hp
    obtain ⟨r₁, -, hsem⟩ := (run_consume_one h).of_admitted hadm
    obtain ⟨hcount, hdead, hone⟩ := hentered.counted hR hsem
    have hburied : buried tr = buried (t₁ ++ t₂) := congrArg (fun l => l.any fun ev => ev.ans.toBool) hdead
    obtain ⟨u₁, u₂, s₃, r₃, heq, ha, hafter, hpublished⟩ := run_process_one_counted hR' hone
    obtain ⟨-, -, rfl⟩ := ha.unique hatt heq.symm
    have hstart : agent.failures m s₁ = agent.failures m s := hcount
    rw [failures_opened, hstart] at hafter hpublished
    rw [hdead, hburied]
    exact ⟨hafter, hpublished⟩
  | dropped hnone =>
    obtain ⟨hcount, hdead⟩ := dropped_counted hR h hnone
    rw [hcount, hdead]
    exact ⟨rfl, by simp⟩

/-- A delivery leaves the counts of the other texts alone. -/
theorem run_others {key : String} (hR : ∀ s s', R s s' → counted key s' = counted key s)
    (hkey : agent.msg_key m ≠ key) {r : Except Exc Bool}
    (h : Co.Run R (agent.consume_one topic m) s tr s' r) : counted key s' = counted key s := by
  have hg : Co.Guarded (fun s₁ => counted key s₁ = counted key s) (fun _ _ => True) (fun _ => True)
      (agent.consume_one topic m) := by
    refine .read_bind fun s₁ _ => ?_
    split
    · exact .pure _
    refine .bind (.update fun s₁ hs => ⟨hs, trivial⟩) fun _ => ?_
    split
    · exact .pure _
    refine guarded_deduplicate ⟨?_, ?_, ?_⟩ ?_ (fun _ _ => trivial) fun _ _ _ _ _ _ => trivial
    · exact fun s₁ _ hs => ⟨hs, trivial⟩
    · exact fun s₁ _ hs => ⟨hs, trivial⟩
    · intro s₁ d hd hs
      refine ⟨?_, trivial⟩
      unfold counted
      rw [hd key hkey.symm]
      exact hs
    · exact fun s₁ _ _ _ hs => ⟨hs, trivial⟩
  exact (hg.run (fun s₁ s₂ h₁₂ hs => (hR _ _ h₁₂).trans hs) rfl h).1

/-- The processing of a message starts with an attempt. -/
theorem run_process_one_attempt {r : Except Exc Bool}
    (h : Co.Run R (agent.process_one m topic) s tr s' r) :
    ∃ t₁ t₂ s₁ r₁, tr = t₁ ++ t₂ ∧ Co.Run R (agent.attempt m) s t₁ s₁ r₁ := by
  cases run_process_one h with
  | handled ha _ => exact ⟨_, _, _, _, rfl, ha⟩
  | cancelled ha _ => exact ⟨_, _, _, _, rfl, ha⟩
  | retried ha _ => exact ⟨_, [], _, _, (List.append_nil _).symm, ha⟩
  | exhausted ha _ _ _ => exact ⟨_, _, _, _, rfl, ha⟩

/-- Every delivery has an outcome. -/
theorem exists_ended {r : Except Exc Bool} (h : Co.Run R (agent.consume_one topic m) s tr s' r) :
    ∃ o, agent.Ended topic m s tr o := by
  by_cases hp : ∃ s₁ tr₁, agent.Processes topic m s tr s₁ tr₁
  · obtain ⟨s₁, tr₁, hp⟩ := hp
    obtain ⟨r₁, hone⟩ := hp.run h
    obtain ⟨t₁, t₂, s₂, r₂, rfl, ha⟩ := run_process_one_attempt hone
    exact ⟨_, .attempted hp (ha.mono fun _ _ _ => trivial)⟩
  · push Not at hp
    exact ⟨_, .dropped hp⟩

/-! ## All deliveries -/

variable {h h' : Course} {d : Service}

/-- A delivery changes the failures of its own message only. -/
theorem Serves.own (hserves : agent.Serves keys h d h') (k : Key) :
    h'.own k = if d.message.message_id.key = .ok k then d.outcome.count (buried d.events) (h.own k)
      else h.own k := by
  have hiff : d.message.message_id.key.toOption = some k ↔ d.message.message_id.key = .ok k := by
    cases d.message.message_id.key <;> simp [Except.toOption]
  unfold Course.own
  rw [hserves.past, List.filter_append, List.foldl_append, List.filter_singleton]
  by_cases hk : d.message.message_id.key = .ok k
  · simp [hk, Except.toOption]
  · rw [if_neg hk]
    simp [hiff, hk]

/-- A message that has failed was delivered. -/
theorem exists_past_of_own {k : Key} (hpos : 0 < h.own k) :
    ∃ d ∈ h.past, d.message.message_id.key = .ok k := by
  by_contra hnone
  push Not at hnone
  have hnil : (h.past.filter fun d => d.message.message_id.key.toOption = some k) = [] := by
    refine List.filter_eq_nil_iff.mpr fun d hd => ?_
    have hne := hnone d hd
    cases hk : d.message.message_id.key with
    | error text => simp [Except.toOption]
    | ok k' =>
      rw [hk] at hne
      simpa [Except.toOption] using hne
  unfold Course.own at hpos
  rw [hnil] at hpos
  exact absurd hpos (Nat.lt_irrefl 0)

theorem Ended.key {o : Outcome} (h : agent.Ended topic m s tr o) (hne : o ≠ .dropped) :
    ∃ k, m.message_id.key = .ok k := by
  cases h with
  | dropped => exact absurd rfl hne
  | attempted hp =>
    obtain ⟨k, hadm, -⟩ := hp
    exact ⟨k, hadm.key⟩

/-- What a delivery does to the counts. -/
structure Effect (agent : Agent) (keys : Set String) (h : Course) (d : Service) (h' : Course) : Prop where
  count : agent.failures d.message h'.state =
    d.outcome.count (buried d.events) (agent.failures d.message h.state)
  others : ∀ key ∈ keys, agent.msg_key d.message ≠ key → counted key h'.state = counted key h.state
  dead_letter : dead_letters d.events ≠ [] ↔
    d.outcome = .failed ∧ agent.max_retries ≤ agent.failures d.message h.state + 1

theorem Serves.effect (hserves : agent.Serves keys h d h') : agent.Effect keys h d h' := by
  obtain ⟨s₁, r, hrun, hafter⟩ := hserves.run
  have hR : ∀ s s', KeepsCounts keys s s' → agent.failures d.message s' = agent.failures d.message s :=
    fun s s' hkeeps => hkeeps _ hserves.key
  obtain ⟨hcount, hdead⟩ := run_counted hR hrun hserves.ended
  refine ⟨(hR _ _ hafter).trans hcount, fun key hkey hne => ?_, hdead⟩
  exact (hafter key hkey).trans (run_others (fun s s' hkeeps => hkeeps key hkey) hne hrun)

/-- The messages that were delivered have texts of their own ids, and a count that is not zero is that of a
message that has failed. -/
structure Explained (agent : Agent) (keys : Set String) (h : Course) : Prop where
  known : ∀ d ∈ h.past, agent.msg_key d.message ∈ keys
  same : ∀ d ∈ h.past, ∀ d' ∈ h.past, ∀ k, d.message.message_id.key = .ok k →
    d'.message.message_id.key = .ok k → agent.msg_key d.message = agent.msg_key d'.message
  source : ∀ key ∈ keys, counted key h.state ≠ 0 → ∃ d ∈ h.past, ∃ k,
    d.message.message_id.key = .ok k ∧ agent.msg_key d.message = key ∧ 0 < h.own k

theorem explained_started (clock : Int) : agent.Explained keys ⟨.started clock, []⟩ :=
  ⟨List.forall_mem_nil _, List.forall_mem_nil _, fun _ _ hne => absurd rfl hne⟩

theorem explained_step (hI : agent.Explained keys h) (hserves : agent.Serves keys h d h') :
    agent.Explained keys h' := by
  have hold : ∀ {d'}, d' ∈ h.past → d' ∈ h'.past := by
    intro d' hd'
    rw [hserves.past]
    exact List.mem_append_left _ hd'
  refine ⟨?_, ?_, ?_⟩
  · rw [hserves.past]
    exact List.forall_mem_append.mpr ⟨hI.known, List.forall_mem_singleton.mpr hserves.key⟩
  · intro d₁ h₁ d₂ h₂ k hk₁ hk₂
    rw [hserves.past, List.mem_append, List.mem_singleton] at h₁ h₂
    rcases h₁ with h₁ | rfl <;> rcases h₂ with h₂ | rfl
    · exact hI.same d₁ h₁ d₂ h₂ k hk₁ hk₂
    · exact hserves.same d₁ h₁ k hk₁ hk₂
    · exact (hserves.same d₂ h₂ k hk₂ hk₁).symm
    · rfl
  · intro key hkey hne
    -- If the delivery is the reason for the count, its message has failed.
    by_cases hown : agent.msg_key d.message = key ∧ d.outcome = .failed ∧ buried d.events = false
    · obtain ⟨rfl, ho, hb⟩ := hown
      obtain ⟨k, hk⟩ := hserves.ended.key (by simp [ho])
      refine ⟨d, ?_, k, hk, rfl, ?_⟩
      · rw [hserves.past]
        exact List.mem_append_right _ (List.mem_singleton_self d)
      · rw [hserves.own, if_pos hk, ho, hb]
        exact Nat.succ_pos _
    · have hbefore : counted key h.state ≠ 0 ∧
          (agent.msg_key d.message = key → ¬ d.outcome.Settled) := by
        by_cases heq : agent.msg_key d.message = key
        · subst heq
          have hcount : counted (agent.msg_key d.message) h'.state =
            d.outcome.count (buried d.events) (counted (agent.msg_key d.message) h.state) :=
            hserves.effect.count
          rw [hcount] at hne
          have hunsettled : ¬ d.outcome.Settled := by
            rintro (ho | ho)
            · rw [ho] at hne
              exact hne rfl
            · rw [ho] at hne
              cases hb : buried d.events with
              | true =>
                rw [hb] at hne
                exact hne rfl
              | false => exact hown ⟨rfl, ho, hb⟩
          rw [Outcome.count_of_not_settled hunsettled] at hne
          exact ⟨hne, fun _ => hunsettled⟩
        · rw [hserves.effect.others key hkey heq] at hne
          exact ⟨hne, fun h => absurd h heq⟩
      obtain ⟨d', hd', k, hk, rfl, hpos⟩ := hI.source key hkey hbefore.1
      refine ⟨d', hold hd', k, hk, rfl, ?_⟩
      rw [hserves.own]
      split
      · rename_i hd
        rw [Outcome.count_of_not_settled (hbefore.2 (hserves.same d' hd' k hk hd).symm)]
        exact hpos
      · exact hpos

/-- If its text is not shared, or if it has failed, a message is counted by itself. -/
theorem Unshared.counted_own {k : Key} (hI : agent.Explained keys h) (hP : agent.Keeps h)
    (hserves : agent.Serves keys h d h') (hk : d.message.message_id.key = .ok k)
    (hunshared : agent.Unshared h d) (hcase : d.outcome.Settled ∨ 0 < h.own k) :
    agent.failures d.message h.state = h.own k := by
  by_cases hpos : 0 < h.own k
  · obtain ⟨d', hd', hk'⟩ := exists_past_of_own hpos
    have hkept := hP d' hd' k hk' hpos
    unfold failures at hkept ⊢
    rwa [hserves.same d' hd' k hk' hk] at hkept
  · have hsettled := hcase.resolve_right hpos
    have hzero : h.own k = 0 := Nat.eq_zero_of_not_pos hpos
    rw [hzero]
    by_contra hne
    obtain ⟨d', hd', k', hk', hsame, hpos'⟩ := hI.source _ hserves.key hne
    by_cases heq : k' = k
    · subst heq
      exact hpos hpos'
    · have hne' : d.message.message_id.key ≠ .ok k' := by
        rw [hk]
        rintro ⟨⟩
        exact heq rfl
      rw [hunshared hsettled d' hd' k' hk' hne' hsame] at hpos'
      exact Nat.lt_irrefl 0 hpos'

/-- A delivery keeps the counts if the text of its message is not shared. -/
theorem keeps_step (hI : agent.Explained keys h) (hP : agent.Keeps h)
    (hserves : agent.Serves keys h d h') (hunshared : agent.Unshared h d) : agent.Keeps h' := by
  have heffect := hserves.effect
  intro d₁ h₁ k hk hpos
  rw [hserves.own] at hpos ⊢
  by_cases hd : d.message.message_id.key = .ok k
  · rw [if_pos hd] at hpos ⊢
    have hsame : agent.msg_key d₁.message = agent.msg_key d.message := by
      rw [hserves.past, List.mem_append, List.mem_singleton] at h₁
      rcases h₁ with h₁ | rfl
      · exact hserves.same d₁ h₁ k hk hd
      · rfl
    have hcase : d.outcome.Settled ∨ 0 < h.own k := by
      by_cases hs : d.outcome.Settled
      · exact .inl hs
      · rw [Outcome.count_of_not_settled hs] at hpos
        exact .inr hpos
    have hown := hunshared.counted_own hI hP hserves hd hcase
    have hcount := heffect.count
    rw [hown] at hcount
    unfold failures at hcount ⊢
    rwa [hsame]
  · rw [if_neg hd] at hpos ⊢
    have h₁ : d₁ ∈ h.past := by
      rw [hserves.past, List.mem_append, List.mem_singleton] at h₁
      refine h₁.resolve_right ?_
      rintro rfl
      exact hd hk
    have hkept := hP d₁ h₁ k hk hpos
    by_cases hsame : agent.msg_key d₁.message = agent.msg_key d.message
    · have hs : ¬ d.outcome.Settled := fun hs => by
        rw [hunshared hs d₁ h₁ k hk hd hsame] at hpos
        exact Nat.lt_irrefl 0 hpos
      have hcount := heffect.count
      rw [Outcome.count_of_not_settled hs] at hcount
      unfold failures at hcount hkept ⊢
      rw [hsame] at hkept ⊢
      exact hcount.trans hkept
    · exact (heffect.others _ (hI.known d₁ h₁) (Ne.symm hsame)).trans hkept

/-- A delivery of a message whose text another one with failures has changes the count of that one. -/
theorem unshared_of_keeps (hP : agent.Keeps h) (hserves : agent.Serves keys h d h')
    (hP' : agent.Keeps h') : agent.Unshared h d := by
  intro hs d' hd' k hk hne hsame
  by_contra hzero
  have hpos : 0 < h.own k := Nat.pos_of_ne_zero hzero
  have hbefore := hP d' hd' k hk hpos
  have hown : h'.own k = h.own k := by rw [hserves.own, if_neg hne]
  have hmem : d' ∈ h'.past := by
    rw [hserves.past]
    exact List.mem_append_left _ hd'
  have hafter := hP' d' hmem k hk (hown ▸ hpos)
  have hcount := hserves.effect.count
  unfold failures at hbefore hafter hcount
  rw [hsame] at hbefore hafter
  rw [hbefore, hafter, hown] at hcount
  rcases hs with ho | ho
  · rw [ho] at hcount
    exact hzero hcount
  · rw [ho] at hcount
    cases hb : buried d.events with
    | true =>
      rw [hb] at hcount
      exact hzero hcount
    | false =>
      rw [hb] at hcount
      exact absurd hcount (Nat.succ_ne_self _).symm

/-- **When each message is counted by itself**, in a run of any deliveries: no message is handled or fails
while another message with the same source, trace and type has failures. -/
theorem accounts_iff {clock : Int} {steps : List (Course × Service)}
    (hrun : Lts.Path (agent.Serves keys) ⟨.started clock, []⟩ steps h) :
    Lts.Throughout agent.Keeps steps h ∧ Lts.AllMeet agent.Decides steps ↔
      Lts.AllMeet agent.Unshared steps := by
  refine hrun.throughout_and_iff (explained_started clock)
    (fun _ _ _ hI _ _ hserves => explained_step hI hserves) (List.forall_mem_nil _) ?_
  intro h d h' hI hP hserves
  constructor
  · exact fun ⟨hP', _⟩ => unshared_of_keeps hP hserves hP'
  · intro hunshared
    refine ⟨keeps_step hI hP hserves hunshared, fun k hk => ?_⟩
    rw [hserves.effect.dead_letter]
    refine and_congr_right fun ho => ?_
    rw [hunshared.counted_own hI hP hserves hk (.inl (.inr ho))]

/-! ## Two messages that share a count -/

/-- A task from the same source with the same trace, and with another id. -/
def task_of_trace (message_id : String) : Message := { sample_task with message_id := .str message_id }

/-- The agent after `task` came; its handler raises. -/
def fails_on (agent : Agent) (task : Message) (s : AgentState) : List AgentEvent × AgentState :=
  let run := (agent.consume_one "t" task).exec (sample_answer (.error (.error "boom"))) s
  (run.1, run.2.1)

/-- The deliveries of two tasks, one after the other. -/
theorem exists_two (agent : Agent) (first second : String) (hne : first ≠ second) :
    let run₁ := agent.fails_on (task_of_trace first) (.started 0)
    let run₂ := agent.fails_on (task_of_trace second) run₁.2
    ∃ o₁ o₂,
      let d₁ : Service := ⟨"t", task_of_trace first, run₁.1, o₁⟩
      let d₂ : Service := ⟨"t", task_of_trace second, run₂.1, o₂⟩
      Lts.Path (agent.Serves Set.univ) ⟨.started 0, []⟩ [(⟨.started 0, []⟩, d₁), (⟨run₁.2, [d₁]⟩, d₂)]
        ⟨run₂.2, [d₁, d₂]⟩ := by
  intro run₁ run₂
  have hrefl : ∀ s, KeepsCounts Set.univ s s := fun s _ _ => rfl
  have hrun₁ := Co.run_exec hrefl (sample_answer (.error (.error "boom")))
    (agent.consume_one "t" (task_of_trace first)) (.started 0)
  have hrun₂ := Co.run_exec hrefl (sample_answer (.error (.error "boom")))
    (agent.consume_one "t" (task_of_trace second)) run₁.2
  obtain ⟨o₁, ho₁⟩ := exists_ended hrun₁
  obtain ⟨o₂, ho₂⟩ := exists_ended hrun₂
  refine ⟨o₁, o₂, .step (.step .start ?_) ?_⟩
  · exact ⟨⟨_, _, hrun₁, hrefl _⟩, ho₁, trivial, List.forall_mem_nil _, rfl⟩
  · refine ⟨⟨_, _, hrun₂, hrefl _⟩, ho₂, trivial, List.forall_mem_singleton.mpr ?_, rfl⟩
    rintro k ⟨⟩ ⟨⟩
    exact absurd rfl hne

/-- Two tasks of one trace fail, and the limit is 1. -/
theorem accounts_iff_two :
    let run₁ := (sample_agent 1).fails_on (task_of_trace "1") (.started 0)
    let run₂ := (sample_agent 1).fails_on (task_of_trace "2") run₁.2
    ∃ o₁ o₂,
      let d₁ : Service := ⟨"t", task_of_trace "1", run₁.1, o₁⟩
      let d₂ : Service := ⟨"t", task_of_trace "2", run₂.1, o₂⟩
      let steps := [(⟨.started 0, []⟩, d₁), (⟨run₁.2, [d₁]⟩, d₂)]
      (Lts.Throughout (sample_agent 1).Keeps steps ⟨run₂.2, [d₁, d₂]⟩ ∧
          Lts.AllMeet (sample_agent 1).Decides steps ↔
        Lts.AllMeet (sample_agent 1).Unshared steps) := by
  intro run₁ run₂
  obtain ⟨o₁, o₂, hpath⟩ := exists_two (sample_agent 1) "1" "2" (by decide)
  exact ⟨o₁, o₂, accounts_iff hpath⟩

/-- The limit is 2. One task fails, then the other one: it is dead-lettered after its first failure. -/
theorem buried_after_one_failure :
    ¬ ∀ (agent : Agent) (keys : Set String) (clock : Int) (steps : List (Course × Service)) (h : Course),
      Lts.Path (agent.Serves keys) ⟨.started clock, []⟩ steps h →
      Lts.Throughout agent.Keeps steps h ∧ Lts.AllMeet agent.Decides steps := by
  intro hall
  obtain ⟨o₁, o₂, hpath⟩ := exists_two (sample_agent 2) "1" "2" (by decide)
  obtain ⟨-, hdecides⟩ := hall _ _ _ _ _ hpath
  have hsecond := hdecides _ (List.mem_cons_of_mem _ List.mem_cons_self) (.str "2") rfl
  have hdead : dead_letters ((sample_agent 2).fails_on (task_of_trace "2")
      ((sample_agent 2).fails_on (task_of_trace "1") (.started 0)).2).1 ≠ [] := by
    rw [← List.length_pos_iff]
    decide +kernel
  obtain ⟨-, hlimit⟩ := hsecond.mp hdead
  have hzero : ∀ s events, Course.own ⟨s, [⟨"t", task_of_trace "1", events, o₁⟩]⟩ (.str "2") = 0 := by
    intro s events
    simp [Course.own, task_of_trace, Json.key, Except.toOption]
  rw [hzero] at hlimit
  revert hlimit
  decide

end Agent

end Aqap
