import Aqap.Agent.Runs

/-!
# What the agent's methods leave alone

The requests that each method issues, and the part of the state that it does not change, as a
`Co.Guarded` lemma for each method.

* `guarded_attempt`: an attempt awaits the handler and publishes replies, never a dead letter.
* `guarded_process_one`, `guarded_deduplicate`: a property that is about what the processing of a
  message leaves alone (`Stable`) holds throughout.
-/

namespace Aqap

open Py Aqap.Core Async

variable {R : AgentState → AgentState → Prop} {s s' : AgentState} {tr : List AgentEvent}

namespace Agent

variable {self : Agent} {m : Message} {topic : String}

/-! ## The awaits of an attempt -/

/-- The handler on `m`, or the publication of a reply. -/
def OfAttempt (m : Message) : Request → Prop
  | .handle_message m' => m' = m
  | .publish topic _ => topic ≠ DLQ_TOPIC
  | _ => False

/-- `I` and `G` are about what the processing of a message leaves alone; `key` is the key of its retry
count. -/
structure Stable (key : String) (I : AgentState → Prop) (G : AgentState → AgentState → Prop) :
    Prop where
  current : ∀ s m, I s → I { s with current_message := m } ∧ G s { s with current_message := m }
  made : ∀ s n, I s → I { s with made := n } ∧ G s { s with made := n }
  retries : ∀ s d, (∀ k, k ≠ key → d.get? k = s.retry_counts.get? k) → I s →
    I { s with retry_counts := d } ∧ G s { s with retry_counts := d }

/-- A property that does not mention what the processing changes. -/
theorem Stable.of_forall {key : String} {I : AgentState → Prop}
    (hcurrent : ∀ s m, I s → I { s with current_message := m })
    (hmade : ∀ s n, I s → I { s with made := n })
    (hretries : ∀ s d, I s → I { s with retry_counts := d }) : Stable key I fun _ _ => True :=
  ⟨fun s m h => ⟨hcurrent s m h, trivial⟩, fun s n h => ⟨hmade s n h, trivial⟩,
    fun s d _ h => ⟨hretries s d h, trivial⟩⟩

/-- An inbox is no topic that starts otherwise. -/
theorem agent_inbox_ne {agent_id topic : String} (h : topic.toList.take 6 ≠ "aqap:i".toList) :
    Topic.agent_inbox agent_id ≠ topic := by
  rintro rfl
  refine h ?_
  rw [Topic.agent_inbox, String.toList_append, List.take_append_of_le_length (by decide)]
  decide

theorem agent_inbox_ne_dlq (agent_id : String) : Topic.agent_inbox agent_id ≠ DLQ_TOPIC :=
  agent_inbox_ne (by decide)

/-- A reply never goes to the dead letters. -/
theorem reply_topic_ne_dlq {reply : Message} (h : self.reply_topic m reply = .ok topic) :
    topic ≠ DLQ_TOPIC := by
  unfold reply_topic at h
  split at h
  · cases h
    exact agent_inbox_ne_dlq _
  unfold determine_reply_topic at h
  cases hk : m.topic.key with
  | error e => rw [hk] at h; cases h
  | ok k =>
    rw [hk] at h
    simp only [Except.map, Except.ok.injEq] at h
    have hmap : ∀ e ∈ topic_map, e.2 ≠ DLQ_TOPIC := by decide
    have hfind : ∀ p e, topic_map.find? p = some e → e.2 ≠ DLQ_TOPIC := fun p e he =>
      hmap e (List.mem_of_find?_eq_some he)
    subst h
    cases h₁ : topic_map.find? fun e => k = .str e.1 with
    | some e => exact hfind _ e h₁
    | none =>
      rw [Option.none_or]
      cases h₂ : topic_map.find? fun e => e.1.toList.isPrefixOf
          (if m.topic.truthy then self.text m.topic else "").toList with
      | some e => exact hfind _ e h₂
      | none => exact agent_inbox_ne_dlq _

section

variable {I : AgentState → Prop} {G : AgentState → AgentState → Prop} {ok : Request → Prop}

theorem guarded_publish_replies
    (hI : ∀ s n, I s → I { s with made := n } ∧ G s { s with made := n }) (replies : List Message) :
    Co.Guarded I G (OfAttempt m) (self.publish_replies m replies) := by
  induction replies with
  | nil => exact .pure ()
  | cons reply replies ih =>
    refine .bind (.lift_bind fun topic ht => ?_) fun _ => ih
    refine .read_bind fun s _ => .bind (.update fun s hs => hI s _ hs) fun _ => ?_
    exact .bind (.lift _) fun _ => .call (reply_topic_ne_dlq ht)

theorem get?_pop_of_ne {d : Dict String Nat} {key : String} :
    ∀ k, k ≠ key → (d.pop key).get? k = d.get? k := by
  intro k hk
  rw [Dict.get?_pop, if_neg hk]

theorem get?_set_of_ne {d : Dict String Nat} {key : String} {n : Nat} :
    ∀ k, k ≠ key → (d.set key n).get? k = d.get? k := by
  intro k hk
  rw [Dict.get?_set, if_neg hk]

theorem guarded_attempt (hI : Stable (self.msg_key m) I G) :
    Co.Guarded I G (OfAttempt m) (self.attempt m) := by
  refine .bind (.update fun s hs => hI.current s _ hs) fun _ => ?_
  refine .bind (.call rfl) fun replies => ?_
  refine .bind (.update fun s hs => hI.current s _ hs) fun _ => ?_
  exact .bind (guarded_publish_replies hI.made _) fun _ =>
    .update fun s hs => hI.retries s _ get?_pop_of_ne hs

theorem ofAttempt_of_run {r : Except Exc Unit} (h : Co.Run R (self.attempt m) s tr s' r) :
    ∀ ev ∈ tr, OfAttempt m ev.req := by
  have hI : Stable (self.msg_key m) (fun _ => True) fun _ _ => True :=
    .of_forall (fun _ _ h => h) (fun _ _ h => h) fun _ _ h => h
  intro ev hev
  exact (((guarded_attempt hI).run (fun _ _ _ h => h) trivial h).2 ev hev).1

/-- A successful attempt clears the retry count, an attempt that raises leaves it alone. -/
theorem failures_of_attempt (hR : ∀ s s', R s s' → self.failures m s' = self.failures m s)
    {r : Except Exc Unit} (h : Co.Run R (self.attempt m) s tr s' r) :
    (r = .ok () → self.failures m s' = 0) ∧
      ∀ e, r = .error e → self.failures m s' = self.failures m s := by
  unfold attempt at h
  rw [Co.run_update_bind, run_handle_bind] at h
  obtain ⟨ans, st, rest, rfl, hst, h⟩ := h
  have hfail : self.failures m st = self.failures m s := (hR _ _ hst).trans rfl
  rcases h with ⟨e, rfl, rfl, rfl, rfl⟩ | ⟨replies, rfl, h⟩
  · exact ⟨fun h => (nomatch h), fun _ _ => hfail⟩
  rw [Co.run_update_bind] at h
  rcases Co.run_bind.mp h with ⟨e, hp, rfl⟩ | ⟨u, t₁, s₁, t₂, hp, rfl, rfl, rfl, rfl⟩
  · refine ⟨fun h => (nomatch h), fun _ _ => ?_⟩
    have hg : Co.Guarded (fun s₁ => self.failures m s₁ = self.failures m s) (fun _ _ => True)
        (OfAttempt m) (self.publish_replies m (replies.getD [])) :=
      guarded_publish_replies (fun _ _ h => ⟨h, trivial⟩) _
    refine (hg.run (fun s₁ s₂ h₁₂ h => (hR _ _ h₁₂).trans h) ?_ hp).1
    exact hfail
  · exact ⟨fun _ => by simp [failures], fun _ h => (nomatch h)⟩

/-! ## The awaits of the failure path -/

/-- `ack_last` only acknowledges the id that the agent holds. -/
theorem guarded_ack_last
    (hack : ∀ s s₁ id, I s → I s₁ → s.ack_id = some id → ok (.ack topic id s₁.last_group)) :
    Co.Guarded I G ok (ack_last topic) := by
  refine .read_bind fun s hs => .read_bind fun s₁ hs₁ => ?_
  cases hid : s.last_msg_id.filter (·.truthy) with
  | none => exact .pure ()
  | some id => exact .call (hack s s₁ id hs hs₁ hid)

theorem guarded_dead_letter (hI : Stable (self.msg_key m) I G)
    (hdlq : ∀ msg, ok (.publish DLQ_TOPIC msg))
    (hack : ∀ s s₁ id, I s → I s₁ → s.ack_id = some id → ok (.ack topic id s₁.last_group))
    (error : String) (n : Nat) : Co.Guarded I G ok (self.dead_letter m error n topic) := by
  refine .read_bind fun s _ => .bind ?_ fun fresh => .bind (.call (hdlq _)) fun _ => ?_
  · exact .read_bind fun s _ => .bind (.update fun s hs => hI.made s _ hs) fun _ => .pure _
  · exact .bind (.update fun s hs => hI.retries s _ get?_pop_of_ne hs) fun _ => guarded_ack_last hack

theorem guarded_handle_failure (hI : Stable (self.msg_key m) I G)
    (hdlq : ∀ msg, ok (.publish DLQ_TOPIC msg))
    (hack : ∀ s s₁ id, I s → I s₁ → s.ack_id = some id → ok (.ack topic id s₁.last_group))
    (error : String) : Co.Guarded I G ok (self.handle_failure m error topic) := by
  refine .read_bind fun s _ => .bind (.update fun s hs => hI.retries s _ get?_set_of_ne hs)
    fun _ => ?_
  split
  · exact .bind (guarded_dead_letter hI hdlq hack error _) fun _ => .pure _
  · exact .pure _

theorem guarded_process_one (hI : Stable (self.msg_key m) I G) (hatt : ∀ q, OfAttempt m q → ok q)
    (hdlq : ∀ msg, ok (.publish DLQ_TOPIC msg))
    (hack : ∀ s s₁ id, I s → I s₁ → s.ack_id = some id → ok (.ack topic id s₁.last_group)) :
    Co.Guarded I G ok (self.process_one m topic) := by
  refine .bind (.tryFinally ?_ fun r => ?_) fun _ => .pure _
  · refine .tryExcept (.bind ((guarded_attempt hI).mono hatt) fun _ => .pure _) fun error => ?_
    refine .bind (.update fun s hs => hI.current s _ hs) fun _ => ?_
    exact .bind (guarded_handle_failure hI hdlq hack error) fun _ => .pure _
  · split
    · exact guarded_ack_last hack
    · exact .pure ()

/-! ## The awaits of an iteration -/

/-- The request is no acknowledgement. -/
def NoAck : Request → Prop
  | .ack _ _ _ => False
  | _ => True

theorem OfAttempt.noAck {q : Request} (h : OfAttempt m q) : NoAck q := by
  cases q with
  | ack => exact h
  | _ => trivial

theorem guarded_with_sem {α : Type} {c : AgentCo α} (hacquire : ok .acquire)
    (hc : Co.Guarded I G ok c) : Co.Guarded I G ok (self.with_sem c) := by
  unfold with_sem
  split
  · exact .bind (.call hacquire) fun _ => hc
  · exact hc

theorem guarded_reject_unknown (hmade : ∀ s n, I s → I { s with made := n } ∧ G s { s with made := n })
    (hpub : ∀ topic msg, ok (.publish topic msg)) : Co.Guarded I G ok (self.reject_unknown m) := by
  refine .bind ?_ fun fresh => .bind (.call (hpub _ _)) fun _ => .pure _
  exact .read_bind fun s _ => .bind (.update fun s hs => hmade s _ hs) fun _ => .pure _

/-- What an iteration leaves alone after the id of the message was recorded. -/
theorem guarded_check (hI : Stable (self.msg_key m) I G) (hok : ∀ q, NoAck q → ok q)
    (hack : ∀ s s₁ id, I s → I s₁ → s.ack_id = some id → ok (.ack topic id s₁.last_group)) :
    Co.Guarded I G ok (self.check topic m) := by
  refine .lift_bind fun errors _ => ?_
  split
  · exact .pure _
  split
  · exact guarded_reject_unknown hI.made fun _ _ => hok _ trivial
  · refine .bind (guarded_with_sem (hok _ trivial) ?_) fun _ => .pure _
    refine guarded_process_one ?_ (fun q hq => hok q hq.noAck) (fun _ => hok _ trivial) hack
    rwa [msg_key_opened]

/-- What an iteration leaves alone after it received the message. -/
theorem guarded_deduplicate (hI : Stable (self.msg_key m) I G)
    (hids : ∀ s k now, m.message_id.key = .ok k → I s →
      I { s with processed_ids := s.processed_ids.set k now } ∧
        G s { s with processed_ids := s.processed_ids.set k now })
    (hok : ∀ q, NoAck q → ok q)
    (hack : ∀ s s₁ id, I s → I s₁ → s.ack_id = some id → ok (.ack topic id s₁.last_group)) :
    Co.Guarded I G ok (self.deduplicate topic m) := by
  refine .lift_bind fun k hk => .read_bind fun s _ => .read_bind fun s₁ _ => ?_
  split
  · exact .pure _
  exact .bind (.update fun s hs => hids s k _ hk hs) fun _ => guarded_check hI hok hack

end

end Agent

end Aqap
