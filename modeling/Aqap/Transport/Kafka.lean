import Aqap.Async.Lts
import Aqap.Core.Message
import Mathlib.Logic.Function.Basic

/-!
# The Kafka transport

The consumers are found under their topic only. A later subscription to the topic overwrites the entry,
and the end of any of them deletes it. `ack` commits what the consumer found there has read, in all its
partitions and whatever the message id and the group say.

* `at_least_once_iff`: in a run, every `ack` commits for its own topic and group only and no committed
  offset passes a record that was yielded and not acknowledged, exactly if every `ack` finds a consumer of
  its group that has read nothing else unacknowledged (`AckSafe`).
* `other_group_committed`: two groups at one topic.
-/

namespace Aqap.Transport

open Aqap.Core Async

/-- A record of a topic, with the message that is read from its value. -/
structure Record where
  partition : Nat
  offset : Nat
  message : Message

/-- `message_id`, which `ack` may be called without, is the id of the record's message. -/
def Record.has_id (record : Record) : Option String → Bool
  | some message_id => record.message.message_id.eq_str message_id
  | none => false

/-- Where a call of `_subscribe_loop` is. -/
inductive KafkaTransport.Phase where
  | fresh
  | subscribed (topic group : String)
  /-- `disconnect` has stopped its consumer. -/
  | stopped (topic group : String)
  | left
  deriving DecidableEq

/-- A transport with its calls of `_subscribe_loop`, each with its consumer, and the broker. -/
structure KafkaTransport (ι : Type) where
  /-- `_consumers` -/
  consumers : String → Option ι
  running : Bool
  phase : ι → KafkaTransport.Phase
  /-- The read position of a consumer in each partition that is assigned to it. -/
  position : ι → Nat → Option Nat
  /-- The offset that is committed for a topic, a group and a partition. If there is none, a new consumer
  starts at the earliest record (`auto_offset_reset`), so it is zero. -/
  committed : String → String → Nat → Nat
  /-- The records that were yielded to a group. -/
  delivered : String → String → List Record
  /-- Those of them that the group has acknowledged. -/
  acked : String → String → List Record

namespace KafkaTransport

variable {ι : Type}

def init : KafkaTransport ι where
  consumers _ := none
  running := false
  phase _ := .fresh
  position _ _ := none
  committed _ _ _ := 0
  delivered _ _ := []
  acked _ _ := []

/-! ## The methods -/

section

variable [DecidableEq ι] (self : KafkaTransport ι)

def connect : KafkaTransport ι := { self with running := true }

/-- `disconnect`: the consumers in `_consumers` are stopped. -/
def disconnect : KafkaTransport ι :=
  { self with
    running := false
    consumers := fun _ => none
    phase := fun c =>
      match self.phase c with
      | .subscribed topic group =>
        if self.consumers topic = some c then .stopped topic group else .subscribed topic group
      | phase => phase }

/-- `_subscribe_loop`, up to the first record. -/
def subscribe (c : ι) (topic group : String) : KafkaTransport ι :=
  { self with
    consumers := Function.update self.consumers topic (some c)
    phase := Function.update self.phase c (.subscribed topic group)
    position := Function.update self.position c fun _ => none }

/-- `kafka_consumer.start()` raises: the entry stays. -/
def fail (c : ι) : KafkaTransport ι := { self with phase := Function.update self.phase c .left }

/-- The group assigns the partition to the consumer, which reads on from the committed offset. -/
def assign (c : ι) (topic group : String) (partition : Nat) : KafkaTransport ι :=
  { self with
    position := Function.update self.position c
      (Function.update (self.position c) partition (some (self.committed topic group partition))) }

def revoke (c : ι) (partition : Nat) : KafkaTransport ι :=
  { self with
    position := Function.update self.position c (Function.update (self.position c) partition none) }

/-- The consumer returns the record at the offset. -/
def read (c : ι) (partition offset : Nat) : KafkaTransport ι :=
  { self with
    position := Function.update self.position c
      (Function.update (self.position c) partition (some (offset + 1))) }

/-- The record is read and its message is yielded. -/
def deliver (c : ι) (topic group : String) (record : Record) : KafkaTransport ι :=
  { self.read c record.partition record.offset with
    delivered := fun t g =>
      if t = topic ∧ g = group then self.delivered t g ++ [record] else self.delivered t g }

/-- The `finally` of `_subscribe_loop`. -/
def leave (c : ι) (topic : String) : KafkaTransport ι :=
  { self with
    consumers := Function.update self.consumers topic none
    phase := Function.update self.phase c .left }

/-- `consumer.commit()`: the read positions are committed, for the group of the consumer. -/
def commit (c : ι) : KafkaTransport ι :=
  match self.phase c with
  | .subscribed topic group =>
    { self with
      committed := fun t g p =>
        if t = topic ∧ g = group then (self.position c p).getD (self.committed t g p)
        else self.committed t g p }
  | _ => self

/-- What is known to the caller of `ack` only: the records with this message id are done. -/
def acknowledge (topic : String) (message_id : Option String) (group : String) : KafkaTransport ι :=
  { self with
    acked := fun t g =>
      if t = topic ∧ g = group then
        self.acked t g ++ (self.delivered t g).filter (·.has_id message_id)
      else self.acked t g }

/-- `ack`. The commit may fail (`ok = false`), which is logged. -/
def ack (topic : String) (message_id : Option String) (group : String) (ok : Bool) : KafkaTransport ι :=
  match self.consumers topic with
  | some consumer =>
    if ok then (self.acknowledge topic message_id group).commit consumer
    else self.acknowledge topic message_id group
  | none => self.acknowledge topic message_id group

end

/-- What may happen. -/
inductive Label (ι : Type) where
  | connect
  | disconnect
  | subscribe (c : ι) (topic group : String)
  | fail (c : ι)
  | assign (c : ι) (partition : Nat)
  | revoke (c : ι) (partition : Nat)
  | malformed (c : ι) (partition offset : Nat)
  | deliver (c : ι) (record : Record)
  | leave (c : ι)
  | ack (topic : String) (message_id : Option String) (group : String) (ok : Bool)

/-- A step of a consumer, of the broker or of a caller of the transport. -/
inductive Step [DecidableEq ι] : KafkaTransport ι → Label ι → KafkaTransport ι → Prop
  | connect {s : KafkaTransport ι} : Step s .connect s.connect
  | disconnect {s : KafkaTransport ι} : Step s .disconnect s.disconnect
  | subscribe {s : KafkaTransport ι} {c : ι} (topic group : String) : s.phase c = .fresh →
      Step s (.subscribe c topic group) (s.subscribe c topic group)
  | fail {s : KafkaTransport ι} {c : ι} {topic group : String} : s.phase c = .subscribed topic group →
      Step s (.fail c) (s.fail c)
  /-- A partition is assigned to one consumer of a group at a time. -/
  | assign {s : KafkaTransport ι} {c : ι} {topic group : String} (partition : Nat) :
      s.phase c = .subscribed topic group →
      (∀ d, s.phase d = .subscribed topic group → s.position d partition = none) →
      Step s (.assign c partition) (s.assign c topic group partition)
  | revoke {s : KafkaTransport ι} {c : ι} (partition : Nat) :
      Step s (.revoke c partition) (s.revoke c partition)
  /-- `json.JSONDecodeError` or `KeyError`: the record is logged and nothing is yielded. -/
  | malformed {s : KafkaTransport ι} {c : ι} {topic group : String} {partition offset n : Nat} :
      s.phase c = .subscribed topic group → s.running → s.position c partition = some n → n ≤ offset →
      Step s (.malformed c partition offset) (s.read c partition offset)
  | deliver {s : KafkaTransport ι} {c : ι} {topic group : String} {record : Record} {n : Nat} :
      s.phase c = .subscribed topic group → s.running → s.position c record.partition = some n →
      n ≤ record.offset → Step s (.deliver c record) (s.deliver c topic group record)
  /-- The transport was disconnected, another exception was raised, or the subscription is closed. -/
  | leave {s : KafkaTransport ι} {c : ι} {topic group : String} :
      s.phase c = .subscribed topic group ∨ s.phase c = .stopped topic group →
      Step s (.leave c) (s.leave c topic)
  | ack {s : KafkaTransport ι} (topic : String) (message_id : Option String) (group : String) (ok : Bool) :
      Step s (.ack topic message_id group ok) (s.ack topic message_id group ok)

/-! ## What acknowledgements may do -/

/-- A record that was yielded to a group and that the group has not acknowledged is not before the
group's committed offset: a consumer that starts there is given it again. -/
def NothingSkipped (s : KafkaTransport ι) : Prop :=
  ∀ t g, ∀ r ∈ s.delivered t g, r ∉ s.acked t g → s.committed t g r.partition ≤ r.offset

/-- An `ack` changes no committed offset but those of its own topic and group. -/
def OnlyOwn [DecidableEq ι] (s : KafkaTransport ι) : Label ι → Prop
  | .ack topic message_id group ok => ∀ t g p,
      (s.ack topic message_id group ok).committed t g p ≠ s.committed t g p → t = topic ∧ g = group
  | _ => True

/-- In each of its partitions, the consumer that is found under the topic is of the group of the `ack`, or
has read nothing since the last commit, and of what it has read, all that was yielded to its group is
acknowledged or has the id of the message. -/
def AckSafe (s : KafkaTransport ι) : Label ι → Prop
  | .ack topic message_id group true => ∀ c g p n,
      s.consumers topic = some c → s.phase c = .subscribed topic g → s.position c p = some n →
        (g = group ∨ s.committed topic g p = n) ∧
        ∀ r ∈ s.delivered topic g, r.partition = p → r.offset < n →
          r ∈ s.acked topic g ∨ g = group ∧ r.has_id message_id
  | _ => True

/-- What holds in all runs. -/
structure Inv (s : KafkaTransport ι) : Prop where
  /-- The entry of a topic is not of another topic. -/
  entry : ∀ t c, s.consumers t = some c →
    s.phase c ≠ .fresh ∧ ∀ t' g, s.phase c = .subscribed t' g → t' = t
  exclusive : ∀ t g c d p n k, s.phase c = .subscribed t g → s.phase d = .subscribed t g →
    s.position c p = some n → s.position d p = some k → c = d
  /-- No consumer is behind what is committed. -/
  behind : ∀ t g c p n, s.phase c = .subscribed t g → s.position c p = some n →
    s.committed t g p ≤ n

variable [DecidableEq ι] {s s' : KafkaTransport ι} {c : ι} {topic group : String}
  {message_id : Option String} {ok : Bool}

/-! ## Acknowledging -/

omit [DecidableEq ι] in
theorem mem_acked_acknowledge {t g : String} {r : Record} :
    r ∈ (s.acknowledge topic message_id group).acked t g ↔
      r ∈ s.acked t g ∨ (t = topic ∧ g = group) ∧ r ∈ s.delivered t g ∧ r.has_id message_id := by
  unfold acknowledge
  dsimp only
  split
  · rename_i htg
    rw [List.mem_append, List.mem_filter]
    exact or_congr_right (and_iff_right htg).symm
  · rename_i htg
    exact ⟨.inl, fun h => h.elim id fun h => absurd h.1 htg⟩

omit [DecidableEq ι] in
/-- A commit changes the committed offsets of the consumer's topic and group only. -/
theorem committed_commit (s : KafkaTransport ι) (c : ι) (t g : String) (p : Nat) :
    (s.commit c).committed t g p =
      if s.phase c = .subscribed t g then (s.position c p).getD (s.committed t g p)
      else s.committed t g p := by
  unfold commit
  split
  · rename_i topic group hc
    rw [hc]
    refine if_congr ?_ rfl rfl
    rw [Phase.subscribed.injEq]
    exact ⟨fun h => ⟨h.1.symm, h.2.symm⟩, fun h => ⟨h.1.symm, h.2.symm⟩⟩
  · rename_i hc
    exact (if_neg (hc t g)).symm

omit [DecidableEq ι] in
theorem commit_eq (s : KafkaTransport ι) (c : ι) :
    s.commit c = { s with committed := (s.commit c).committed } := by
  unfold commit
  split <;> rfl

omit [DecidableEq ι] in
/-- What an `ack` does besides committing. -/
theorem ack_eq (s : KafkaTransport ι) (topic : String) (message_id : Option String) (group : String)
    (ok : Bool) : s.ack topic message_id group ok = { s.acknowledge topic message_id group with
      committed := (s.ack topic message_id group ok).committed } := by
  unfold ack
  split
  · split
    · exact commit_eq _ _
    · rfl
  · rfl

omit [DecidableEq ι] in
/-- The offsets that an `ack` commits are those of the consumer that is found under the topic. -/
theorem committed_ack_cases (s : KafkaTransport ι) (topic : String) (message_id : Option String)
    (group : String) (ok : Bool) (t g : String) (p : Nat) :
    (s.ack topic message_id group ok).committed t g p = s.committed t g p ∨
      ok ∧ ∃ c n, s.consumers topic = some c ∧ s.phase c = .subscribed t g ∧ s.position c p = some n ∧
        (s.ack topic message_id group ok).committed t g p = n := by
  unfold ack
  split
  · rename_i c hentry
    split
    · rename_i hok
      rw [committed_commit]
      by_cases hc : s.phase c = .subscribed t g
      · cases hpos : s.position c p with
        | none => exact .inl ((if_pos hc).trans (congrArg (Option.getD · _) hpos))
        | some n =>
          exact .inr ⟨hok, c, n, hentry, hc, hpos, (if_pos hc).trans (congrArg (Option.getD · _) hpos)⟩
      · exact .inl (if_neg hc)
    · exact .inl rfl
  · exact .inl rfl

omit [DecidableEq ι] in
theorem committed_ack {g : String} {p n : Nat} (hentry : s.consumers topic = some c)
    (hc : s.phase c = .subscribed topic g) (hpos : s.position c p = some n) :
    (s.ack topic message_id group true).committed topic g p = n := by
  unfold ack
  rw [hentry]
  show ((s.acknowledge topic message_id group).commit c).committed topic g p = n
  rw [committed_commit]
  exact (if_pos hc).trans (congrArg (Option.getD · _) hpos)

/-- **When an `ack` may be called.** -/
theorem ack_safe_iff (hinv : Inv s) (hs : NothingSkipped s) :
    NothingSkipped (s.ack topic message_id group ok) ∧ OnlyOwn s (.ack topic message_id group ok) ↔
      AckSafe s (.ack topic message_id group ok) := by
  have hdelivered : (s.ack topic message_id group ok).delivered = s.delivered := by rw [ack_eq]; rfl
  have hacked : ∀ t g r, r ∈ (s.ack topic message_id group ok).acked t g ↔
      r ∈ s.acked t g ∨ (t = topic ∧ g = group) ∧ r ∈ s.delivered t g ∧ r.has_id message_id := by
    intro t g r
    rw [ack_eq]
    exact mem_acked_acknowledge
  constructor
  · rintro ⟨hskip, honly⟩
    cases ok with
    | false => trivial
    | true =>
      intro c g p n hentry hc hpos
      have hcommit : (s.ack topic message_id group true).committed topic g p = n :=
        committed_ack hentry hc hpos
      constructor
      · by_contra hother
        push Not at hother
        exact hother.1 (honly topic g p (by rw [hcommit]; exact hother.2.symm)).2
      · rintro r hr rfl hlt
        by_contra hnot
        push Not at hnot
        have hle := hskip topic g r (by rw [hdelivered]; exact hr) fun h => by
          rcases (hacked topic g r).mp h with hold | ⟨⟨-, hg⟩, -, hid⟩
          · exact hnot.1 hold
          · exact hnot.2 hg hid
        rw [hcommit] at hle
        exact Nat.not_le_of_lt hlt hle
  · intro hsafe
    -- The offset is as before, or the position of the consumer that the condition is about.
    have hcases : ∀ t g p, (s.ack topic message_id group ok).committed t g p = s.committed t g p ∨
        ∃ n, t = topic ∧ (s.ack topic message_id group ok).committed t g p = n ∧
          (g = group ∨ s.committed t g p = n) ∧ ∀ r ∈ s.delivered t g, r.partition = p → r.offset < n →
            r ∈ s.acked t g ∨ g = group ∧ r.has_id message_id := by
      intro t g p
      rcases committed_ack_cases s topic message_id group ok t g p with hsame | ⟨rfl, c, n, hentry, hc, hpos, hn⟩
      · exact .inl hsame
      · obtain rfl := (hinv.entry topic c hentry).2 t g hc
        exact .inr ⟨n, rfl, hn, hsafe c g p n hentry hc hpos⟩
    refine ⟨fun t g r hr hnot => ?_, fun t g p hne => ?_⟩
    · rw [hdelivered] at hr
      rw [hacked] at hnot
      rcases hcases t g r.partition with hsame | ⟨n, ht, hn, -, hdone⟩
      · rw [hsame]
        exact hs t g r hr fun h => hnot (.inl h)
      · rw [hn]
        by_contra hlt
        rcases hdone r hr rfl (Nat.lt_of_not_le hlt) with hold | ⟨hg, hid⟩
        · exact hnot (.inl hold)
        · exact hnot (.inr ⟨⟨ht, hg⟩, hr, hid⟩)
    · rcases hcases t g p with hsame | ⟨n, ht, hn, hg, -⟩
      · exact absurd hsame hne
      · exact ⟨ht, hg.resolve_right fun h => hne (hn.trans h.symm)⟩

/-! ## Runs -/

omit [DecidableEq ι] in
theorem inv_init : Inv (init : KafkaTransport ι) := by
  constructor <;> simp [init]

omit [DecidableEq ι] in
theorem nothing_skipped_init : NothingSkipped (init : KafkaTransport ι) := by
  intro t g r hr
  cases hr

omit [DecidableEq ι] in
/-- No consumer is subscribed after a step that was not before it, and the entries and the positions are
those from before. -/
theorem inv_of_phase {s' : KafkaTransport ι} (hinv : Inv s)
    (hphase : ∀ d t g, s'.phase d = .subscribed t g → s.phase d = .subscribed t g)
    (hfresh : ∀ d, s.phase d ≠ .fresh → s'.phase d ≠ .fresh)
    (hentry : ∀ t d, s'.consumers t = some d → s.consumers t = some d)
    (hposition : ∀ d p n, s'.position d p = some n → s.position d p = some n)
    (hcommitted : s'.committed = s.committed) : Inv s' where
  entry t d h := by
    obtain ⟨hne, htopic⟩ := hinv.entry t d (hentry t d h)
    exact ⟨hfresh d hne, fun t' g hd => htopic t' g (hphase d t' g hd)⟩
  exclusive t g d e p n k hd he hn hk :=
    hinv.exclusive t g d e p n k (hphase d t g hd) (hphase e t g he) (hposition d p n hn)
      (hposition e p k hk)
  behind t g d p n hd hn := by
    rw [hcommitted]
    exact hinv.behind t g d p n (hphase d t g hd) (hposition d p n hn)

theorem subscribed_disconnect {d : ι} {t g : String} (h : s.disconnect.phase d = .subscribed t g) :
    s.phase d = .subscribed t g := by
  unfold disconnect at h
  dsimp only at h
  split at h
  · rename_i topic group hd
    split at h
    · cases h
    · exact hd.trans h
  · rename_i phase hne
    exact h

theorem inv_disconnect (hinv : Inv s) : Inv s.disconnect := by
  refine inv_of_phase hinv (fun _ _ _ => subscribed_disconnect) (fun d hd h => hd ?_)
    (fun _ _ h => by cases h) (fun _ _ _ h => h) rfl
  unfold disconnect at h
  dsimp only at h
  split at h
  · split at h <;> cases h
  · exact h

/-- A consumer's loop ends: its consumer is in no group any more. -/
theorem inv_left (hinv : Inv s) (consumers : String → Option ι)
    (hentry : ∀ t d, consumers t = some d → s.consumers t = some d) :
    Inv { s with consumers, phase := Function.update s.phase c .left } := by
  have hphase : ∀ d phase, phase ≠ .left → Function.update s.phase c .left d = phase →
      s.phase d = phase := by
    intro d phase hne h
    rw [Function.update_apply] at h
    split at h
    · exact absurd h.symm hne
    · exact h
  exact inv_of_phase hinv (fun d t g h => hphase d _ (by simp) h)
    (fun d hd h => hd (hphase d _ (by simp) h)) hentry (fun _ _ _ h => h) rfl

theorem inv_subscribe (hinv : Inv s) (hc : s.phase c = .fresh) : Inv (s.subscribe c topic group) := by
  have hself : (s.subscribe c topic group).phase c = .subscribed topic group :=
    Function.update_self ..
  have hother : ∀ d, d ≠ c → (s.subscribe c topic group).phase d = s.phase d :=
    fun d hd => Function.update_of_ne hd ..
  have hnone : ∀ p, (s.subscribe c topic group).position c p = none :=
    fun p => congrFun (Function.update_self c _ s.position) p
  have hposition : ∀ d, d ≠ c → (s.subscribe c topic group).position d = s.position d :=
    fun d hd => Function.update_of_ne hd ..
  -- The new consumer has no partition, so it is not among those that the invariant is about.
  have hne : ∀ d p n, (s.subscribe c topic group).position d p = some n → d ≠ c := by
    rintro d p n hn rfl
    rw [hnone] at hn
    cases hn
  refine ⟨fun t d h => ?_, fun t g d e p n k hd he hn hk => ?_, fun t g d p n hd hn => ?_⟩
  · by_cases ht : t = topic
    · subst ht
      obtain rfl : c = d := Option.some.inj ((Function.update_self t _ s.consumers).symm.trans h)
      rw [hself]
      refine ⟨by simp, fun t' g hg => ?_⟩
      cases hg
      rfl
    · have hold : s.consumers t = some d := (Function.update_of_ne ht _ _).symm.trans h
      obtain ⟨hfresh, htopic⟩ := hinv.entry t d hold
      have hdc : d ≠ c := by
        rintro rfl
        exact hfresh hc
      rw [hother d hdc]
      exact ⟨hfresh, htopic⟩
  · have hdc := hne d p n hn
    have hec := hne e p k hk
    rw [hother d hdc] at hd
    rw [hother e hec] at he
    rw [hposition d hdc] at hn
    rw [hposition e hec] at hk
    exact hinv.exclusive t g d e p n k hd he hn hk
  · have hdc := hne d p n hn
    rw [hother d hdc] at hd
    rw [hposition d hdc] at hn
    exact hinv.behind t g d p n hd hn

/-- The position of a consumer in a partition changes. -/
theorem position_update {d : ι} {p q : Nat} {x : Option Nat} {n : Nat}
    (h : Function.update s.position c (Function.update (s.position c) p x) d q = some n) :
    d = c ∧ q = p ∧ x = some n ∨ ¬ (d = c ∧ q = p) ∧ s.position d q = some n := by
  rw [Function.update_apply] at h
  split at h
  · rename_i hdc
    subst hdc
    rw [Function.update_apply] at h
    split at h
    · rename_i hq
      exact .inl ⟨rfl, hq, h⟩
    · rename_i hq
      exact .inr ⟨fun h => hq h.2, h⟩
  · rename_i hdc
    exact .inr ⟨fun h => hdc h.1, h⟩

/-- A position of a subscribed consumer is set: no other consumer of its group has the partition, and the
position is not before the committed offset. -/
theorem inv_position {p : Nat} {x : Option Nat} (hinv : Inv s)
    (hset : ∀ t g n, s.phase c = .subscribed t g → x = some n → s.committed t g p ≤ n ∧
      ∀ d k, s.phase d = .subscribed t g → s.position d p = some k → d = c) :
    Inv { s with position := Function.update s.position c (Function.update (s.position c) p x) } where
  entry := hinv.entry
  exclusive t g d e q n k hd he hn hk := by
    rcases position_update hn with ⟨rfl, rfl, rfl⟩ | ⟨-, hnold⟩
    · rcases position_update hk with ⟨rfl, -, -⟩ | ⟨-, hkold⟩
      · rfl
      · exact ((hset t g n hd rfl).2 e k he hkold).symm
    · rcases position_update hk with ⟨rfl, rfl, rfl⟩ | ⟨-, hkold⟩
      · exact (hset t g k he rfl).2 d n hd hnold
      · exact hinv.exclusive t g d e q n k hd he hnold hkold
  behind t g d q n hd hn := by
    rcases position_update hn with ⟨rfl, rfl, rfl⟩ | ⟨-, hold⟩
    · exact (hset t g n hd rfl).1
    · exact hinv.behind t g d q n hd hold

/-- A consumer reads on in one of its partitions. -/
theorem inv_read {p offset n : Nat} (hinv : Inv s) (hpos : s.position c p = some n) (hn : n ≤ offset) :
    Inv (s.read c p offset) := by
  refine inv_position hinv fun t g k hc hk => ?_
  cases hk
  have hbehind := hinv.behind t g c p n hc hpos
  exact ⟨by omega, fun d k hd hk => hinv.exclusive t g d c p k n hd hc hk hpos⟩

omit [DecidableEq ι] in
theorem inv_ack (hinv : Inv s) : Inv (s.ack topic message_id group ok) where
  entry t c h := by
    rw [ack_eq] at h ⊢
    exact hinv.entry t c h
  exclusive t g c d p n k hc hd hn hk := by
    rw [ack_eq] at hc hd hn hk
    exact hinv.exclusive t g c d p n k hc hd hn hk
  behind t g c p n hc hn := by
    have hc : s.phase c = .subscribed t g := by rw [ack_eq] at hc; exact hc
    have hn : s.position c p = some n := by rw [ack_eq] at hn; exact hn
    rcases committed_ack_cases s topic message_id group ok t g p with hsame | ⟨-, d, k, -, hd, hk, heq⟩
    · rw [hsame]
      exact hinv.behind t g c p n hc hn
    · -- The consumer that has committed the partition is the one that has it.
      obtain rfl := hinv.exclusive t g d c p k n hd hc hk hn
      rw [heq]
      exact Nat.le_of_eq (Option.some.inj (hk.symm.trans hn))

theorem inv_step {l : Label ι} (hinv : Inv s) (hstep : Step s l s') : Inv s' := by
  cases hstep with
  | connect => exact ⟨hinv.entry, hinv.exclusive, hinv.behind⟩
  | disconnect => exact inv_disconnect hinv
  | subscribe topic group hc => exact inv_subscribe hinv hc
  | fail _ => exact inv_left hinv s.consumers fun _ _ h => h
  | assign p hc hfree =>
    refine inv_position hinv fun t g n htg hn => ?_
    cases hc.symm.trans htg
    cases hn
    refine ⟨Nat.le_refl _, fun d k hd hk => ?_⟩
    rw [hfree d hd] at hk
    cases hk
  | revoke p => exact inv_position hinv fun _ _ _ _ hn => by cases hn
  | malformed _ _ hpos hn => exact inv_read hinv hpos hn
  | deliver _ _ hpos hn =>
    have hread := inv_read hinv hpos hn
    exact ⟨hread.entry, hread.exclusive, hread.behind⟩
  | leave _ =>
    refine inv_left hinv _ fun t d h => ?_
    rw [Function.update_apply] at h
    split at h
    · cases h
    · exact h
  | ack topic message_id group ok => exact inv_ack hinv

theorem step_iff {l : Label ι} (hinv : Inv s) (hs : NothingSkipped s) (hstep : Step s l s') :
    NothingSkipped s' ∧ OnlyOwn s l ↔ AckSafe s l := by
  cases hstep with
  | ack topic message_id group ok => exact ack_safe_iff hinv hs
  | @deliver c topic group record n hc _ hpos hn =>
    refine iff_of_true ⟨fun t g r hr hnot => ?_, trivial⟩ trivial
    have hr : r ∈ (if t = topic ∧ g = group then s.delivered t g ++ [record] else s.delivered t g) := hr
    split at hr
    · rename_i htg
      rcases List.mem_append.mp hr with hold | hnew
      · exact hs t g r hold hnot
      · obtain ⟨rfl, rfl⟩ := htg
        rw [List.mem_singleton.mp hnew]
        exact Nat.le_trans (hinv.behind t g c _ n hc hpos) hn
    · exact hs t g r hr hnot
  | _ => exact iff_of_true ⟨hs, trivial⟩ trivial

/-- **When the transport is at-least-once.** In every run, each `ack` commits for its own topic and group
only and no committed offset ever passes a record that was yielded to the group and not acknowledged, if
and only if every `ack` finds a consumer of its group, or one with nothing to commit, and what that
consumer has read is acknowledged. -/
theorem at_least_once_iff {steps : List (KafkaTransport ι × Label ι)}
    (h : Lts.Path Step init steps s) :
    Lts.Throughout NothingSkipped steps s ∧ Lts.AllMeet OnlyOwn steps ↔ Lts.AllMeet AckSafe steps :=
  h.throughout_and_iff inv_init (fun _ _ _ hinv _ _ => inv_step hinv) nothing_skipped_init
    fun _ _ _ => step_iff

/-- The record at the start of the only partition of a topic. -/
def taskRecord : Record where
  partition := 0
  offset := 0
  message := task_dispatch ⟨"m", "c", "now"⟩ "scheduler" []

/-- A consumer of the group at the topic that has the partition. -/
def joined (s : KafkaTransport Bool) (c : Bool) (topic group : String) : KafkaTransport Bool :=
  (s.subscribe c topic group).assign c topic group 0

/-- Two groups read a record each, of two topics, and acknowledge it. -/
theorem two_groups_at_least_once :
    let s₁ : KafkaTransport Bool := init.connect
    let s₂ := joined s₁ true "t" "g"
    let s₃ := joined s₂ false "u" "h"
    let s₄ := s₃.deliver true "t" "g" taskRecord
    let s₅ := s₄.deliver false "u" "h" taskRecord
    let s₆ := s₅.ack "t" (some "m") "g" true
    let s₇ := s₆.ack "u" (some "m") "h" true
    let steps := [(init, .connect), (s₁, .subscribe true "t" "g"),
      (s₁.subscribe true "t" "g", .assign true 0), (s₂, .subscribe false "u" "h"),
      (s₂.subscribe false "u" "h", .assign false 0), (s₃, .deliver true taskRecord),
      (s₄, .deliver false taskRecord), (s₅, .ack "t" (some "m") "g" true),
      (s₆, .ack "u" (some "m") "h" true)]
    Lts.Throughout NothingSkipped steps s₇ ∧ Lts.AllMeet OnlyOwn steps := by
  intro s₁ s₂ s₃ s₄ s₅ s₆ s₇ steps
  have hjoined : Lts.Path Step init _ s₂ :=
    .step (.step (.step .start .connect) (.subscribe "t" "g" rfl)) (.assign 0 rfl fun d _ => by cases d <;> rfl)
  have hboth : Lts.Path Step init _ s₃ :=
    .step (.step hjoined (.subscribe "u" "h" rfl)) (.assign 0 rfl fun d hd => by
      cases d <;> simp_all [s₂, joined, subscribe, assign])
  have hread : Lts.Path Step init _ s₅ :=
    .step (.step hboth (.deliver rfl rfl rfl (Nat.zero_le _))) (.deliver rfl rfl rfl (Nat.zero_le _))
  have hpath : Lts.Path Step init steps s₇ :=
    .step (.step hread (.ack "t" (some "m") "g" true)) (.ack "u" (some "m") "h" true)
  refine (at_least_once_iff hpath).mpr ?_
  simp only [steps, Lts.AllMeet, List.forall_mem_cons]
  -- Each `ack` finds the consumer of its group, which has read the one record.
  refine ⟨trivial, trivial, trivial, trivial, trivial, trivial, trivial, ?_, ?_, List.forall_mem_nil _⟩
  · intro c g p n hentry hc hpos
    cases hentry
    cases hc
    refine ⟨.inl rfl, fun r hr _ _ => .inr ⟨rfl, ?_⟩⟩
    rw [List.mem_singleton.mp hr]
    rfl
  · intro c g p n hentry hc hpos
    cases hentry
    cases hc
    refine ⟨.inl rfl, fun r hr _ _ => .inr ⟨rfl, ?_⟩⟩
    rw [List.mem_singleton.mp hr]
    rfl

/-- Two groups read the same record, the second one has subscribed last, and the first one acknowledges:
the offset of the second group is committed, which has not acknowledged the record. -/
theorem other_group_committed : ∃ steps, ∃ s : KafkaTransport Bool, Lts.Path Step init steps s ∧
    ¬ NothingSkipped s ∧ ¬ Lts.AllMeet OnlyOwn steps := by
  let s₁ : KafkaTransport Bool := init.connect
  let s₂ := joined (joined s₁ true "t" "g") false "t" "h"
  let s₃ := (s₂.deliver true "t" "g" taskRecord).deliver false "t" "h" taskRecord
  have hfirst : Lts.Path Step init _ (joined s₁ true "t" "g") :=
    .step (.step (.step .start .connect) (.subscribe "t" "g" rfl))
      (.assign 0 rfl fun d _ => by cases d <;> rfl)
  have hboth : Lts.Path Step init _ s₂ :=
    .step (.step hfirst (.subscribe "t" "h" rfl)) (.assign 0 rfl fun d hd => by
      cases d with
      | false => rfl
      | true => exact absurd hd (by decide))
  have hread : Lts.Path Step init _ s₃ :=
    .step (.step hboth (.deliver rfl rfl rfl (Nat.zero_le _))) (.deliver rfl rfl rfl (Nat.zero_le _))
  refine ⟨_, _, .step hread (.ack "t" (some "m") "g" true), fun h => ?_, fun h => ?_⟩
  · have hle := h "t" "h" taskRecord (List.mem_singleton.mpr rfl) List.not_mem_nil
    exact absurd hle (by decide)
  · have honly := h _ (List.mem_append_right _ (List.mem_singleton.mpr rfl)) "t" "h" 0 (by decide)
    exact absurd honly.2 (by decide)

end KafkaTransport

end Aqap.Transport
