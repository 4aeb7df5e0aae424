import Aqap.Async.Lts
import Aqap.Core.Message
import Mathlib.Data.List.Basic
import Mathlib.Logic.Function.Basic

/-!
# The in-memory transport

A consumer group is a list of queues, one for each consumer. `publish` puts the message into the first
of them and moves it to the end of the list. A consumer that leaves takes its queue away.

* `group_conserved_iff`: in a run, every message that was put into a group is yielded once or waits in the
  queue of a consumer of the group, exactly if no consumer leaves others behind with messages in its
  queue (`LeavesNothing`).
* `backlog_lost`: a consumer that leaves with a message in its queue.
-/

namespace Aqap.Transport

open Aqap.Core Async

/-- What is put into a queue: the `seq`-th message that was published. -/
structure Item where
  seq : Nat
  message : Message

/-- What became of a consumer: it has not subscribed yet, it is in a group, or it left. -/
inductive Phase where
  | fresh
  | subscribed (topic group : String)
  | left
  deriving DecidableEq

/-- A running transport. A group without queues stands for one that was not created, too: `publish`
drops the message in both cases. -/
structure InMemoryTransport (ι : Type) where
  /-- `_groups[topic][group]._queues`, each queue as its consumer. -/
  queues : String → String → List ι
  /-- The messages in the queue of a consumer. -/
  queue : ι → List Item
  phase : ι → Phase
  /-- How many messages were published. -/
  published : Nat
  /-- The messages that were put into the group since when it has had a consumer. -/
  enqueued : String → String → List Nat
  /-- The messages of the group that were yielded, each with its consumer. -/
  yielded : String → String → List (ι × Nat)

namespace InMemoryTransport

variable {ι : Type}

def init : InMemoryTransport ι where
  queues _ _ := []
  queue _ := []
  phase _ := .fresh
  published := 0
  enqueued _ _ := []
  yielded _ _ := []

/-! ## What is in the queues -/

/-- How often the message `n` is in the queues of the consumers `cs`. -/
def held (queue : ι → List Item) (n : Nat) (cs : List ι) : Nat :=
  (cs.flatMap queue).countP (·.seq = n)

section

variable {queue queue' : ι → List Item} {n : Nat} {c : ι} {cs cs' : List ι}

theorem held_perm (h : cs.Perm cs') : held queue n cs = held queue n cs' :=
  (h.flatMap_right queue).countP_eq _

theorem held_cons : held queue n (c :: cs) = (queue c).countP (·.seq = n) + held queue n cs := by
  unfold held
  rw [List.flatMap_cons, List.countP_append]

theorem held_congr (h : ∀ c ∈ cs, queue c = queue' c) : held queue n cs = held queue' n cs := by
  unfold held
  rw [List.flatMap_congr h]

/-- Nothing that is not in one of the queues is held. -/
theorem held_eq_zero (h : ∀ c ∈ cs, ∀ item ∈ queue c, item.seq ≠ n) : held queue n cs = 0 := by
  refine List.countP_eq_zero.mpr fun item hitem => ?_
  obtain ⟨c, hc, hqueue⟩ := List.mem_flatMap.mp hitem
  simpa using h c hc item hqueue

end

/-- `self._queues.append(self._queues.pop(0))` -/
def rotate : List ι → List ι
  | [] => []
  | q :: queues => queues ++ [q]

theorem rotate_perm (cs : List ι) : (rotate cs).Perm cs := by
  cases cs with
  | nil => exact .refl _
  | cons c cs => exact List.perm_append_singleton c cs

/-! ## The methods -/

variable [DecidableEq ι] (self : InMemoryTransport ι)

/-- The first queue of the consumer's group is its own. -/
def first (topic : String) (c : ι) : Bool :=
  match self.phase c with
  | .subscribed t g => t = topic && (self.queues t g).head? == some c
  | _ => false

/-- `publish`: in each group of the topic, the first queue gets the message and becomes the last. -/
def publish (topic : String) (message : Message) : InMemoryTransport ι where
  queues t g := if t = topic then rotate (self.queues t g) else self.queues t g
  queue c := if self.first topic c then self.queue c ++ [⟨self.published, message⟩] else self.queue c
  phase := self.phase
  published := self.published + 1
  enqueued t g :=
    if t = topic ∧ self.queues t g ≠ [] then self.enqueued t g ++ [self.published]
    else self.enqueued t g
  yielded := self.yielded

/-- `subscribe`, up to its first `get`: the group gets a new queue. -/
def subscribe (c : ι) (topic group : String) : InMemoryTransport ι :=
  { self with
    queues := fun t g => if t = topic ∧ g = group then self.queues t g ++ [c] else self.queues t g
    queue := Function.update self.queue c []
    phase := Function.update self.phase c (.subscribed topic group) }

/-- `message = await q.get()` and `yield message` -/
def take (c : ι) (topic group : String) (item : Item) (rest : List Item) : InMemoryTransport ι :=
  { self with
    queue := Function.update self.queue c rest
    yielded := fun t g =>
      if t = topic ∧ g = group then self.yielded t g ++ [(c, item.seq)] else self.yielded t g }

/-- The `finally` of `subscribe`: the queue is removed from its group. -/
def leave (c : ι) (topic group : String) : InMemoryTransport ι :=
  { self with
    queues := fun t g => if t = topic ∧ g = group then (self.queues t g).erase c else self.queues t g
    phase := Function.update self.phase c .left
    enqueued := fun t g =>
      if t = topic ∧ g = group ∧ (self.queues t g).erase c = [] then [] else self.enqueued t g }

/-- What may happen. -/
inductive Label (ι : Type) where
  | publish (topic : String) (message : Message)
  | subscribe (c : ι) (topic group : String)
  | take (c : ι)
  | leave (c : ι)

/-- A publication, or a step of a subscription. -/
inductive Step : InMemoryTransport ι → Label ι → InMemoryTransport ι → Prop
  | publish {s : InMemoryTransport ι} (topic : String) (message : Message) :
      Step s (.publish topic message) (s.publish topic message)
  | subscribe {s : InMemoryTransport ι} {c : ι} (topic group : String) : s.phase c = .fresh →
      Step s (.subscribe c topic group) (s.subscribe c topic group)
  /-- The consumer asks for a message, and there is one. -/
  | take {s : InMemoryTransport ι} {c : ι} {topic group : String} {item : Item} {rest : List Item} :
      s.phase c = .subscribed topic group → s.queue c = item :: rest →
      Step s (.take c) (s.take c topic group item rest)
  /-- The subscription is closed or cancelled. -/
  | leave {s : InMemoryTransport ι} {c : ι} {topic group : String} :
      s.phase c = .subscribed topic group → Step s (.leave c) (s.leave c topic group)

/-! ## Where the messages of a group are -/

/-- How often the message `n` was yielded to consumers of the group or is in one of its queues. -/
def copies (topic group : String) (n : Nat) : Nat :=
  (self.yielded topic group).countP (·.2 = n) + held self.queue n (self.queues topic group)

/-- Every message that was put into a group that has had a consumer since then was yielded, once, or
is in one queue of the group. -/
def Conserved (s : InMemoryTransport ι) : Prop :=
  ∀ t g, ∀ n ∈ s.enqueued t g, s.copies t g n = 1

/-- A consumer leaves with an empty queue, or as the last one of its group. -/
def LeavesNothing (s : InMemoryTransport ι) : Label ι → Prop
  | .leave c => ∀ t g, s.phase c = .subscribed t g → s.queue c = [] ∨ s.queues t g = [c]
  | _ => True

/-- What holds in all runs: a consumer is in the list of its group, once, and nothing is in a queue or
was yielded that was not put into the group. -/
structure Inv (s : InMemoryTransport ι) : Prop where
  nodup : ∀ t g, (s.queues t g).Nodup
  mem : ∀ t g c, c ∈ s.queues t g ↔ s.phase c = .subscribed t g
  enqueued : ∀ t g, ∀ n ∈ s.enqueued t g, n < s.published
  queue : ∀ t g c, s.phase c = .subscribed t g → ∀ item ∈ s.queue c, item.seq ∈ s.enqueued t g
  yielded : ∀ t g, ∀ e ∈ s.yielded t g, e.2 < s.published

variable {s s' : InMemoryTransport ι} {topic group : String} {c : ι}

theorem held_erase {queue : ι → List Item} {n : Nat} {cs : List ι} (h : c ∈ cs) :
    (queue c).countP (·.seq = n) + held queue n (cs.erase c) = held queue n cs := by
  rw [← held_cons]
  exact held_perm (List.perm_cons_erase h).symm

/-! ## Publishing -/

theorem first_eq (h : s.phase c = .subscribed topic group) (t : String) :
    s.first t c = (topic = t && (s.queues topic group).head? == some c) := by
  unfold first
  rw [h]

/-- What a group holds after a message was published. -/
theorem held_publish (hinv : Inv s) (message : Message) (t g : String) (n : Nat) :
    held (s.publish topic message).queue n ((s.publish topic message).queues t g) =
      held s.queue n (s.queues t g) +
        if t = topic ∧ s.queues t g ≠ [] ∧ n = s.published then 1 else 0 := by
  have hphase : ∀ c ∈ s.queues t g, s.phase c = .subscribed t g := fun c => (hinv.mem t g c).mp
  by_cases ht : t = topic
  · subst ht
    have hqueues : (s.publish t message).queues t g = rotate (s.queues t g) := if_pos rfl
    rw [hqueues, held_perm (rotate_perm _)]
    have hnodup := hinv.nodup t g
    cases hq : s.queues t g with
    | nil => simp [held]
    | cons c rest =>
      rw [hq] at hphase hnodup
      have hfirst : ∀ d ∈ c :: rest, s.first t d = (c == d) := by
        intro d hd
        rw [first_eq (hphase d hd), hq]
        simp
      have hc : (s.publish t message).queue c = s.queue c ++ [⟨s.published, message⟩] :=
        if_pos (by rw [hfirst c List.mem_cons_self, beq_self_eq_true])
      have hrest : ∀ d ∈ rest, (s.publish t message).queue d = s.queue d := by
        intro d hd
        refine if_neg ?_
        rw [hfirst d (List.mem_cons_of_mem _ hd), beq_iff_eq]
        rintro rfl
        exact (List.nodup_cons.mp hnodup).1 hd
      rw [held_cons, held_cons, hc, held_congr hrest, List.countP_append]
      simp [eq_comm]
      omega
  · have hqueues : (s.publish topic message).queues t g = s.queues t g := if_neg ht
    rw [hqueues, if_neg fun h => ht h.1, Nat.add_zero]
    refine held_congr fun c hc => if_neg ?_
    rw [first_eq (hphase c hc)]
    simp [ht]

theorem mem_enqueued_publish {message : Message} {t g : String} {n : Nat} :
    n ∈ (s.publish topic message).enqueued t g ↔
      n ∈ s.enqueued t g ∨ t = topic ∧ s.queues t g ≠ [] ∧ n = s.published := by
  unfold publish
  dsimp only
  split <;> grind

theorem inv_publish (hinv : Inv s) (message : Message) : Inv (s.publish topic message) := by
  have hperm : ∀ t g, ((s.publish topic message).queues t g).Perm (s.queues t g) := by
    intro t g
    show (if t = topic then rotate (s.queues t g) else s.queues t g).Perm _
    split
    · exact rotate_perm _
    · exact .refl _
  refine ⟨fun t g => (hperm t g).nodup_iff.mpr (hinv.nodup t g), fun t g c => ?_, fun t g n hn => ?_,
    fun t g c hc item hitem => ?_, fun t g e he => Nat.lt_succ_of_lt (hinv.yielded t g e he)⟩
  · exact (hperm t g).mem_iff.trans (hinv.mem t g c)
  · show n < s.published + 1
    rcases mem_enqueued_publish.mp hn with h | ⟨-, -, rfl⟩
    · exact Nat.lt_succ_of_lt (hinv.enqueued t g n h)
    · exact Nat.lt_succ_self _
  · have hc : s.phase c = .subscribed t g := hc
    rw [mem_enqueued_publish]
    have hitem : item ∈ (if s.first topic c then s.queue c ++ [⟨s.published, message⟩] else s.queue c) :=
      hitem
    split at hitem
    · rename_i hfirst
      rcases List.mem_append.mp hitem with hold | hnew
      · exact .inl (hinv.queue t g c hc item hold)
      · rw [List.mem_singleton.mp hnew]
        rw [first_eq hc] at hfirst
        obtain ⟨ht, hhead⟩ := (Bool.and_eq_true ..).mp hfirst
        refine .inr ⟨of_decide_eq_true ht, ?_, rfl⟩
        intro hnil
        rw [hnil] at hhead
        cases hhead
    · exact .inl (hinv.queue t g c hc item hitem)

theorem conserved_publish (hinv : Inv s) (hs : Conserved s) (message : Message) :
    Conserved (s.publish topic message) := by
  intro t g n hn
  have hcopies : (s.publish topic message).copies t g n = s.copies t g n +
      if t = topic ∧ s.queues t g ≠ [] ∧ n = s.published then 1 else 0 := by
    unfold copies
    rw [held_publish hinv, ← Nat.add_assoc]
    rfl
  rw [hcopies]
  rcases mem_enqueued_publish.mp hn with hold | hnew
  · have hne : n ≠ s.published := Nat.ne_of_lt (hinv.enqueued t g n hold)
    rw [hs t g n hold, if_neg fun h => hne h.2.2]
  · -- The message is new: no copy of it was there before.
    have hzero : s.copies t g n = 0 := by
      obtain ⟨-, -, rfl⟩ := hnew
      unfold copies
      rw [held_eq_zero, List.countP_eq_zero.mpr]
      · intro e he
        simpa using Nat.ne_of_lt (hinv.yielded t g e he)
      · intro c hc item hitem
        exact Nat.ne_of_lt (hinv.enqueued t g _
          (hinv.queue t g c ((hinv.mem t g c).mp hc) item hitem))
    rw [hzero, if_pos hnew]

/-! ## Subscribing -/

omit [DecidableEq ι] in
/-- A consumer that is in no group is in no list. -/
theorem Inv.not_mem (hinv : Inv s) (hc : s.phase c = .fresh) (t g : String) : c ∉ s.queues t g := by
  intro h
  rw [hinv.mem, hc] at h
  cases h

theorem inv_subscribe (hinv : Inv s) (hc : s.phase c = .fresh) : Inv (s.subscribe c topic group) := by
  have hmem : ∀ t g d, d ∈ (s.subscribe c topic group).queues t g ↔
      d ∈ s.queues t g ∨ d = c ∧ t = topic ∧ g = group := by
    intro t g d
    show d ∈ (if t = topic ∧ g = group then s.queues t g ++ [c] else s.queues t g) ↔ _
    split <;> grind
  refine ⟨fun t g => ?_, fun t g d => ?_, hinv.enqueued, fun t g d hd item hitem => ?_, hinv.yielded⟩
  · show (if t = topic ∧ g = group then s.queues t g ++ [c] else s.queues t g).Nodup
    split
    · rw [(List.perm_append_singleton c _).nodup_iff, List.nodup_cons]
      exact ⟨hinv.not_mem hc t g, hinv.nodup t g⟩
    · exact hinv.nodup t g
  · rw [hmem]
    show _ ↔ Function.update s.phase c (.subscribed topic group) d = _
    by_cases hd : d = c
    · subst hd
      rw [Function.update_self]
      have hnot := hinv.not_mem hc t g
      grind
    · rw [Function.update_of_ne hd, hinv.mem]
      grind
  · have hd : Function.update s.phase c (.subscribed topic group) d = .subscribed t g := hd
    have hitem : item ∈ Function.update s.queue c [] d := hitem
    by_cases hdc : d = c
    · subst hdc
      rw [Function.update_self] at hitem
      cases hitem
    · rw [Function.update_of_ne hdc] at hd hitem
      exact hinv.queue t g d hd item hitem

theorem conserved_subscribe (hinv : Inv s) (hs : Conserved s) (hc : s.phase c = .fresh) :
    Conserved (s.subscribe c topic group) := by
  intro t g n hn
  rw [← hs t g n hn]
  show (s.yielded t g).countP _ + held (Function.update s.queue c []) n
    (if t = topic ∧ g = group then s.queues t g ++ [c] else s.queues t g) = _
  have hold : held (Function.update s.queue c []) n (s.queues t g) = held s.queue n (s.queues t g) := by
    refine held_congr fun d hd => Function.update_of_ne ?_ ..
    rintro rfl
    exact hinv.not_mem hc t g hd
  split
  · rw [held_perm (List.perm_append_singleton c _), held_cons, Function.update_self, hold]
    simp [copies]
  · rw [hold]
    rfl

/-! ## Taking a message -/

theorem inv_take {item : Item} {rest : List Item} (hinv : Inv s)
    (hc : s.phase c = .subscribed topic group) (hq : s.queue c = item :: rest) :
    Inv (s.take c topic group item rest) := by
  refine ⟨hinv.nodup, hinv.mem, hinv.enqueued, fun t g d hd i hi => ?_, fun t g e he => ?_⟩
  · have hi : i ∈ Function.update s.queue c rest d := hi
    by_cases hdc : d = c
    · subst hdc
      rw [Function.update_self] at hi
      exact hinv.queue t g d hd i (hq ▸ List.mem_cons_of_mem _ hi)
    · rw [Function.update_of_ne hdc] at hi
      exact hinv.queue t g d hd i hi
  · have hyield : e ∈ (if t = topic ∧ g = group then s.yielded t g ++ [(c, item.seq)]
        else s.yielded t g) := he
    by_cases htg : t = topic ∧ g = group
    · rw [if_pos htg] at hyield
      obtain ⟨rfl, rfl⟩ := htg
      rcases List.mem_append.mp hyield with hold | hnew
      · exact hinv.yielded t g e hold
      · rw [List.mem_singleton.mp hnew]
        exact hinv.enqueued t g _ (hinv.queue t g c hc item (hq ▸ List.mem_cons_self))
    · rw [if_neg htg] at hyield
      exact hinv.yielded t g e hyield

theorem conserved_take {item : Item} {rest : List Item} (hinv : Inv s) (hs : Conserved s)
    (hc : s.phase c = .subscribed topic group) (hq : s.queue c = item :: rest) :
    Conserved (s.take c topic group item rest) := by
  intro t g n hn
  rw [← hs t g n hn]
  show (if t = topic ∧ g = group then s.yielded t g ++ [(c, item.seq)] else s.yielded t g).countP _ +
    held (Function.update s.queue c rest) n (s.queues t g) = _
  split
  · rename_i htg
    obtain ⟨rfl, rfl⟩ := htg
    have hmem : c ∈ s.queues t g := (hinv.mem t g c).mpr hc
    have hother : held (Function.update s.queue c rest) n ((s.queues t g).erase c) =
        held s.queue n ((s.queues t g).erase c) := by
      refine held_congr fun d hd => Function.update_of_ne ?_ ..
      rintro rfl
      exact (hinv.nodup t g).not_mem_erase hd
    rw [copies, ← held_erase hmem, ← held_erase hmem, hother, Function.update_self, hq,
      List.countP_append, List.countP_cons, List.countP_cons]
    simp
    omega
  · rename_i htg
    have hother : held (Function.update s.queue c rest) n (s.queues t g) =
        held s.queue n (s.queues t g) := by
      refine held_congr fun d hd => Function.update_of_ne ?_ ..
      rintro rfl
      have heq := ((hinv.mem t g d).mp hd).symm.trans hc
      cases heq
      exact htg ⟨rfl, rfl⟩
    rw [hother]
    rfl

omit [DecidableEq ι] in
theorem inv_init : Inv (init : InMemoryTransport ι) := by
  constructor <;> simp [init]

omit [DecidableEq ι] in
theorem conserved_init : Conserved (init : InMemoryTransport ι) := by
  intro t g n hn
  cases hn

/-! ## Leaving -/

theorem mem_enqueued_leave {t g : String} {n : Nat} : n ∈ (s.leave c topic group).enqueued t g ↔
    n ∈ s.enqueued t g ∧ ¬ (t = topic ∧ g = group ∧ (s.queues t g).erase c = []) := by
  unfold leave
  dsimp only
  split
  · rename_i hlast
    exact ⟨fun hn => absurd hn List.not_mem_nil, fun hn => absurd hlast hn.2⟩
  · rename_i hkept
    exact ⟨fun hn => ⟨hn, hkept⟩, And.left⟩

theorem inv_leave (hinv : Inv s) (hc : s.phase c = .subscribed topic group) :
    Inv (s.leave c topic group) := by
  have hqueues : ∀ t g, (s.leave c topic group).queues t g = (s.queues t g).erase c := by
    intro t g
    show (if t = topic ∧ g = group then (s.queues t g).erase c else s.queues t g) = _
    split
    · rfl
    · rename_i htg
      refine (List.erase_of_not_mem fun hmem => htg ?_).symm
      have heq := ((hinv.mem t g c).mp hmem).symm.trans hc
      cases heq
      exact ⟨rfl, rfl⟩
  have hphase : ∀ d, (s.leave c topic group).phase d = Function.update s.phase c .left d := fun _ => rfl
  refine ⟨fun t g => ?_, fun t g d => ?_, fun t g n hn => ?_, fun t g d hd item hitem => ?_,
    hinv.yielded⟩
  · rw [hqueues]
    exact (hinv.nodup t g).erase c
  · rw [hqueues, (hinv.nodup t g).mem_erase_iff, hphase, hinv.mem]
    by_cases hdc : d = c
    · subst hdc
      simp
    · rw [Function.update_of_ne hdc]
      exact and_iff_right hdc
  · exact hinv.enqueued t g n (mem_enqueued_leave.mp hn).1
  · rw [hphase] at hd
    by_cases hdc : d = c
    · subst hdc
      rw [Function.update_self] at hd
      cases hd
    · rw [Function.update_of_ne hdc] at hd
      refine mem_enqueued_leave.mpr ⟨hinv.queue t g d hd item hitem, ?_⟩
      rintro ⟨-, -, hnil⟩
      have hmem : d ∈ (s.queues t g).erase c :=
        (List.mem_erase_of_ne hdc).mpr ((hinv.mem t g d).mpr hd)
      rw [hnil] at hmem
      cases hmem

/-- What is in the queue of the consumer that leaves is lost. -/
theorem copies_leave (hinv : Inv s) (hc : s.phase c = .subscribed topic group) (n : Nat) :
    (s.leave c topic group).copies topic group n + (s.queue c).countP (·.seq = n) =
      s.copies topic group n := by
  have hqueues : (s.leave c topic group).queues topic group = (s.queues topic group).erase c :=
    if_pos ⟨rfl, rfl⟩
  rw [copies, copies, hqueues, ← held_erase ((hinv.mem topic group c).mpr hc)]
  show (s.yielded topic group).countP _ + held s.queue n _ + _ = _
  omega

theorem copies_leave_of_ne {t g : String} (htg : ¬ (t = topic ∧ g = group)) (n : Nat) :
    (s.leave c topic group).copies t g n = s.copies t g n := by
  unfold copies
  have hqueues : (s.leave c topic group).queues t g = s.queues t g := if_neg htg
  rw [hqueues]
  rfl

/-- **When a consumer may leave**: nothing is lost exactly if its queue is empty or it is the last one. -/
theorem conserved_leave_iff (hinv : Inv s) (hs : Conserved s)
    (hc : s.phase c = .subscribed topic group) :
    Conserved (s.leave c topic group) ↔ s.queue c = [] ∨ s.queues topic group = [c] := by
  have hmem : c ∈ s.queues topic group := (hinv.mem topic group c).mpr hc
  constructor
  · intro h
    by_contra hleaves
    push Not at hleaves
    obtain ⟨hq, hothers⟩ := hleaves
    obtain ⟨item, hitem⟩ := List.exists_mem_of_ne_nil _ hq
    have hremain : (s.queues topic group).erase c ≠ [] := by
      intro hnil
      refine hothers ?_
      have hperm := List.perm_cons_erase hmem
      rw [hnil] at hperm
      exact List.perm_singleton.mp hperm
    have hbefore := hinv.queue topic group c hc item hitem
    have hafter := h topic group item.seq (mem_enqueued_leave.mpr ⟨hbefore, fun h => hremain h.2.2⟩)
    have hcopies := copies_leave hinv hc item.seq
    rw [hs topic group _ hbefore, hafter] at hcopies
    have hpos : 0 < (s.queue c).countP (·.seq = item.seq) :=
      List.countP_pos_iff.mpr ⟨item, hitem, by simp⟩
    omega
  · rintro hleaves t g n hn
    obtain ⟨hold, hkept⟩ := mem_enqueued_leave.mp hn
    by_cases htg : t = topic ∧ g = group
    · obtain ⟨rfl, rfl⟩ := htg
      rcases hleaves with hq | hlast
      · have hcopies := copies_leave hinv hc n
        rw [hq, hs t g n hold] at hcopies
        exact hcopies
      · refine absurd ⟨rfl, rfl, ?_⟩ hkept
        rw [hlast]
        simp
    · rw [copies_leave_of_ne htg]
      exact hs t g n hold

/-! ## Runs -/

theorem inv_step {l : Label ι} (hinv : Inv s) (hstep : Step s l s') : Inv s' := by
  cases hstep with
  | publish topic message => exact inv_publish hinv message
  | subscribe topic group hc => exact inv_subscribe hinv hc
  | take hc hq => exact inv_take hinv hc hq
  | leave hc => exact inv_leave hinv hc

theorem conserved_step_iff {l : Label ι} (hinv : Inv s) (hs : Conserved s) (hstep : Step s l s') :
    Conserved s' ↔ LeavesNothing s l := by
  cases hstep with
  | publish topic message => exact iff_of_true (conserved_publish hinv hs message) trivial
  | subscribe topic group hc => exact iff_of_true (conserved_subscribe hinv hs hc) trivial
  | take hc hq => exact iff_of_true (conserved_take hinv hs hc hq) trivial
  | @leave c topic group hc =>
    rw [conserved_leave_iff hinv hs hc]
    constructor
    · intro h t g htg
      cases htg.symm.trans hc
      exact h
    · exact fun h => h topic group hc

/-- **When consumer groups lose nothing.** In every run, each message that was put into a group that has
had a consumer since then has been yielded to one consumer or waits in the queue of one, if and only if
no consumer leaves others behind with messages in its queue. -/
theorem group_conserved_iff {steps : List (InMemoryTransport ι × Label ι)}
    (h : Lts.Path Step init steps s) :
    Lts.Throughout Conserved steps s ↔ Lts.AllMeet LeavesNothing steps :=
  h.throughout_iff inv_init (fun _ _ _ hinv _ _ => inv_step hinv) conserved_init
    fun _ _ _ hinv hs => conserved_step_iff hinv hs

/-- Two consumers `true` and `false` of a group. -/
def pair : InMemoryTransport Bool := (init.subscribe true "t" "g").subscribe false "t" "g"

def task : Message := task_dispatch ⟨"m", "c", "now"⟩ "scheduler" []

/-- The two consumers come, and a message is published: the first one gets it. -/
def backlogSteps : List (InMemoryTransport Bool × Label Bool) :=
  [(init, .subscribe true "t" "g"), (init.subscribe true "t" "g", .subscribe false "t" "g"),
    (pair, .publish "t" task)]

theorem backlog_path : Lts.Path Step init backlogSteps (pair.publish "t" task) :=
  .step (.step (.step .start (.subscribe "t" "g" rfl)) (.subscribe "t" "g" rfl)) (.publish "t" _)

/-- Nobody left, so nothing was lost. -/
theorem conserved_backlog : Lts.Throughout Conserved backlogSteps (pair.publish "t" task) :=
  (group_conserved_iff backlog_path).mpr (by simp [Lts.AllMeet, backlogSteps, LeavesNothing])

/-- The first of the two consumers leaves: its message is in no queue and was not yielded, though the
group has a consumer. -/
theorem backlog_lost : ∃ steps, ∃ s : InMemoryTransport Bool, Lts.Path Step init steps s ∧
    s.queues "t" "g" = [false] ∧ 0 ∈ s.enqueued "t" "g" ∧ s.copies "t" "g" 0 = 0 ∧ ¬ Conserved s :=
  ⟨_, (pair.publish "t" task).leave true "t" "g", .step backlog_path (.leave rfl), rfl, by decide, rfl,
    fun h => absurd (h "t" "g" 0 (by decide)) (by decide)⟩

end InMemoryTransport

end Aqap.Transport
