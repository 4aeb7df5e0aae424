import Aqap.Async.Dealing
import Aqap.Transport.Balance
import Aqap.Transport.RedisStreams
import Mathlib.Data.List.Sort

/-!
# What a group is given

Both the Redis streams and the queues in memory deal what is published on a topic out to the consumers of a
group, and nobody gives it back.

* `RedisStreams.yielded_once`: what a group of a stream is yielded.
* `InMemoryTransport.taken_once`: what a group of queues is yielded, whoever joins and leaves.
-/

namespace Aqap.Transport

open Py Aqap.Core Async

/-! ## Redis Streams -/

namespace RedisStreams

/-- What a subscription to the group has left to yield. -/
def Phase.rest (topic group : String) : Phase → List Nat
  | reading t g batch => if t = topic ∧ g = group then batch else []
  | yielded t g _ batch => if t = topic ∧ g = group then batch else []
  | _ => []

variable {ι : Type} [DecidableEq ι] {loads : String → Option Json} {s s' : RedisStreams ι} {t g : String}

/-- The entries that a group is yielded, each with its subscription. -/
def yields (t g : String) (steps : List (RedisStreams ι × Label ι)) : List (ι × Nat) :=
  steps.filterMap fun e =>
    match e.2 with
    | .yield c topic group entry _ => if topic = t ∧ group = g then some (c, entry) else none
    | _ => none

omit [DecidableEq ι] in
theorem yields_append (steps steps' : List (RedisStreams ι × Label ι)) :
    yields t g (steps ++ steps') = yields t g steps ++ yields t g steps' := List.filterMap_append ..

/-- Increasing numbers are a part of those from the first to the last. -/
theorem sublist_range' {a b : Nat} {entries : List Nat} (hsorted : entries.Pairwise (· < ·))
    (hentries : ∀ i ∈ entries, a ≤ i ∧ i < b) : entries.Sublist (List.range' a (b - a)) := by
  refine List.sublist_of_subperm_of_pairwise (r := (· ≤ ·)) ?_ (hsorted.imp Nat.le_of_lt) ?_
  · have hnodup : entries.Nodup := hsorted.imp Nat.ne_of_lt
    refine hnodup.subperm fun i hi => ?_
    obtain ⟨hlow, hhigh⟩ := hentries i hi
    rw [List.mem_range'_1]
    omega
  · exact List.pairwise_le_range'

theorem range_of_le {a b : Nat} (h : a ≤ b) : List.range b = List.range a ++ List.range' a (b - a) := by
  rw [List.range_eq_range', List.range_eq_range']
  have happend := @List.range'_append 0 a (b - a) 1
  rw [one_mul, zero_add, Nat.add_sub_cancel' h] at happend
  exact happend.symm

theorem Phase.rest_reading (topic group : String) (batch : List Nat) :
    (reading topic group batch).rest t g = if topic = t ∧ group = g then batch else [] := rfl

theorem Phase.rest_yielded (topic group : String) (entry : Nat) (batch : List Nat) :
    (yielded topic group entry batch).rest t g = if topic = t ∧ group = g then batch else [] := rfl

/-- A subscription goes on with what it had left, or less. -/
theorem rest_goto {c : ι} {phase : Phase} (h : (phase.rest t g).Sublist ((s.phase c).rest t g)) (d : ι) :
    (((s.goto c phase).phase d).rest t g).Sublist ((s.phase d).rest t g) := by
  rw [phase_goto]
  split
  · rename_i hd
    rw [hd]
    exact h
  · exact .refl _

/-- What a step yields, its subscription had left; and nobody has anything else left afterwards, unless it has
read the next entries of the stream. -/
theorem rest_step {l : Label ι} (hstep : Step loads s l s') (t g : String) :
    (∀ d, (usedBy d (yields t g [(s, l)]) ++ (s'.phase d).rest t g).Sublist ((s.phase d).rest t g)) ∨
    ∃ c entries, s.Undelivered t g entries ∧ (∀ i ∈ entries, i < s'.last t g) ∧ yields t g [(s, l)] = [] ∧
      (s'.phase c).rest t g = (s.phase c).rest t g ++ entries ∧
      ∀ d, d ≠ c → (s'.phase d).rest t g = (s.phase d).rest t g := by
  cases hstep with
  | subscribe topic group _ =>
    refine .inl (rest_goto ?_)
    rw [Phase.rest_reading, ite_self]
    exact List.nil_sublist _
  | @read c topic group entries hc _ hund =>
    by_cases htg : topic = t ∧ group = g
    -- New entries come after those that the consumer has left.
    · obtain ⟨rfl, rfl⟩ := htg
      refine .inr ⟨c, entries, hund, (last_xreadgroup hund _ _).2 ⟨rfl, rfl⟩, rfl, ?_, fun d hd => ?_⟩
      · rw [phase_goto, if_pos rfl, hc, Phase.rest_reading, Phase.rest_reading, if_pos ⟨rfl, rfl⟩, ite_self]
        rfl
      · rw [phase_goto, if_neg hd]
        rfl
    · refine .inl (rest_goto ?_)
      rw [Phase.rest_reading, if_neg htg]
      exact List.nil_sublist _
  | skip hc _ =>
    refine .inl (rest_goto ?_)
    rw [hc, Phase.rest_reading, Phase.rest_reading]
    split
    · exact List.sublist_cons_self ..
    · exact .refl _
  | @yield c topic group entry batch e data fresh hc _ _ =>
    refine .inl fun d => ?_
    by_cases htg : topic = t ∧ group = g
    · have hyields : yields t g [(s, Label.yield c topic group entry
          { Message.from_dict fresh data with transport_msg_id := some (.id e.id) })] = [(c, entry)] := by
        simp [yields, htg]
      rw [hyields, usedBy_singleton, phase_goto]
      by_cases hd : d = c
      · rw [if_pos hd.symm, if_pos hd, hd, hc, Phase.rest_yielded, Phase.rest_reading, if_pos htg, if_pos htg]
        exact .refl _
      · rw [if_neg fun h => hd h.symm, if_neg hd]
        exact .refl _
    · have hyields : yields t g [(s, Label.yield c topic group entry
          { Message.from_dict fresh data with transport_msg_id := some (.id e.id) })] = [] := by
        simp [yields, htg]
      rw [hyields]
      refine rest_goto ?_ d
      rw [Phase.rest_yielded, if_neg htg]
      exact List.nil_sublist _
  | resume hc =>
    refine .inl (rest_goto ?_)
    rw [hc, Phase.rest_reading, Phase.rest_yielded]
  | leave _ => exact .inl (rest_goto (List.nil_sublist _))
  | ack topic message_id group => cases message_id <;> exact .inl fun _ => .refl _
  | _ => exact .inl fun _ => .refl _

/-- What a subscription has yielded and has left is what it was dealt. -/
theorem dealt_path {steps : List (RedisStreams ι × Label ι)} (h : Lts.Path (Step loads) init steps s)
    (t g : String) :
    Dealt (List.range (s.last t g)) fun c => usedBy c (yields t g steps) ++ (s.phase c).rest t g := by
  induction h with
  | start => exact Dealt.nil
  | @step s s' l steps _ hstep ih =>
    have hrange := range_of_le (last_step hstep t g)
    have hnodup := List.nodup_range (n := s'.last t g)
    rw [hrange] at hnodup ⊢
    rcases rest_step hstep t g with hless | ⟨c, entries, hund, hlast, hnone, hself, hother⟩
    · refine (ih.more hnodup).drop fun d => ?_
      rw [yields_append, usedBy_append, List.append_assoc]
      exact (hless d).append_left _
    · have hnew : ∀ i ∈ entries, s.last t g ≤ i ∧ i < s'.last t g := fun i hi =>
        ⟨(hund.2.2.2 i hi).1, hlast i hi⟩
      refine ih.deal hnodup (sublist_range' hund.2.2.1 hnew) (c := c) ?_ fun d hd => ?_
      · rw [yields_append, hnone, List.append_nil, hself, List.append_assoc]
      · rw [yields_append, hnone, List.append_nil, hother d hd]

/-- **A group is yielded every entry at most once**, whatever is acknowledged, fails or is cancelled. In every
run, no entry of a stream is yielded twice to the subscriptions of a group, so what is not acknowledged is not
handled again; each of them is yielded its entries in the order of the stream, and the messages that they hold. -/
theorem yielded_once {steps : List (RedisStreams ι × Label ι)} (h : Lts.Path (Step loads) init steps s)
    (t g : String) :
    ((yields t g steps).map Prod.snd).Nodup ∧
      (∀ c, (usedBy c (yields t g steps)).Pairwise (· < ·)) ∧
      ∀ e ∈ steps, ∀ c i m, e.2 = .yield c t g i m → ∃ entry data fresh,
        (s.stream t)[i]? = some entry ∧ entry.message loads = some data ∧
          m = { Message.from_dict fresh data with transport_msg_id := some (.id entry.id) } := by
  have hdealt := dealt_path h t g
  have hused (c : ι) : (usedBy c (yields t g steps)).Sublist
      (usedBy c (yields t g steps) ++ (s.phase c).rest t g) := List.sublist_append_left _ _
  refine ⟨hdealt.once hused, fun c => ?_, ?_⟩
  · exact List.pairwise_lt_range.sublist ((hused c).trans (hdealt.sublist c))
  · clear hdealt hused
    induction h with
    | start => exact fun _ he => absurd he List.not_mem_nil
    | @step s s' l steps _ hstep ih =>
      rintro e he c i m hyield
      rcases List.mem_append.mp he with hold | hlast
      · obtain ⟨entry, data, fresh, hentry, hdata, hm⟩ := ih e hold c i m hyield
        exact ⟨entry, data, fresh, stream_step hstep hentry, hdata, hm⟩
      · rw [List.mem_singleton.mp hlast] at hyield
        subst hyield
        cases hstep with
        | yield fresh _ hentry hdata => exact ⟨_, _, fresh, hentry, hdata, rfl⟩

/-- The message of the only entry. -/
def task_message : Message :=
  { Message.from_dict ⟨"m", "c", "now"⟩ [] with transport_msg_id := some (.id "1-0") }

/-- It is yielded, and not acknowledged. -/
def unacknowledgedSteps : List (RedisStreams Unit × Label Unit) :=
  startedSteps task ++ [(started task, .yield () "t" "g" 0 task_message)] ++
    [((started task).goto () (.yielded "t" "g" 0 []), .resume ())]

theorem yielded_once_sample : yields "t" "g" unacknowledgedSteps = [((), 0)] ∧
    ((yields "t" "g" unacknowledgedSteps).map Prod.snd).Nodup ∧
      (∀ c, (usedBy c (yields "t" "g" unacknowledgedSteps)).Pairwise (· < ·)) ∧
      ∀ e ∈ unacknowledgedSteps, ∀ c i m, e.2 = .yield c "t" "g" i m → ∃ entry data fresh,
        ((started task).stream "t")[i]? = some entry ∧ entry.message loads_empty = some data ∧
          m = { Message.from_dict fresh data with transport_msg_id := some (.id entry.id) } := by
  have hpath : Lts.Path (Step loads_empty) init unacknowledgedSteps
      (((started task).goto () (.yielded "t" "g" 0 [])).goto () (.reading "t" "g" [])) :=
    .step (.step (started_path task) (.yield ⟨"m", "c", "now"⟩ rfl rfl message_task)) (.resume rfl)
  exact ⟨by decide, yielded_once hpath "t" "g"⟩

end RedisStreams

/-! ## Queues in memory -/

namespace InMemoryTransport

variable {ι : Type} [DecidableEq ι] {s s' : InMemoryTransport ι} {t g : String}

/-- The messages that a group is yielded, each with its consumer. -/
def yields (t g : String) (steps : List (InMemoryTransport ι × Label ι)) : List (ι × Item) :=
  steps.filterMap fun e =>
    match e.2 with
    | .take c => if e.1.phase c = .subscribed t g then (e.1.queue c).head?.map fun item => (c, item) else none
    | _ => none

/-- What waits in the queue of a consumer of the group. -/
def waiting (s : InMemoryTransport ι) (t g : String) (c : ι) : List Item :=
  if s.phase c = .subscribed t g then s.queue c else []

omit [DecidableEq ι] in
theorem waiting_of_subscribed {c : ι} (h : s.phase c = .subscribed t g) : s.waiting t g c = s.queue c := if_pos h

omit [DecidableEq ι] in
theorem waiting_of_ne {c : ι} (h : s.phase c ≠ .subscribed t g) : s.waiting t g c = [] := if_neg h

omit [DecidableEq ι] in
theorem waiting_congr {c : ι} (hphase : s'.phase c = s.phase c) (hqueue : s'.queue c = s.queue c) :
    s'.waiting t g c = s.waiting t g c := by
  unfold waiting
  rw [hphase, hqueue]

omit [DecidableEq ι] in
theorem yields_append (steps steps' : List (InMemoryTransport ι × Label ι)) :
    yields t g (steps ++ steps') = yields t g steps ++ yields t g steps' := List.filterMap_append ..

omit [DecidableEq ι] in
theorem publications_append (steps steps' : List (InMemoryTransport ι × Label ι)) :
    publications t (steps ++ steps') = publications t steps ++ publications t steps' := List.filterMap_append ..

/-- The publications are numbered. -/
theorem numbered_path {steps : List (InMemoryTransport ι × Label ι)} (h : Lts.Path Step init steps s)
    (t : String) : (∀ item ∈ publications t steps, item.seq < s.published) ∧ (publications t steps).Nodup := by
  induction h with
  | start => exact ⟨fun _ h => absurd h List.not_mem_nil, List.nodup_nil⟩
  | @step s s' l steps _ hstep ih =>
    obtain ⟨hbelow, hnodup⟩ := ih
    rw [publications_append]
    cases hstep with
    | publish topic message =>
      by_cases ht : topic = t
      · have hone : publications t [(s, Label.publish topic message)] = [⟨s.published, message⟩] := by
          simp [publications, ht]
        rw [hone]
        refine ⟨?_, List.nodup_append.mpr ⟨hnodup, List.nodup_singleton _, fun item hitem new hnew heq => ?_⟩⟩
        · refine List.forall_mem_append.mpr ⟨fun item hitem => Nat.lt_succ_of_lt (hbelow item hitem), ?_⟩
          exact List.forall_mem_singleton.mpr (Nat.lt_succ_self _)
        · have hlt := hbelow item hitem
          rw [heq, List.mem_singleton.mp hnew] at hlt
          exact Nat.lt_irrefl _ hlt
      · have hnone : publications t [(s, Label.publish topic message)] = [] := by
          simp [publications, ht]
        rw [hnone, List.append_nil]
        exact ⟨fun item hitem => Nat.lt_succ_of_lt (hbelow item hitem), hnodup⟩
    | _ =>
      rw [show publications t [(s, _)] = [] from rfl, List.append_nil]
      exact ⟨hbelow, hnodup⟩

/-- What is published is appended to the queue of the first consumer of each group, if it has one. -/
theorem waiting_publish (s : InMemoryTransport ι) (topic : String) (message : Message) (t g : String) :
    (∀ d, ((s.publish topic message).waiting t g d).Sublist (s.waiting t g d)) ∨
    ∃ c, (s.publish topic message).waiting t g c =
        s.waiting t g c ++ publications t [(s, .publish topic message)] ∧
      ∀ d, d ≠ c → (s.publish topic message).waiting t g d = s.waiting t g d := by
  have hqueue (d : ι) : (s.publish topic message).waiting t g d = if s.phase d = .subscribed t g then
      if s.first topic d then s.queue d ++ [⟨s.published, message⟩] else s.queue d else [] := rfl
  by_cases hfirst : ∃ c, s.phase c = .subscribed t g ∧ s.first topic c = true
  · obtain ⟨c, hc, hfirst⟩ := hfirst
    have hhead := hfirst
    rw [first_eq hc, Bool.and_eq_true, decide_eq_true_iff, beq_iff_eq] at hhead
    obtain ⟨rfl, hhead⟩ := hhead
    refine .inr ⟨c, ?_, fun d hd => ?_⟩
    · rw [hqueue, if_pos hc, if_pos hfirst, waiting_of_subscribed hc]
      simp [publications]
    · rw [hqueue]
      by_cases hphase : s.phase d = .subscribed t g
      · have hother : s.first t d = false := by
          rw [first_eq hphase, hhead]
          simpa using fun h : c = d => hd h.symm
        rw [if_pos hphase, hother, waiting_of_subscribed hphase]
        rfl
      · rw [if_neg hphase, waiting_of_ne hphase]
  · refine .inl fun d => ?_
    rw [hqueue]
    by_cases hphase : s.phase d = .subscribed t g
    · have hother : ¬ s.first topic d = true := fun h => hfirst ⟨d, hphase, h⟩
      rw [if_pos hphase, if_neg hother, waiting_of_subscribed hphase]
    · rw [if_neg hphase]
      exact List.nil_sublist _

/-- What a step yields, its consumer had in its queue; and nobody has anything else in it afterwards, unless it
gets what is published. -/
theorem waiting_step {l : Label ι} (hstep : Step s l s') (t g : String) :
    (∀ d, (usedBy d (yields t g [(s, l)]) ++ s'.waiting t g d).Sublist (s.waiting t g d)) ∨
    ∃ c, yields t g [(s, l)] = [] ∧ s'.waiting t g c = s.waiting t g c ++ publications t [(s, l)] ∧
      ∀ d, d ≠ c → s'.waiting t g d = s.waiting t g d := by
  cases hstep with
  | publish topic message =>
    rcases waiting_publish s topic message t g with hnone | ⟨c, hgets, hothers⟩
    · exact .inl hnone
    · exact .inr ⟨c, rfl, hgets, hothers⟩
  | @subscribe c topic group hc =>
    refine .inl fun d => ?_
    by_cases hd : d = c
    · have hempty : (s.subscribe c topic group).waiting t g d = [] := by
        subst hd
        show (if Function.update s.phase d _ d = _ then Function.update s.queue d [] d else []) = _
        rw [Function.update_self, Function.update_self, ite_self]
      rw [hempty]
      exact List.nil_sublist _
    · rw [waiting_congr (Function.update_of_ne hd ..) (Function.update_of_ne hd ..)]
      exact .refl _
  -- The item leaves the head of its queue, and is yielded.
  | @take c topic group item rest hc hq =>
    have hother (d : ι) (hd : d ≠ c) : (s.take c topic group item rest).waiting t g d = s.waiting t g d :=
      waiting_congr rfl (Function.update_of_ne hd ..)
    have hself : (s.take c topic group item rest).waiting t g c =
        if s.phase c = .subscribed t g then rest else [] := by
      show (if s.phase c = _ then Function.update s.queue c rest c else []) = _
      rw [Function.update_self]
    refine .inl fun d => ?_
    by_cases hphase : s.phase c = .subscribed t g
    · have hyields : yields t g [(s, .take c)] = [(c, item)] := by
        simp [yields, hphase, hq]
      rw [hyields, usedBy_singleton]
      by_cases hd : d = c
      · rw [if_pos hd.symm, hd, hself, if_pos hphase, waiting_of_subscribed hphase, hq]
        exact .refl _
      · rw [if_neg fun h => hd h.symm, hother d hd]
        exact .refl _
    · have hyields : yields t g [(s, .take c)] = [] := by
        simp [yields, hphase]
      rw [hyields]
      by_cases hd : d = c
      · rw [hd, hself, if_neg hphase]
        exact List.nil_sublist _
      · rw [hother d hd]
        exact .refl _
  | @leave c topic group hc =>
    refine .inl fun d => ?_
    by_cases hd : d = c
    · have hempty : (s.leave c topic group).waiting t g d = [] := by
        subst hd
        show (if Function.update s.phase d .left d = _ then s.queue d else []) = _
        rw [Function.update_self]
        exact if_neg Phase.noConfusion
      rw [hempty]
      exact List.nil_sublist _
    · have hsame : (s.leave c topic group).waiting t g d = s.waiting t g d :=
        waiting_congr (Function.update_of_ne hd ..) rfl
      rw [hsame]
      exact .refl _

/-- What a consumer was yielded and what waits in its queue is what it was dealt. -/
theorem dealt_path {steps : List (InMemoryTransport ι × Label ι)} (h : Lts.Path Step init steps s)
    (t g : String) :
    Dealt (publications t steps) fun c => usedBy c (yields t g steps) ++ s.waiting t g c := by
  induction h with
  | start => exact Dealt.nil
  | @step s s' l steps hpath hstep ih =>
    have hnodup := (numbered_path (.step hpath hstep) t).2
    rw [publications_append] at hnodup ⊢
    rcases waiting_step hstep t g with hless | ⟨c, hnone, hself, hother⟩
    · refine (ih.more hnodup).drop fun d => ?_
      rw [yields_append, usedBy_append, List.append_assoc]
      exact (hless d).append_left _
    · refine ih.deal hnodup (.refl _) (c := c) ?_ fun d hd => ?_
      · rw [yields_append, hnone, List.append_nil, hself, List.append_assoc]
      · rw [yields_append, hnone, List.append_nil, hother d hd]

/-- **A group takes every message at most once**, and in its order. In every run, whoever joins and leaves the
group in the meantime, no two of its takes are of one publication, and each consumer takes a part of what was
published on the topic, in the order of publication. -/
theorem taken_once {steps : List (InMemoryTransport ι × Label ι)} (h : Lts.Path Step init steps s) (t g : String) :
    ((yields t g steps).map Prod.snd).Nodup ∧
      ∀ c, (usedBy c (yields t g steps)).Sublist (publications t steps) := by
  have hdealt := dealt_path h t g
  have hused (c : ι) : (usedBy c (yields t g steps)).Sublist
      (usedBy c (yields t g steps) ++ s.waiting t g c) := List.sublist_append_left _ _
  exact ⟨hdealt.once hused, fun c => (hused c).trans (hdealt.sublist c)⟩

/-- The first of two consumers takes a message and leaves, and the second one takes the next. -/
def succession : List (Label Bool) :=
  [.subscribe true "t" "g", .subscribe false "t" "g", .publish "t" task, .take true, .leave true,
    .publish "t" task, .take false]

theorem taken_once_sample : ∃ steps, ∃ s : InMemoryTransport Bool, Lts.Path Step init steps s ∧
    steps.map Prod.snd = succession ∧ yields "t" "g" steps = [(true, ⟨0, task⟩), (false, ⟨1, task⟩)] ∧
    ((yields "t" "g" steps).map Prod.snd).Nodup ∧
      ∀ c, (usedBy c (yields "t" "g" steps)).Sublist (publications "t" steps) := by
  have htake : Step (pair.publish "t" task) (.take true) ((pair.publish "t" task).take true "t" "g" ⟨0, task⟩ []) :=
    .take rfl rfl
  have hpath := Lts.Path.step (.step (.step (.step backlog_path htake) (.leave (c := true) rfl))
    (.publish "t" task)) (.take (c := false) rfl rfl)
  exact ⟨_, _, hpath, rfl, rfl, taken_once hpath "t" "g"⟩

end InMemoryTransport

end Aqap.Transport
