import Aqap.Transport.InMemory
import Mathlib.Data.Int.CardIntervalMod
import Mathlib.Data.List.Rotate

/-!
# Fan-out and balance of the in-memory transport

The list of a group is a rotation of what it was, one place for each message that was published since
then, as long as nobody joins or leaves the group. So the consumers take turns.

* `fansOut`: a published message is put into one queue of each group of its topic.
* `queues_eq_rotate`, `length_received`: the list of a group after some messages, and how many of them a
  consumer has been given.
* `fan_out_balanced`: the consumers of a group get equal shares, in the order of publication.
-/

namespace Aqap.Transport

open Aqap.Core Async

/-! ## Taking turns -/

/-- Who takes every `k`-th turn has had an equal share of `n` turns, rounded up or down. -/
theorem count_mod_eq_div {k j : Nat} (hj : j < k) (n : Nat) :
    Nat.count (fun i => i % k = j) n = n / k ∨ Nat.count (fun i => i % k = j) n = (n + k - 1) / k := by
  have hk : 0 < k := Nat.zero_lt_of_lt hj
  have hcount : Nat.count (fun i => i % k = j) n = n / k + if j < n % k then 1 else 0 := by
    have hmod : ∀ i, i % k = j ↔ i ≡ j [MOD k] := by
      intro i
      unfold Nat.ModEq
      rw [Nat.mod_eq_of_lt hj]
    calc Nat.count (fun i => i % k = j) n
        = Nat.count (· ≡ j [MOD k]) n := by simp only [hmod]
      _ = n / k + if j % k < n % k then 1 else 0 := Nat.count_modEq_card n hk j
      _ = n / k + if j < n % k then 1 else 0 := by rw [Nat.mod_eq_of_lt hj]
  rw [hcount]
  by_cases hlt : j < n % k
  · right
    rw [if_pos hlt]
    have hsum : n + k - 1 = (n % k - 1) + k * (n / k + 1) := by
      have hdiv := Nat.mod_add_div n k
      rw [Nat.mul_add]
      omega
    have hrest : n % k - 1 < k := by
      have hmod := Nat.mod_lt n hk
      omega
    rw [hsum, Nat.add_mul_div_left _ _ hk, Nat.div_eq_of_lt hrest, Nat.zero_add]
  · left
    rw [if_neg hlt, Nat.add_zero]

/-- Who stands first in a list that was rotated `n` times. -/
theorem head?_rotate_eq_some_iff {α : Type} {l : List α} (hnodup : l.Nodup) {j : Nat} (hj : j < l.length)
    (n : Nat) : (l.rotate n).head? = some l[j] ↔ n % l.length = j := by
  have hpos : 0 < l.length := Nat.zero_lt_of_lt hj
  have hmod : n % l.length < l.length := Nat.mod_lt n hpos
  rw [← List.rotate_mod, List.head?_rotate hmod, List.getElem?_eq_getElem hmod, Option.some.injEq]
  exact hnodup.getElem_inj_iff

namespace InMemoryTransport

variable {ι : Type} [DecidableEq ι]

omit [DecidableEq ι] in
theorem rotate_eq (l : List ι) : rotate l = l.rotate 1 := by
  cases l with
  | nil => rfl
  | cons c l => rw [List.rotate_cons_succ, List.rotate_zero]; rfl

/-! ## Publishing -/

/-- The message is put into one queue of each group of the topic that has a consumer, and into no other
queue. -/
structure FansOut (s : InMemoryTransport ι) (topic : String) (message : Message) : Prop where
  one : ∀ group, s.queues topic group ≠ [] → ∃ c ∈ s.queues topic group,
    (s.publish topic message).queue c = s.queue c ++ [⟨s.published, message⟩] ∧
      ∀ d ∈ s.queues topic group, d ≠ c → (s.publish topic message).queue d = s.queue d
  other : ∀ c, (∀ group, c ∉ s.queues topic group) → (s.publish topic message).queue c = s.queue c

variable {s s' : InMemoryTransport ι} {topic group : String} {c : ι}

theorem fansOut (hinv : Inv s) (topic : String) (message : Message) : FansOut s topic message := by
  constructor
  · intro group hne
    obtain ⟨c, rest, hq⟩ := List.exists_cons_of_ne_nil hne
    have hfirst : ∀ d ∈ s.queues topic group, s.first topic d = (c == d) := by
      intro d hd
      rw [first_eq ((hinv.mem topic group d).mp hd), hq]
      simp
    have hc : c ∈ s.queues topic group := hq ▸ List.mem_cons_self
    refine ⟨c, hc, if_pos (by rw [hfirst c hc, beq_self_eq_true]), fun d hd hdc => if_neg ?_⟩
    rw [hfirst d hd, beq_iff_eq]
    exact hdc.symm
  · intro c hc
    refine if_neg fun hfirst => ?_
    unfold first at hfirst
    split at hfirst
    · rename_i t g hphase
      obtain ⟨ht, -⟩ := (Bool.and_eq_true ..).mp hfirst
      obtain rfl : t = topic := of_decide_eq_true ht
      exact hc g ((hinv.mem t g c).mpr hphase)
    · cases hfirst

/-! ## A stretch without changes of the group -/

/-- The messages that the steps publish on the topic. -/
def publications (topic : String) (steps : List (InMemoryTransport ι × Label ι)) : List Item :=
  steps.filterMap fun e =>
    match e.2 with
    | .publish t message => if t = topic then some ⟨e.1.published, message⟩ else none
    | _ => none

/-- The messages that the steps put into the queue of the consumer. -/
def received (c : ι) (steps : List (InMemoryTransport ι × Label ι)) : List Item :=
  steps.filterMap fun e =>
    match e.2 with
    | .publish t message => if e.1.first t c then some ⟨e.1.published, message⟩ else none
    | _ => none

/-- The messages that the consumer takes from its queue. -/
def taken (c : ι) (steps : List (InMemoryTransport ι × Label ι)) : List Item :=
  steps.filterMap fun e =>
    match e.2 with
    | .take d => if d = c then (e.1.queue c).head? else none
    | _ => none

/-- Nobody joins or leaves the group. -/
def KeepsGroup (topic group : String) (s : InMemoryTransport ι) : Label ι → Prop
  | .subscribe _ t g => ¬ (t = topic ∧ g = group)
  | .leave c => s.phase c ≠ .subscribed topic group
  | _ => True

variable {steps : List (InMemoryTransport ι × Label ι)}

/-- One step rotates the list of the group if it publishes on the topic. -/
theorem queues_step {l : Label ι} (hkeeps : KeepsGroup topic group s l) (h : Step s l s') :
    s'.queues topic group =
      (s.queues topic group).rotate (publications topic [(s, l)]).length := by
  cases h with
  | publish t message =>
    by_cases ht : t = topic
    · subst ht
      have hone : publications t [(s, Label.publish t message)] = [⟨s.published, message⟩] := by
        simp [publications]
      rw [hone]
      exact (if_pos rfl).trans (rotate_eq _)
    · have hnone : publications topic [(s, Label.publish t message)] = [] := by
        simp [publications, ht]
      rw [hnone, List.length_nil, List.rotate_zero]
      exact if_neg fun h => ht h.symm
  | @subscribe c t g hc =>
    exact (if_neg fun h => hkeeps ⟨h.1.symm, h.2.symm⟩).trans (List.rotate_zero _).symm
  | take hc hq => exact (List.rotate_zero _).symm
  | @leave c t g hc =>
    refine (if_neg fun h => hkeeps ?_).trans (List.rotate_zero _).symm
    rw [hc, h.1, h.2]

theorem queues_eq_rotate (h : Lts.Path Step s steps s')
    (hkeeps : Lts.AllMeet (KeepsGroup topic group) steps) :
    s'.queues topic group = (s.queues topic group).rotate (publications topic steps).length := by
  induction h with
  | start => exact (List.rotate_zero _).symm
  | @step s₁ s₂ l steps h hl ih =>
    obtain ⟨hprev, hlast⟩ := Lts.allMeet_append.mp hkeeps
    have happend : publications topic (steps ++ [(s₁, l)]) =
        publications topic steps ++ publications topic [(s₁, l)] := List.filterMap_append ..
    rw [queues_step hlast hl, ih hprev, List.rotate_rotate, happend, List.length_append]

theorem inv_path (hinv : Inv s) (h : Lts.Path Step s steps s') : Inv s' :=
  (h.throughout hinv fun _ _ _ => inv_step).1

/-- A member of the group stays in it. -/
theorem phase_path (hinv : Inv s) (h : Lts.Path Step s steps s')
    (hkeeps : Lts.AllMeet (KeepsGroup topic group) steps) (hc : c ∈ s.queues topic group) :
    s'.phase c = .subscribed topic group := by
  rw [← (inv_path hinv h).mem, queues_eq_rotate h hkeeps]
  exact List.mem_rotate.mpr hc

/-- A consumer has been given the messages of its turns. -/
theorem length_received (hinv : Inv s) (h : Lts.Path Step s steps s')
    (hkeeps : Lts.AllMeet (KeepsGroup topic group) steps) {j : Nat}
    (hj : j < (s.queues topic group).length) :
    (received (s.queues topic group)[j] steps).length =
      Nat.count (fun i => i % (s.queues topic group).length = j) (publications topic steps).length := by
  induction h with
  | start => simp [received, publications]
  | @step s₁ s₂ l steps h hl ih =>
    obtain ⟨hprev, hlast⟩ := Lts.allMeet_append.mp hkeeps
    have hphase := phase_path hinv h hprev (List.getElem_mem hj)
    have hfirst : ∀ t, s₁.first t (s.queues topic group)[j] = true ↔ topic = t ∧
        (publications topic steps).length % (s.queues topic group).length = j := by
      intro t
      rw [first_eq hphase, queues_eq_rotate h hprev, Bool.and_eq_true, decide_eq_true_iff, beq_iff_eq,
        head?_rotate_eq_some_iff (hinv.nodup topic group) hj]
    have hreceived : received (s.queues topic group)[j] (steps ++ [(s₁, l)]) =
        received (s.queues topic group)[j] steps ++ received (s.queues topic group)[j] [(s₁, l)] :=
      List.filterMap_append ..
    have hpublished : publications topic (steps ++ [(s₁, l)]) =
        publications topic steps ++ publications topic [(s₁, l)] := List.filterMap_append ..
    rw [hreceived, hpublished, List.length_append, List.length_append, ih hprev]
    cases l with
    | publish t message =>
      by_cases ht : t = topic
      · subst ht
        have hone : publications t [(s₁, Label.publish t message)] = [⟨s₁.published, message⟩] := by
          simp [publications]
        rw [hone, List.length_singleton, Nat.count_succ]
        congr 1
        by_cases hturn : (publications t steps).length % (s.queues t group).length = j
        · rw [if_pos hturn]
          simp [received, (hfirst t).mpr ⟨rfl, hturn⟩]
        · rw [if_neg hturn]
          have hnot := (not_congr (hfirst t)).mpr fun h => hturn h.2
          simp [received, hnot]
      · have hnone : publications topic [(s₁, Label.publish t message)] = [] := by
          simp [publications, ht]
        have hnot := (not_congr (hfirst t)).mpr fun h => ht h.1.symm
        rw [hnone]
        simp [received, hnot]
    | _ => simp [received, publications]

/-- A consumer receives messages of its topic, in the order of publication. -/
theorem received_sublist (hinv : Inv s) (h : Lts.Path Step s steps s')
    (hkeeps : Lts.AllMeet (KeepsGroup topic group) steps) (hc : c ∈ s.queues topic group) :
    (received c steps).Sublist (publications topic steps) := by
  induction h with
  | start => exact .slnil
  | @step s₁ s₂ l steps h hl ih =>
    obtain ⟨hprev, hlast⟩ := Lts.allMeet_append.mp hkeeps
    have hphase := phase_path hinv h hprev hc
    have hreceived : received c (steps ++ [(s₁, l)]) = received c steps ++ received c [(s₁, l)] :=
      List.filterMap_append ..
    have hpublished : publications topic (steps ++ [(s₁, l)]) =
        publications topic steps ++ publications topic [(s₁, l)] := List.filterMap_append ..
    rw [hreceived, hpublished]
    refine (ih hprev).append ?_
    cases l with
    | publish t message =>
      by_cases hfirst : s₁.first t c = true
      · have ht : topic = t := by
          rw [first_eq hphase, Bool.and_eq_true] at hfirst
          exact of_decide_eq_true hfirst.1
        subst ht
        simp [received, publications, hfirst]
      · simp [received, hfirst]
    | _ => exact .slnil

/-- What is put into a queue is taken from it in the same order. -/
theorem queue_append_received (hinv : Inv s) (h : Lts.Path Step s steps s')
    (hkeeps : Lts.AllMeet (KeepsGroup topic group) steps) (hc : c ∈ s.queues topic group) :
    s.queue c ++ received c steps = taken c steps ++ s'.queue c := by
  induction h with
  | start => simp [received, taken]
  | @step s₁ s₂ l steps h hl ih =>
    obtain ⟨hprev, hlast⟩ := Lts.allMeet_append.mp hkeeps
    have hphase := phase_path hinv h hprev hc
    have hreceived : received c (steps ++ [(s₁, l)]) = received c steps ++ received c [(s₁, l)] :=
      List.filterMap_append ..
    have htaken : taken c (steps ++ [(s₁, l)]) = taken c steps ++ taken c [(s₁, l)] :=
      List.filterMap_append ..
    rw [hreceived, htaken, ← List.append_assoc, ih hprev, List.append_assoc, List.append_assoc]
    congr 1
    cases hl with
    | publish t message =>
      show s₁.queue c ++ _ = [] ++ (if s₁.first t c then s₁.queue c ++ [_] else s₁.queue c)
      by_cases hfirst : s₁.first t c = true
      · simp [received, hfirst]
      · simp [received, hfirst]
    | @subscribe d t g hd =>
      have hdc : c ≠ d := by
        rintro rfl
        rw [hphase] at hd
        cases hd
      show s₁.queue c ++ [] = [] ++ Function.update s₁.queue d [] c
      rw [Function.update_of_ne hdc, List.append_nil, List.nil_append]
    | @take d t g item rest hd hq =>
      show s₁.queue c ++ [] = _ ++ Function.update s₁.queue d rest c
      by_cases hdc : d = c
      · subst hdc
        simp [taken, hq]
      · rw [Function.update_of_ne fun h => hdc h.symm]
        simp [taken, hdc]
    | leave hd =>
      show s₁.queue c ++ [] = [] ++ s₁.queue c
      rw [List.append_nil, List.nil_append]

/-- The consumer gets its share of what is published on the topic, in the order of publication. -/
structure Share (topic group : String) (s : InMemoryTransport ι)
    (steps : List (InMemoryTransport ι × Label ι)) (s' : InMemoryTransport ι) (c : ι) : Prop where
  share :
    (received c steps).length = (publications topic steps).length / (s.queues topic group).length ∨
    (received c steps).length =
      ((publications topic steps).length + (s.queues topic group).length - 1) /
        (s.queues topic group).length
  order : (received c steps).Sublist (publications topic steps)
  queue : s.queue c ++ received c steps = taken c steps ++ s'.queue c

/-- **Fan-out and balance.** In every run, a published message is put into one queue of each group of its
topic; and over a stretch of the run in which nobody joins or leaves a group, each of its consumers is
given an equal share of the messages, rounded up or down, in the order of publication. -/
theorem fan_out_balanced {before : List (InMemoryTransport ι × Label ι)}
    (hbefore : Lts.Path Step init before s) (hsteps : Lts.Path Step s steps s') :
    (∀ topic message, FansOut s topic message) ∧
      ∀ topic group, Lts.AllMeet (KeepsGroup topic group) steps →
        ∀ c ∈ s.queues topic group, Share topic group s steps s' c := by
  have hinv : Inv s := inv_path inv_init hbefore
  refine ⟨fansOut hinv, fun topic group hkeeps c hc => ?_⟩
  obtain ⟨j, hj, rfl⟩ := List.getElem_of_mem hc
  refine ⟨?_, received_sublist hinv hsteps hkeeps hc, queue_append_received hinv hsteps hkeeps hc⟩
  rw [length_received hinv hsteps hkeeps hj]
  exact count_mod_eq_div hj _

/-- Two consumers join a group and three messages are published: the first consumer has its share. -/
theorem fan_out_balanced_pair :
    FansOut pair "t" task ∧
      Share "t" "g" pair
        [(pair, .publish "t" task), (pair.publish "t" task, .publish "t" task),
          ((pair.publish "t" task).publish "t" task, .publish "t" task)]
        (((pair.publish "t" task).publish "t" task).publish "t" task) true := by
  have hpair : Lts.Path Step init
      [(init, Label.subscribe true "t" "g"), (init.subscribe true "t" "g", .subscribe false "t" "g")]
      pair := .step (.step .start (.subscribe "t" "g" rfl)) (.subscribe "t" "g" rfl)
  have hthree := Lts.Path.step (.step (.step .start (Step.publish (s := pair) "t" task))
    (.publish "t" task)) (.publish "t" task)
  have hbalanced := fan_out_balanced hpair hthree
  exact ⟨hbalanced.1 "t" task, hbalanced.2 "t" "g" (by simp [Lts.AllMeet, KeepsGroup]) true (by decide)⟩

end InMemoryTransport

end Aqap.Transport
