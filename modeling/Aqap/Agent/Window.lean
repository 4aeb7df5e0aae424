import Aqap.Agent.Loops

/-!
# The idempotency window

The consume loops of an agent record when they admitted an id, and drop the messages whose id was
admitted less than the TTL ago. The cleanup loop removes the ids whose record is older than the TTL, and
then the oldest ones if there are too many.

* `CleansUp`: what a pass of the cleanup loop leaves (`cleansUp_idempotency_cleanup`).
* `CacheStep`: what a step of the loops does to the cache (`step_cases`).
* `Remembers`: an admitted id that no overflow pass evicted is in the cache for the TTL.
* `idempotency_window`: an id is admitted once in a window shorter than the TTL, unless an overflow pass
  evicts it in between.
-/

namespace Aqap

open Py Aqap.Core Async

/-- What a task of the agent does next: the iteration of a consume loop, or a pass of the cleanup loop. -/
inductive Job where
  | consume (message : Message)
  | cleanup

namespace Agent

variable {agent : Agent} {m : Message} {topic : String} {k : Key} {s s' : AgentState}

/-- What the task `i` runs. -/
def job {ι : Type} (agent : Agent) (topics : ι → String) (i : ι) : Job → AgentCo Bool
  | .consume message => agent.consume_one (topics i) message
  | .cleanup => do
    Co.update agent.idempotency_cleanup
    pure true

/-- The tasks, numbered by `ι`. -/
abbrev Tasks (ι : Type) := Sys ι Job AgentState Request Request.Answer Bool

/-- What may happen in a run of consume and cleanup tasks. -/
abbrev Turn (ι : Type) := Label ι Job Request Request.Answer

/-- No task has a job. -/
def waiting (ι : Type) (s : AgentState) : Tasks ι := ⟨s, fun _ => .idle, []⟩

/-- Elsewhere time passes, and the cache is left alone. -/
structure Elapses (s s' : AgentState) : Prop where
  clock : s.clock ≤ s'.clock
  processed_ids : s'.processed_ids = s.processed_ids

/-- The message gets past the duplicate check, with the id `k`. -/
structure Passes (agent : Agent) (m : Message) (k : Key) (s : AgentState) : Prop where
  running : s.running = true
  not_echo : m.source.eq_str agent.agent_id = false
  key : m.message_id.key = .ok k
  not_seen : agent.seen (s.processed_ids.get? k) s.clock = false

/-- The step admits a message with the id `k` to the validation. -/
def Admits {ι : Type} (agent : Agent) (k : Key) (e : Tasks ι × Turn ι) : Prop :=
  ∃ i m, e.2 = .deliver i (.consume m) ∧ agent.Passes m k e.1.shared

/-! ## A pass of the cleanup loop -/

/-- The records that are not older than the TTL. -/
def unexpired (agent : Agent) (s : AgentState) : Dict Key Int :=
  s.processed_ids.filter fun _ ts => s.clock - agent.idempotency_ttl ≤ ts

/-- What a pass evicts because there are too many records. -/
def overflow (agent : Agent) (s : AgentState) : List (Key × Int) :=
  if agent.idempotency_max_size < (agent.unexpired s).size then
    let sorted_ids := (agent.unexpired s).items.mergeSort fun a b => a.2 ≤ b.2
    sorted_ids.take (sorted_ids.length - agent.idempotency_max_size / 2)
  else []

/-- The step is a pass that evicts the id `k` because there are too many records. -/
def Evicts {ι : Type} (agent : Agent) (k : Key) (S : Tasks ι) (l : Turn ι) : Prop :=
  ∃ i, l = .deliver i .cleanup ∧ k ∈ (agent.overflow S.shared).map Prod.fst

/-- What a pass leaves: no record is older than the TTL, they are not too many, and none that is gone is
later than one that is left. -/
structure CleansUp (agent : Agent) (s s' : AgentState) : Prop where
  expired : ∀ k ts, s'.processed_ids.get? k = some ts → s.clock - ts ≤ agent.idempotency_ttl
  size : s'.processed_ids.size ≤ agent.idempotency_max_size
  oldest : ∀ k ts k' ts', s.processed_ids.get? k = some ts → s'.processed_ids.get? k = none →
    s'.processed_ids.get? k' = some ts' → ts ≤ ts'

theorem idempotency_cleanup_eq (agent : Agent) (s : AgentState) :
    agent.idempotency_cleanup s =
      { s with
        processed_ids := (agent.unexpired s).filter fun id _ =>
          !((agent.overflow s).map Prod.fst).contains id } := by
  unfold idempotency_cleanup overflow
  by_cases hsize : agent.idempotency_max_size < (agent.unexpired s).size
  · rw [if_pos hsize]
    exact if_pos hsize
  · rw [if_neg hsize]
    refine (if_neg hsize).trans ?_
    simp [Dict.filter, unexpired]

theorem get?_unexpired {ts : Int} : (agent.unexpired s).get? k = some ts ↔
    s.processed_ids.get? k = some ts ∧ s.clock - ts ≤ agent.idempotency_ttl := by
  rw [unexpired, Dict.get?_filter, Option.filter_eq_some_iff, decide_eq_true_eq]
  refine and_congr_right fun _ => ?_
  constructor <;> intro h <;> omega

/-- A record is left if it is not too old and not evicted. -/
theorem get?_cleanup {ts : Int} : (agent.idempotency_cleanup s).processed_ids.get? k = some ts ↔
    (agent.unexpired s).get? k = some ts ∧ k ∉ (agent.overflow s).map Prod.fst := by
  rw [idempotency_cleanup_eq]
  show ((agent.unexpired s).filter _).get? k = some ts ↔ _
  rw [Dict.get?_filter, Option.filter_eq_some_iff]
  simp

/-- The records in the order in which they are evicted. -/
theorem sorted_ids (d : Dict Key Int) :
    (d.items.mergeSort fun a b => a.2 ≤ b.2).Pairwise fun a b => a.2 ≤ b.2 := by
  have htrans : ∀ a b c : Key × Int, decide (a.2 ≤ b.2) = true → decide (b.2 ≤ c.2) = true →
      decide (a.2 ≤ c.2) = true := by
    simp only [decide_eq_true_eq]
    omega
  have htotal : ∀ a b : Key × Int, (decide (a.2 ≤ b.2) || decide (b.2 ≤ a.2)) = true := by
    simp only [Bool.or_eq_true, decide_eq_true_eq]
    omega
  simpa using List.pairwise_mergeSort htrans htotal d.items

/-- What is evicted was recorded, and no later than what is left. -/
theorem overflow_le {e : Key × Int} {ts : Int} (he : e ∈ agent.overflow s)
    (hk : (agent.unexpired s).get? k = some ts) (hleft : k ∉ (agent.overflow s).map Prod.fst) :
    (agent.unexpired s).get? e.1 = some e.2 ∧ e.2 ≤ ts := by
  unfold overflow at he hleft
  split at he
  · rename_i hsize
    rw [if_pos hsize] at hleft
    have hmem : ∀ e, e ∈ (agent.unexpired s).items.mergeSort (fun a b => a.2 ≤ b.2) ↔
        (agent.unexpired s).get? e.1 = some e.2 := by
      intro e
      rw [List.mem_mergeSort]
      exact Dict.mem_items_iff
    have hsorted := sorted_ids (agent.unexpired s)
    have hlast := (hmem (k, ts)).mpr hk
    refine ⟨(hmem e).mp (List.mem_of_mem_take he), ?_⟩
    rw [← List.take_append_drop _ (List.mergeSort _ _), List.pairwise_append] at hsorted
    rw [← List.take_append_drop _ (List.mergeSort _ _), List.mem_append] at hlast
    rcases hlast with htaken | hdropped
    · exact absurd (List.mem_map_of_mem htaken) hleft
    · exact hsorted.2.2 e he (k, ts) hdropped
  · cases he

/-- If nothing of the first `n` elements is kept, at most the others are. -/
theorem length_filter_le_drop {α : Type} {l : List α} {p : α → Bool} {n : Nat}
    (h : ∀ a ∈ l.take n, p a = false) : (l.filter p).length ≤ l.length - n := by
  calc (l.filter p).length = ((l.take n ++ l.drop n).filter p).length := by rw [List.take_append_drop]
    _ = ((l.drop n).filter p).length := by
      rw [List.filter_append, List.filter_eq_nil_iff.mpr (by simpa using h), List.nil_append]
    _ ≤ l.length - n := (List.length_filter_le p _).trans (List.length_drop ..).le

theorem size_cleanup (agent : Agent) (s : AgentState) :
    (agent.idempotency_cleanup s).processed_ids.size ≤ agent.idempotency_max_size := by
  rw [idempotency_cleanup_eq]
  show (List.filter _ (agent.unexpired s).items).length ≤ _
  unfold overflow
  split
  · rename_i hsize
    have hperm := List.mergeSort_perm (agent.unexpired s).items fun a b => decide (a.2 ≤ b.2)
    rw [← (hperm.filter _).length_eq]
    generalize List.mergeSort _ _ = sorted
    refine (length_filter_le_drop (n := sorted.length - agent.idempotency_max_size / 2) ?_).trans ?_
    · intro e he
      rw [Bool.not_eq_false', List.contains_iff_mem]
      exact List.mem_map_of_mem he
    · omega
  · rename_i hsize
    exact (List.length_filter_le _ _).trans (Nat.le_of_not_lt hsize)

theorem cleansUp_idempotency_cleanup (agent : Agent) (s : AgentState) :
    agent.CleansUp s (agent.idempotency_cleanup s) := by
  refine ⟨fun k ts h => (get?_unexpired.mp (get?_cleanup.mp h).1).2, size_cleanup agent s, ?_⟩
  intro k ts k' ts' hbefore hgone hleft
  obtain ⟨hyoung', hkept'⟩ := get?_cleanup.mp hleft
  by_cases hyoung : s.clock - ts ≤ agent.idempotency_ttl
  · have hk := get?_unexpired.mpr ⟨hbefore, hyoung⟩
    have hout : k ∈ (agent.overflow s).map Prod.fst := by
      by_contra hout
      cases (get?_cleanup.mpr ⟨hk, hout⟩).symm.trans hgone
    obtain ⟨e, he, rfl⟩ := List.mem_map.mp hout
    obtain ⟨hts, hle⟩ := overflow_le he hyoung' hkept'
    cases hk.symm.trans hts
    exact hle
  · have := (get?_unexpired.mp hyoung').2
    omega

/-! ## A step of the tasks -/

/-- The cache and the clock are left alone. -/
structure KeepsCache (s s' : AgentState) : Prop where
  processed_ids : s'.processed_ids = s.processed_ids
  clock : s'.clock = s.clock

theorem KeepsCache.refl (s : AgentState) : KeepsCache s s := ⟨rfl, rfl⟩

theorem KeepsCache.trans (s₁ s₂ s₃ : AgentState) (h₁ : KeepsCache s₁ s₂) (h₂ : KeepsCache s₂ s₃) :
    KeepsCache s₁ s₃ :=
  ⟨h₂.processed_ids.trans h₁.processed_ids, h₂.clock.trans h₁.clock⟩

/-- The coroutine leaves the cache alone. -/
abbrev LeavesCache (c : AgentCo Bool) : Prop := Co.Guarded (fun _ => True) KeepsCache (fun _ => True) c

/-- After the id was recorded, an iteration leaves the cache alone. -/
theorem leavesCache_check : LeavesCache (agent.check topic m) := by
  refine guarded_check ⟨?_, ?_, ?_⟩ (fun _ _ => trivial) fun _ _ _ _ _ _ => trivial
  all_goals intros; exact ⟨trivial, rfl, rfl⟩

theorem settle_deduplicate (hk : m.message_id.key = .ok k) : (agent.deduplicate topic m).settle s =
    (if agent.seen (s.processed_ids.get? k) s.clock then (pure true : AgentCo Bool) else do
      Co.update fun s₁ => { s₁ with processed_ids := s₁.processed_ids.set k s.clock }
      agent.check topic m).settle s := by
  rw [deduplicate, hk]
  rfl

/-- An admitted message is recorded, and then checked. -/
theorem settle_admitted (h : agent.Passes m k s) : (agent.consume_one topic m).settle s =
    (agent.check topic m).settle (agent.admitted_state topic m k s) := by
  have hseen : agent.seen ((agent.receive topic m s).processed_ids.get? k)
      (agent.receive topic m s).clock = false := h.not_seen
  rw [settle_running h.running, after_receive, h.not_echo, if_neg Bool.false_ne_true,
    settle_deduplicate h.key, hseen, if_neg Bool.false_ne_true]
  rfl

/-- The iteration of a message that is not admitted ends. -/
theorem settle_dropped (agent : Agent) (topic : String) (h : ∀ k, ¬ agent.Passes m k s) :
    KeepsCache s ((agent.consume_one topic m).settle s).1 ∧
      LeavesCache ((agent.consume_one topic m).settle s).2 := by
  by_cases hrun : s.running = true
  · rw [settle_running hrun, after_receive]
    by_cases hecho : m.source.eq_str agent.agent_id = true
    · rw [if_pos hecho]
      exact ⟨⟨rfl, rfl⟩, .pure _⟩
    rw [if_neg hecho]
    cases hk : m.message_id.key with
    | error text =>
      rw [deduplicate, hk]
      exact ⟨⟨rfl, rfl⟩, fun _ _ => trivial⟩
    | ok k =>
      have hseen : agent.seen ((agent.receive topic m s).processed_ids.get? k)
          (agent.receive topic m s).clock = true := by
        by_contra hnot
        have hnot : agent.seen (s.processed_ids.get? k) s.clock = false := Bool.eq_false_iff.mpr hnot
        exact h k ⟨hrun, by simpa using hecho, hk, hnot⟩
      rw [settle_deduplicate hk, hseen, if_pos rfl]
      exact ⟨⟨rfl, rfl⟩, .pure _⟩
  · rw [settle_stopped (by simpa using hrun)]
    exact ⟨.refl s, .pure _⟩

/-- An iteration records the id of a message that it admits, and else it leaves the cache alone; what is
left of it does so, too. -/
theorem settle_consume_one (agent : Agent) (topic : String) (m : Message) (s : AgentState) :
    ((∃ k, agent.Passes m k s ∧
        ((agent.consume_one topic m).settle s).1.processed_ids = s.processed_ids.set k s.clock ∧
        ((agent.consume_one topic m).settle s).1.clock = s.clock) ∨
      (∀ k, ¬ agent.Passes m k s) ∧ KeepsCache s ((agent.consume_one topic m).settle s).1) ∧
    LeavesCache ((agent.consume_one topic m).settle s).2 := by
  by_cases hpasses : ∃ k, agent.Passes m k s
  · obtain ⟨k, hpasses⟩ := hpasses
    have hcheck : LeavesCache (agent.check topic m) := leavesCache_check
    obtain ⟨-, hkeeps, hleaves⟩ := (hcheck (agent.admitted_state topic m k s) trivial).settle
      KeepsCache.refl KeepsCache.trans trivial
    rw [settle_admitted hpasses]
    exact ⟨.inl ⟨k, hpasses, hkeeps.processed_ids, hkeeps.clock⟩, hleaves⟩
  · push Not at hpasses
    obtain ⟨hkeeps, hleaves⟩ := settle_dropped agent topic hpasses
    exact ⟨.inr ⟨hpasses, hkeeps⟩, hleaves⟩

/-! ## The runs of the tasks -/

section

variable {ι : Type} {topics : ι → String} {S S' : Tasks ι} {l : Turn ι}

/-- What is left of the iterations leaves the cache alone. -/
def Quiet (S : Tasks ι) : Prop := ∀ i job start c, S.workers i = .busy job start c → LeavesCache c

/-- What a step does to the cache. -/
inductive CacheStep (agent : Agent) (S : Tasks ι) (l : Turn ι) (S' : Tasks ι) : Prop
  | admits {i : ι} {m : Message} {k : Key} : l = .deliver i (.consume m) → agent.Passes m k S.shared →
      S'.shared.processed_ids = S.shared.processed_ids.set k S.shared.clock →
      S'.shared.clock = S.shared.clock → CacheStep agent S l S'
  | cleans {i : ι} : l = .deliver i .cleanup → S'.shared = agent.idempotency_cleanup S.shared →
      CacheStep agent S l S'
  | keeps : (∀ k, ¬ agent.Admits k (S, l)) → S'.shared.processed_ids = S.shared.processed_ids →
      S.shared.clock ≤ S'.shared.clock → CacheStep agent S l S'

/-- The id `k` is in the cache as long as its admission by the step `e` is less than the TTL ago. -/
def Remembers (agent : Agent) (k : Key) (e : Tasks ι × Turn ι) (S : Tasks ι) : Prop :=
  e.1.shared.clock ≤ S.shared.clock ∧
    (S.shared.clock - e.1.shared.clock < agent.idempotency_ttl →
      ∃ ts, S.shared.processed_ids.get? k = some ts ∧ e.1.shared.clock ≤ ts)

theorem CacheStep.remembers (h : agent.CacheStep S l S') (hadmits : agent.Admits k (S, l)) :
    agent.Remembers k (S, l) S' := by
  obtain ⟨i, m, rfl, hpasses⟩ := hadmits
  cases h with
  | @admits i' m' k' heq hpasses' hids hclock =>
    cases heq
    cases hpasses.key.symm.trans hpasses'.key
    refine ⟨Int.le_of_eq hclock.symm, fun _ => ⟨S.shared.clock, ?_, Int.le_refl _⟩⟩
    rw [hids, Dict.get?_set, if_pos rfl]
  | cleans heq => cases heq
  | keeps hnone => exact absurd ⟨i, m, rfl, hpasses⟩ (hnone k)

/-- Only an overflow pass makes the agent forget an id before the TTL is over. -/
theorem Remembers.step {e : Tasks ι × Turn ι} (h : agent.CacheStep S l S')
    (hkept : ¬ agent.Evicts k S l) (hrem : agent.Remembers k e S) : agent.Remembers k e S' := by
  obtain ⟨hle, hrem⟩ := hrem
  cases h with
  | @admits i m k' heq hpasses hids hclock =>
    refine ⟨hclock ▸ hle, fun hwithin => ?_⟩
    rw [hclock] at hwithin
    rw [hids, Dict.get?_set]
    split
    · exact ⟨_, rfl, hle⟩
    · exact hrem hwithin
  | @cleans i heq hclean =>
    have hclock : (agent.idempotency_cleanup S.shared).clock = S.shared.clock := by
      rw [idempotency_cleanup_eq]
    unfold Remembers
    rw [hclean, hclock]
    refine ⟨hle, fun hwithin => ?_⟩
    obtain ⟨ts, hts, hlater⟩ := hrem hwithin
    have hyoung : S.shared.clock - ts ≤ agent.idempotency_ttl := by omega
    have hout : k ∉ (agent.overflow S.shared).map Prod.fst := fun hmem => hkept ⟨i, heq, hmem⟩
    exact ⟨ts, get?_cleanup.mpr ⟨get?_unexpired.mpr ⟨hts, hyoung⟩, hout⟩, hlater⟩
  | keeps hnone hids hclock =>
    refine ⟨Int.le_trans hle hclock, fun hwithin => ?_⟩
    rw [hids]
    exact hrem (by omega)

/-- Two steps of the run that admit the same id are the TTL apart, or an overflow pass between them
evicted the id. -/
def OncePerWindow (agent : Agent) (steps : List (Tasks ι × Turn ι)) : Prop :=
  ∀ k pre e mid e' post, steps = pre ++ e :: (mid ++ e' :: post) → agent.Admits k e → agent.Admits k e' →
    e'.1.shared.clock - e.1.shared.clock < agent.idempotency_ttl → ∃ ev ∈ mid, agent.Evicts k ev.1 ev.2

variable [DecidableEq ι]

/-- A task that goes on leaves what is left of the others. -/
theorem Quiet.proceed {i : ι} {job : Job} {start : AgentState} {c : AgentCo Bool} (hq : Quiet S)
    (hc : LeavesCache (c.settle S.shared).2) : Quiet (Sys.proceed goes_on S i job start c) := by
  intro j job' start' c' hw
  rcases Sys.busy_proceed hw with ⟨-, -, -, rfl⟩ | ⟨-, hw⟩
  · exact hc
  · exact hq j job' start' c' hw

/-- **A step of the tasks** admits a message, cleans up the cache, or leaves it alone. -/
theorem step_cases (hq : Quiet S)
    (hstep : Sys.Step goes_on (agent.job topics) Elapses S l S') :
    Quiet S' ∧ agent.CacheStep S l S' := by
  cases hstep with
  | @deliver i job hidle =>
    cases job with
    | cleanup => exact ⟨hq.proceed (.pure _), .cleans rfl rfl⟩
    | consume m =>
      obtain ⟨hcache, hleaves⟩ := settle_consume_one agent (topics i) m S.shared
      refine ⟨hq.proceed hleaves, ?_⟩
      rcases hcache with ⟨k, hpasses, hids, hclock⟩ | ⟨hnone, hkeeps⟩
      · exact .admits rfl hpasses hids hclock
      · refine .keeps ?_ hkeeps.processed_ids (Int.le_of_eq hkeeps.clock.symm)
        rintro k ⟨i', m', heq, hpasses⟩
        cases heq
        exact hnone k hpasses
  | @resume i job start q k answer hbusy =>
    have hleaves : LeavesCache (k (answer q)) := fun s hs => (hq i job start _ hbusy s hs).2 (answer q) s hs
    obtain ⟨-, hkeeps, hrest⟩ :=
      (hleaves S.shared trivial).settle KeepsCache.refl KeepsCache.trans trivial
    refine ⟨hq.proceed hrest, .keeps ?_ hkeeps.processed_ids (Int.le_of_eq hkeeps.clock.symm)⟩
    rintro k' ⟨i', m', heq, -⟩
    cases heq
  | @close i hidle =>
    refine ⟨fun j job start c hw => ?_, .keeps ?_ rfl (Int.le_refl _)⟩
    · exact hq j job start c (Sys.busy_of_ended hw)
    · rintro k' ⟨i', m', heq, -⟩
      cases heq
  | env hE =>
    refine ⟨hq, .keeps ?_ hE.processed_ids hE.clock⟩
    rintro k' ⟨i', m', heq, -⟩
    cases heq

/-- **The idempotency window.** However the tasks take turns, an id is admitted once in a window that is
shorter than the TTL, unless an overflow pass evicts it; and every pass of the cleanup loop leaves a cache
without old records, that is not too large, and from which the oldest ones are gone. -/
theorem idempotency_window {s₀ : AgentState} {steps : List (Tasks ι × Turn ι)}
    (h : Sys.Path goes_on (agent.job topics) Elapses (waiting ι s₀) steps S) :
    agent.OncePerWindow steps ∧
      ∀ e ∈ steps, ∀ i S', e.2 = .deliver i .cleanup →
        Sys.Step goes_on (agent.job topics) Elapses e.1 e.2 S' →
        agent.CleansUp e.1.shared S'.shared := by
  constructor
  · intro k pre e mid e' post hsteps he he' hwithin
    by_contra hnone
    push Not at hnone
    have hquiet : Quiet (waiting ι s₀) := by
      rintro i job start c ⟨⟩
    have hrem : agent.Remembers k e e'.1 := by
      have hpath := h.lts
      rw [hsteps, ← List.cons_append, ← List.append_assoc] at hpath
      refine hpath.before.since hquiet (fun S l S' hq hstep => (step_cases hq hstep).1) ?_ ?_ he hnone
      · exact fun S l S' hq hstep hadmits => (step_cases hq hstep).2.remembers hadmits
      · exact fun e S l S' hq hstep hkept hrem => hrem.step (step_cases hq hstep).2 hkept
    obtain ⟨i, m, -, hpasses⟩ := he'
    obtain ⟨ts, hts, hlater⟩ := hrem.2 hwithin
    have hnot := hpasses.not_seen
    rw [hts, seen, decide_eq_false_iff_not] at hnot
    omega
  · rintro ⟨S, l⟩ - i S' rfl hstep
    cases hstep
    exact cleansUp_idempotency_cleanup agent S.shared

/-- The task comes to one consume loop, and again to another one, which then cleans up the cache. -/
theorem idempotency_window_twice :
    let turns : List (Turn Bool) :=
      [.deliver false (.consume sample_task), .deliver true (.consume sample_task), .deliver true .cleanup]
    ∃ steps : List (Tasks Bool × Turn Bool), steps.map Prod.snd = turns ∧
      (sample_agent 3).OncePerWindow steps ∧
      ∀ e ∈ steps, ∀ i S', e.2 = .deliver i .cleanup →
        Sys.Step goes_on ((sample_agent 3).job two_topics) Elapses e.1 e.2 S' →
        (sample_agent 3).CleansUp e.1.shared S'.shared := by
  intro turns
  have hstart : Sys.Path goes_on ((sample_agent 3).job two_topics) Elapses
      (waiting Bool (AgentState.started 0)) [] _ := .start
  have hfirst := hstart.step (.deliver (i := false) (m := .consume sample_task) rfl)
  have hsecond := hfirst.step (.deliver (i := true) (m := .consume sample_task) rfl)
  have hcleaned := hsecond.step (.deliver (i := true) (m := .cleanup) rfl)
  exact ⟨_, rfl, idempotency_window hcleaned⟩

end

end Agent

end Aqap
