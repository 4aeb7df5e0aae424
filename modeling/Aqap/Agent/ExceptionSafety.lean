import Aqap.Agent.Lifecycle
import Aqap.Async.Lts

/-!
# Exceptions in `start` and `stop`

One agent, whose transport and hooks may raise at every await of `start` and `stop`. The state has both flags,
`_tasks`, and all tasks that were ever created. The other tasks of the event loop may end at any await; the
model has of `asyncio.wait` and `asyncio.gather` that the tasks that they do not report as pending have
ended.

* `start_cases`, `stop_cases`: the ways through the two methods.
* `lifecycle_safe_iff`: in which runs every call leaves the agent as it should.
* `half_started`: a start that raised, and leaves the agent running.
-/

namespace Aqap.Startup

open Py Aqap.Core Async Async.Lts

/-- What a task of an agent runs. -/
inductive TaskBody where
  | heartbeat_loop
  | idempotency_cleanup_loop
  | consume_loop (topic : String)
  deriving DecidableEq

/-- A task that `start` creates. -/
structure AgentTask where
  body : TaskBody
  ended : Bool
  deriving DecidableEq

/-- The state of an agent, as far as `start` and `stop` read or write it. -/
structure LifeState where
  running : Bool
  draining : Bool
  /-- `_tasks`, by the places in `created`. -/
  tasks : List Nat
  /-- All tasks that the agent created. -/
  created : List AgentTask

/-- Before the first call. -/
def init : LifeState := ⟨false, false, [], []⟩

/-- What the two methods await. -/
inductive LifeRequest where
  | connect
  | on_start
  /-- `_transport.publish(topic, …)` -/
  | publish (topic : String) (announcement : Announcement)
  /-- `asyncio.wait(tasks, timeout=5)` -/
  | wait (tasks : List Nat)
  /-- `asyncio.gather(*tasks, return_exceptions=True)`, after they were cancelled -/
  | gather (tasks : List Nat)
  | on_stop
  | disconnect

/-- What an await returns; `asyncio.wait` returns the pending tasks. -/
@[reducible] def LifeRequest.Answer : LifeRequest → Type
  | wait _ => List Nat
  | _ => Unit

abbrev LifeCo (α : Type) := Co LifeState LifeRequest LifeRequest.Answer α

abbrev LifeEvent := Event LifeState LifeRequest LifeRequest.Answer

namespace LifeState

/-- `self._tasks.append(asyncio.create_task(…))` -/
def create_task (s : LifeState) (body : TaskBody) : LifeState :=
  { s with tasks := s.tasks ++ [s.created.length], created := s.created ++ [⟨body, false⟩] }

/-- The tasks that `start` creates. -/
def create_tasks (s : LifeState) (topics : List String) : LifeState :=
  topics.foldl (fun s topic => s.create_task (.consume_loop topic))
    ((s.create_task .heartbeat_loop).create_task .idempotency_cleanup_loop)

/-- `self._running = True` -/
def set_running (s : LifeState) : LifeState := { s with running := true }

/-- `self._running = False` and `self._draining = True` -/
def drain (s : LifeState) : LifeState := { s with running := false, draining := true }

/-- `self._tasks.clear()` and `self._draining = False` -/
def drained (s : LifeState) : LifeState := { s with tasks := [], draining := false }

end LifeState

/-! ## The calls -/

section

variable (p : Profile)

/-- `start`, of an agent that does not run. -/
def launch : LifeCo Unit := do
  Co.update LifeState.set_running
  Co.call LifeRequest.connect
  Co.call LifeRequest.on_start
  Co.call (LifeRequest.publish Topic.SYSTEM_EVENTS (.register p.agent_type))
  Co.update fun s => s.create_tasks p.subscribed

/-- `start`: the flag is set before the awaits, and not cleared when one of them raises. -/
def start : LifeCo Unit := do
  let running ← Co.read LifeState.running
  if running then pure () else launch p

/-- `await asyncio.wait(list(self._tasks), …)` -/
def wait_tasks (tasks : List Nat) : LifeCo (List Nat) :=
  if tasks = [] then Co.raise (.error "Set of Tasks/Futures is empty.")
  else Co.call (LifeRequest.wait tasks)

/-- `await asyncio.gather(*pending_, …)`, if there are pending tasks. -/
def gather_pending (pending : List Nat) : LifeCo Unit :=
  if pending = [] then pure () else Co.call (LifeRequest.gather pending)

/-- `stop`: what is awaited comes first, the list of tasks is cleared after it. -/
def stop : LifeCo Unit := do
  Co.update LifeState.drain
  Co.call (LifeRequest.publish Topic.SYSTEM_EVENTS .shutdown)
  let tasks ← Co.read LifeState.tasks
  let pending ← wait_tasks tasks
  gather_pending pending
  Co.update LifeState.drained
  Co.call LifeRequest.on_stop
  Co.call LifeRequest.disconnect

end

/-! ## What happens meanwhile -/

/-- What the other tasks may do: tasks of the agent end. -/
structure Advances (s s' : LifeState) : Prop where
  running : s'.running = s.running
  draining : s'.draining = s.draining
  tasks : s'.tasks = s.tasks
  length : s'.created.length = s.created.length
  created : ∀ (i : Nat) (t' : AgentTask), s'.created[i]? = some t' →
    ∃ t, s.created[i]? = some t ∧ t'.body = t.body ∧ (t.ended = true → t'.ended = true)

/-- The task at a place has ended. -/
def LifeState.EndedAt (s : LifeState) (i : Nat) : Prop := ∃ t, s.created[i]? = some t ∧ t.ended = true

/-- What `asyncio` promises of its answers. -/
def Obeys : LifeEvent → Prop
  | ⟨.wait tasks, ans, s⟩ => ∃ pending, ans = .ok pending ∧ ∀ i ∈ tasks, i ∉ pending → s.EndedAt i
  | ⟨.gather tasks, ans, s⟩ => ans = .ok () ∧ ∀ i ∈ tasks, s.EndedAt i
  | _ => True

/-- The await did not raise. -/
def Returned (ev : LifeEvent) : Prop := ∃ a, ev.ans = .ok a

/-- What happens: a call of `start` or `stop` with its awaits, its outcome and the state after it, or tasks
that end between two calls. -/
inductive Label where
  | start (events : List LifeEvent) (result : Except Exc Unit) (after : LifeState)
  | stop (events : List LifeEvent) (result : Except Exc Unit) (after : LifeState)
  | tasks_end

/-- A call of one of the two methods, or the end of a task. -/
inductive Step (p : Profile) : LifeState → Label → LifeState → Prop
  | start {s s' : LifeState} {tr : List LifeEvent} {r : Except Exc Unit} :
      Co.Run Advances (start p) s tr s' r → (∀ ev ∈ tr, Obeys ev) → Step p s (.start tr r s') s'
  | stop {s s' : LifeState} {tr : List LifeEvent} {r : Except Exc Unit} :
      Co.Run Advances stop s tr s' r → (∀ ev ∈ tr, Obeys ev) → Step p s (.stop tr r s') s'
  | tasks_end {s s' : LifeState} : Advances s s' → Step p s .tasks_end s'

/-! ## What is to hold -/

/-- A start in which nothing raises makes the agent run, with new tasks. -/
def Startable (p : Profile) (s : LifeState) : Prop :=
  ∀ tr s' r, Co.Run Advances (start p) s tr s' r → (∀ ev ∈ tr, Returned ev) →
    r = .ok () ∧ s'.running = true ∧ s'.created.length = s.created.length + 2 + p.subscribed.length

/-- A start that raises leaves an agent that does not run and can be started; after a stop the agent does not
run or drain, and its tasks have ended. -/
def Safe (p : Profile) (_ : LifeState) : Label → Prop
  | .start _ (.error _) after => after.running = false ∧ Startable p after
  | .start _ (.ok _) _ => True
  | .stop _ _ after => after.running = false ∧ after.draining = false ∧ ∀ t ∈ after.created, t.ended = true
  | .tasks_end => True

/-- Nothing raises in a start; in a stop the agent has tasks, and the announcement does not raise. -/
def Undisturbed (s : LifeState) : Label → Prop
  | .start tr _ _ => ∀ ev ∈ tr, Returned ev
  | .stop tr _ _ => s.tasks ≠ [] ∧ ∀ ev ∈ tr, ev.req = .publish Topic.SYSTEM_EVENTS .shutdown → Returned ev
  | .tasks_end => True

/-! ## The tasks -/

variable {p : Profile} {s s' s'' : LifeState} {tr : List LifeEvent} {r : Except Exc Unit}

theorem Advances.refl (s : LifeState) : Advances s s :=
  ⟨rfl, rfl, rfl, rfl, fun _ t h => ⟨t, h, rfl, id⟩⟩

theorem Advances.trans (h : Advances s s') (h' : Advances s' s'') : Advances s s'' where
  running := h'.running.trans h.running
  draining := h'.draining.trans h.draining
  tasks := h'.tasks.trans h.tasks
  length := h'.length.trans h.length
  created := by
    intro i t'' ht''
    obtain ⟨t', ht', hbody', hended'⟩ := h'.created i t'' ht''
    obtain ⟨t, ht, hbody, hended⟩ := h.created i t' ht'
    exact ⟨t, ht, hbody'.trans hbody, fun he => hended' (hended he)⟩

/-- A task that has ended stays so. -/
theorem Advances.endedAt (h : Advances s s') {i : Nat} (hi : s.EndedAt i) : s'.EndedAt i := by
  obtain ⟨t, ht, hended⟩ := hi
  have hlt : i < s'.created.length := by
    rw [h.length]
    exact (List.getElem?_eq_some_iff.mp ht).1
  obtain ⟨t₀, ht₀, -, hended₀⟩ := h.created i _ (List.getElem?_eq_getElem hlt)
  obtain rfl := Option.some.inj (ht.symm.trans ht₀)
  exact ⟨_, List.getElem?_eq_getElem hlt, hended₀ hended⟩

/-- The tasks that have not ended are those of `_tasks`. -/
def Tracked (s : LifeState) : Prop := ∀ i, i < s.created.length → i ∈ s.tasks ∨ s.EndedAt i

theorem Tracked.advances (h : Tracked s) (hadv : Advances s s') : Tracked s' := by
  intro i hi
  rw [hadv.length] at hi
  rw [hadv.tasks]
  exact (h i hi).imp_right hadv.endedAt

theorem Tracked.create_task (h : Tracked s) (body : TaskBody) : Tracked (s.create_task body) := by
  intro i hi
  unfold LifeState.create_task LifeState.EndedAt at *
  rw [List.length_append, List.length_singleton] at hi
  rw [List.mem_append, List.mem_singleton]
  by_cases hnew : i = s.created.length
  · exact .inl (.inr hnew)
  · obtain hmem | ⟨t, ht, hended⟩ := h i (by omega)
    · exact .inl (.inl hmem)
    · refine .inr ⟨t, ?_, hended⟩
      rw [List.getElem?_append_left (by omega)]
      exact ht

theorem Tracked.create_tasks (h : Tracked s) (topics : List String) : Tracked (s.create_tasks topics) := by
  unfold LifeState.create_tasks
  generalize hs : (s.create_task .heartbeat_loop).create_task .idempotency_cleanup_loop = s₁
  have h₁ : Tracked s₁ := hs ▸ (h.create_task _).create_task _
  clear hs
  induction topics generalizing s₁ with
  | nil => exact h₁
  | cons topic topics ih => exact ih _ (h₁.create_task _)

theorem create_tasks_spec (s : LifeState) (topics : List String) :
    (s.create_tasks topics).running = s.running ∧
      (s.create_tasks topics).created.length = s.created.length + 2 + topics.length := by
  unfold LifeState.create_tasks
  have hfold (s₁ : LifeState) :
      (topics.foldl (fun s topic => s.create_task (.consume_loop topic)) s₁).running = s₁.running ∧
        (topics.foldl (fun s topic => s.create_task (.consume_loop topic)) s₁).created.length =
          s₁.created.length + topics.length := by
    induction topics generalizing s₁ with
    | nil => exact ⟨rfl, rfl⟩
    | cons topic topics ih =>
      obtain ⟨hrunning, hlength⟩ := ih (s₁.create_task (.consume_loop topic))
      refine ⟨hrunning, ?_⟩
      rw [List.foldl_cons, hlength]
      simp only [LifeState.create_task, List.length_append, List.length_cons, List.length_nil]
      omega
  obtain ⟨hrunning, hlength⟩ := hfold ((s.create_task .heartbeat_loop).create_task .idempotency_cleanup_loop)
  refine ⟨hrunning, ?_⟩
  rw [hlength]
  simp [LifeState.create_task]

/-! ## The ways through the calls -/

/-- A start does nothing, it raises where an await raises, or it creates the tasks. -/
theorem start_cases (h : Co.Run Advances (start p) s tr s' r) :
    (s.running = true ∧ tr = [] ∧ s' = s ∧ r = .ok ()) ∨
    (s.running = false ∧ Advances s.set_running s' ∧ (∃ ev ∈ tr, ¬ Returned ev) ∧ ∃ e, r = .error e) ∨
    (s.running = false ∧ (∃ s₁, Advances s.set_running s₁ ∧ s' = s₁.create_tasks p.subscribed) ∧
      (∀ ev ∈ tr, Returned ev) ∧ r = .ok ()) := by
  rw [start, Co.run_read_bind] at h
  by_cases hrunning : s.running = true
  · rw [if_pos hrunning] at h
    exact .inl ⟨hrunning, h⟩
  · right
    rw [Bool.not_eq_true] at hrunning
    rw [if_neg (by simp [hrunning]), launch, Co.run_update_bind, Co.run_call_bind] at h
    have hraised (q : LifeRequest) (e : Exc) (s₁ : LifeState) : ¬ Returned ⟨q, .error e, s₁⟩ := by
      rintro ⟨a, ha⟩
      cases ha
    obtain ⟨ans, s₁, tr₁, rfl, hadv, h⟩ := h
    obtain ⟨e, rfl, rfl, rfl, rfl⟩ | ⟨_, rfl, h⟩ := h
    · exact .inl ⟨hrunning, hadv, ⟨_, List.mem_cons_self, hraised _ e _⟩, e, rfl⟩
    rw [Co.run_call_bind] at h
    obtain ⟨ans, s₂, tr₂, rfl, hadv₂, h⟩ := h
    obtain ⟨e, rfl, rfl, rfl, rfl⟩ | ⟨_, rfl, h⟩ := h
    · refine .inl ⟨hrunning, hadv.trans hadv₂, ⟨_, ?_, hraised .on_start e s'⟩, e, rfl⟩
      exact List.mem_cons_of_mem _ List.mem_cons_self
    rw [Co.run_call_bind] at h
    obtain ⟨ans, s₃, tr₃, rfl, hadv₃, h⟩ := h
    obtain ⟨e, rfl, rfl, rfl, rfl⟩ | ⟨_, rfl, h⟩ := h
    · refine .inl ⟨hrunning, (hadv.trans hadv₂).trans hadv₃, ⟨_, ?_,
        hraised (.publish Topic.SYSTEM_EVENTS (.register p.agent_type)) e s'⟩, e, rfl⟩
      exact List.mem_cons_of_mem _ (List.mem_cons_of_mem _ List.mem_cons_self)
    obtain ⟨rfl, rfl, rfl⟩ := Co.run_update.mp h
    refine .inr ⟨hrunning, ⟨s₃, (hadv.trans hadv₂).trans hadv₃, rfl⟩, ?_, rfl⟩
    intro ev hev
    simp only [List.mem_cons, List.not_mem_nil, or_false] at hev
    obtain rfl | rfl | rfl := hev
    all_goals exact ⟨_, rfl⟩

/-- A start in which nothing raises, of an agent that does not run. -/
theorem startable_of_not_running (h : s.running = false) : Startable p s := by
  intro tr s' r hrun hreturned
  obtain ⟨hrunning, -⟩ | ⟨-, -, ⟨ev, hev, hraised⟩, -⟩ | ⟨-, ⟨s₁, hadv, rfl⟩, -, rfl⟩ := start_cases hrun
  · rw [h] at hrunning
    cases hrunning
  · exact absurd (hreturned ev hev) hraised
  · obtain ⟨hrunning, hlength⟩ := create_tasks_spec s₁ p.subscribed
    refine ⟨rfl, ?_, ?_⟩
    · rw [hrunning, hadv.running]
      rfl
    · rw [hlength, hadv.length]
      rfl

/-- A stop ends with the exception of the announcement, or because there are no tasks; or the tasks end. -/
theorem stop_cases (h : Co.Run Advances stop s tr s' r) (hobeys : ∀ ev ∈ tr, Obeys ev) :
    (Advances s.drain s' ∧ ∃ ev ∈ tr,
      ev.req = .publish Topic.SYSTEM_EVENTS .shutdown ∧ ¬ Returned ev) ∨
    (Advances s.drain s' ∧ s.tasks = []) ∨
    ∃ s₁ s₂, Advances s.drain s₁ ∧ (∀ i ∈ s.tasks, s₁.EndedAt i) ∧ s₂ = s₁.drained ∧ Advances s₂ s' ∧
      s.tasks ≠ [] ∧
      ∀ ev ∈ tr, ev.req = .publish Topic.SYSTEM_EVENTS .shutdown → Returned ev := by
  rw [stop, Co.run_update_bind, Co.run_call_bind] at h
  obtain ⟨ans, s₁, tr₁, rfl, hadv₁, h⟩ := h
  obtain ⟨e, rfl, rfl, rfl, rfl⟩ | ⟨_, rfl, h⟩ := h
  · refine .inl ⟨hadv₁, _, List.mem_cons_self, rfl, ?_⟩
    rintro ⟨a, ha⟩
    cases ha
  -- The publication of the shutdown has returned.
  right
  have htasks : s₁.tasks = s.tasks := hadv₁.tasks
  rw [Co.run_read_bind, wait_tasks] at h
  by_cases hnil : s₁.tasks = []
  · rw [if_pos hnil] at h
    obtain ⟨rfl, rfl, rfl⟩ : tr₁ = [] ∧ s' = s₁ ∧ _ := h
    exact .inl ⟨hadv₁, htasks ▸ hnil⟩
  right
  rw [if_neg hnil, Co.run_call_bind] at h
  obtain ⟨ans, s₂, tr₂, rfl, hadv₂, h⟩ := h
  have hwait : Obeys ⟨.wait s₁.tasks, ans, s₂⟩ := hobeys _ (by simp)
  obtain ⟨pending, rfl, hended⟩ := hwait
  obtain ⟨e, he, -⟩ | ⟨_, heq, h⟩ := h
  · cases he
  obtain rfl := Except.ok.inj heq
  -- With or without pending tasks, all of them have ended when the list is cleared.
  have hgathered : ∃ s₃ tr₃, Advances s₂ s₃ ∧ (∀ i ∈ s₁.tasks, s₃.EndedAt i) ∧
      (∀ ev ∈ tr₂, ev ∈ tr₃ ∨ ev.req = .gather pending) ∧
      Co.Run Advances (do
        Co.update LifeState.drained
        Co.call LifeRequest.on_stop
        Co.call LifeRequest.disconnect : LifeCo Unit) s₃ tr₃ s' r := by
    unfold gather_pending at h
    by_cases hpending : pending = []
    · rw [if_pos hpending] at h
      refine ⟨s₂, tr₂, .refl s₂, fun i hi => hended i hi ?_, fun ev hev => .inl hev, h⟩
      rw [hpending]
      exact List.not_mem_nil
    · rw [if_neg hpending, Co.run_call_bind] at h
      obtain ⟨ans, s₃, tr₃, rfl, hadv₃, h⟩ := h
      have hgather : Obeys ⟨.gather pending, ans, s₃⟩ := hobeys _ (by simp)
      obtain ⟨rfl, hended₃⟩ := hgather
      obtain ⟨e, he, -⟩ | ⟨_, -, h⟩ := h
      · cases he
      refine ⟨s₃, tr₃, hadv₃, fun i hi => ?_, fun ev hev => ?_, h⟩
      · by_cases hmem : i ∈ pending
        · exact hended₃ i hmem
        · exact hadv₃.endedAt (hended i hi hmem)
      · rcases List.mem_cons.mp hev with rfl | hev
        · exact .inr rfl
        · exact .inl hev
  obtain ⟨s₃, tr₃, hadv₃, hended₃, htr₃, h⟩ := hgathered
  rw [Co.run_update_bind, Co.run_call_bind] at h
  obtain ⟨ans, s₄, tr₄, rfl, hadv₄, h⟩ := h
  have hlast : Advances s₃.drained s' ∧ ∀ ev ∈ tr₄, ev.req = .disconnect := by
    obtain ⟨e, rfl, rfl, rfl, rfl⟩ | ⟨_, rfl, h⟩ := h
    · exact ⟨hadv₄, List.forall_mem_nil _⟩
    · obtain ⟨rfl, hadv₅⟩ := Co.run_call.mp h
      exact ⟨hadv₄.trans hadv₅, List.forall_mem_singleton.mpr rfl⟩
  refine ⟨s₃, _, (hadv₁.trans hadv₂).trans hadv₃, htasks ▸ hended₃, rfl, hlast.1, htasks ▸ hnil, ?_⟩
  -- No other request is that publication.
  intro ev hev hreq
  rcases List.mem_cons.mp hev with rfl | hev
  · exact ⟨(), rfl⟩
  rcases List.mem_cons.mp hev with rfl | hev
  · cases hreq
  rcases htr₃ ev hev with hmem | hgather
  · rcases List.mem_cons.mp hmem with rfl | hmem
    · cases hreq
    · rw [hlast.2 ev hmem] at hreq
      cases hreq
  · rw [hgather] at hreq
    cases hreq

/-! ## The runs -/

/-- The tasks are tracked whatever raises. -/
theorem Tracked.step {l : Label} (h : Tracked s) (hstep : Step p s l s') : Tracked s' := by
  cases hstep with
  | start hrun hobeys =>
    obtain ⟨-, -, rfl, -⟩ | ⟨-, hadv, -⟩ | ⟨-, ⟨s₁, hadv, rfl⟩, -⟩ := start_cases hrun
    · exact h
    · exact Tracked.advances (s := s.set_running) h hadv
    · exact (Tracked.advances (s := s.set_running) h hadv).create_tasks _
  | stop hrun hobeys =>
    obtain ⟨hadv, -⟩ | ⟨hadv, -⟩ | ⟨s₁, _, hadv₁, hended, rfl, hadv₂, -⟩ := stop_cases hrun hobeys
    · exact Tracked.advances (s := s.drain) h hadv
    · exact Tracked.advances (s := s.drain) h hadv
    · have h₁ : Tracked s₁ := Tracked.advances (s := s.drain) h hadv₁
      apply Tracked.advances (s := s₁.drained) _ hadv₂
      intro i hi
      obtain hmem | hi := h₁ i hi
      · rw [hadv₁.tasks] at hmem
        exact .inr (hended i hmem)
      · exact .inr hi
  | tasks_end hadv => exact h.advances hadv

/-- A call leaves the agent as it should exactly if it was not disturbed. -/
theorem safe_iff_undisturbed {l : Label} (h : Tracked s) (hstep : Step p s l s') :
    Safe p s l ↔ Undisturbed s l := by
  cases hstep with
  | start hrun hobeys =>
    obtain ⟨-, rfl, rfl, rfl⟩ | ⟨-, hadv, ⟨ev, hev, hraised⟩, e, rfl⟩ | ⟨-, -, hreturned, rfl⟩ :=
      start_cases hrun
    · exact iff_of_true trivial (List.forall_mem_nil _)
    · refine iff_of_false ?_ fun hreturned => hraised (hreturned ev hev)
      rintro ⟨hrunning, -⟩
      rw [hadv.running] at hrunning
      cases hrunning
    · exact iff_of_true trivial hreturned
  | stop hrun hobeys =>
    have hdraining : Advances s.drain s' → ¬ (s'.running = false ∧ s'.draining = false ∧
        ∀ t ∈ s'.created, t.ended = true) := by
      rintro hadv ⟨-, hdraining, -⟩
      rw [hadv.draining] at hdraining
      cases hdraining
    obtain ⟨hadv, ev, hev, hreq, hraised⟩ | ⟨hadv, hnil⟩ | ⟨s₁, _, hadv₁, hended, rfl, hadv₂, hne, hreturned⟩ :=
      stop_cases hrun hobeys
    · exact iff_of_false (hdraining hadv) fun hreturned => hraised (hreturned.2 ev hev hreq)
    · exact iff_of_false (hdraining hadv) fun hne => hne.1 hnil
    · refine iff_of_true ⟨?_, ?_, ?_⟩ ⟨hne, hreturned⟩
      · rw [hadv₂.running]
        exact hadv₁.running
      · rw [hadv₂.draining]
        rfl
      · intro t ht
        have htracked : Tracked s' := Tracked.step (p := p) h (.stop hrun hobeys)
        obtain ⟨i, hi, rfl⟩ := List.getElem_of_mem ht
        obtain hmem | ⟨t, ht, hended⟩ := htracked i hi
        · rw [hadv₂.tasks] at hmem
          cases hmem
        · rw [List.getElem?_eq_getElem hi, Option.some.injEq] at ht
          rw [ht]
          exact hended
  | tasks_end hadv => exact Iff.rfl

/-- **When the lifecycle is safe.** Every call of a run leaves the agent as it should exactly if nothing raises
in a start, and every stop finds tasks and announces itself. -/
theorem lifecycle_safe_iff {steps : List (LifeState × Label)} (h : Path (Step p) init steps s) :
    AllMeet (Safe p) steps ↔ AllMeet Undisturbed steps := by
  refine h.allMeet_iff (I := Tracked) ?_ (fun _ _ _ htracked hstep => htracked.step hstep) ?_
  · intro i hi
    cases hi
  · intro s l s' htracked hstep
    exact safe_iff_undisturbed htracked hstep

/-! ## Two runs -/

/-- An agent with one topic. -/
def worker : Profile where
  agent_type := "probe"
  topics := ["tasks"]

/-- Every await returns, and no task is pending. -/
def returns : (q : LifeRequest) → Except Exc q.Answer
  | .wait _ => .ok []
  | .connect | .on_start | .publish _ _ | .gather _ | .on_stop | .disconnect => .ok ()

/-- The connection is refused. -/
def refuses : (q : LifeRequest) → Except Exc q.Answer
  | .connect => .error (.error "Connection refused")
  | q => returns q

theorem run_call_exec (answer : (q : LifeRequest) → Except Exc q.Answer) (c : LifeCo Unit) (s : LifeState) :
    Co.Run Advances c s (c.exec answer s).1 (c.exec answer s).2.1 (c.exec answer s).2.2 :=
  Co.run_exec Advances.refl answer c s

/-- The state of the agent after it started. -/
def started : LifeState where
  running := true
  draining := false
  tasks := [0, 1, 2]
  created := [⟨.heartbeat_loop, false⟩, ⟨.idempotency_cleanup_loop, false⟩, ⟨.consume_loop "tasks", false⟩]

/-- Its tasks have ended. -/
def idle : LifeState where
  running := true
  draining := false
  tasks := [0, 1, 2]
  created := [⟨.heartbeat_loop, true⟩, ⟨.idempotency_cleanup_loop, true⟩, ⟨.consume_loop "tasks", true⟩]

/-- An agent that starts and stops. -/
def start_and_stop : List (LifeState × Label) := [
  (init, .start ((start worker).exec returns init).1 (.ok ()) started),
  (started, .tasks_end),
  (idle, .stop (stop.exec returns idle).1 (.ok ()) (stop.exec returns idle).2.1)]

theorem path_start_and_stop :
    Path (Step worker) init start_and_stop (stop.exec returns idle).2.1 := by
  have hstart : Step worker init (.start ((start worker).exec returns init).1 (.ok ()) started) started := by
    apply Step.start (run_call_exec returns (start worker) init)
    exact List.forall_mem_cons.mpr ⟨trivial, List.forall_mem_cons.mpr ⟨trivial,
      List.forall_mem_singleton.mpr trivial⟩⟩
  have hend : Advances started idle := by
    refine ⟨rfl, rfl, rfl, rfl, ?_⟩
    intro i t' ht'
    match i, ht' with
    | 0, ht' => exact ⟨_, rfl, (Option.some.inj ht' ▸ rfl), nofun⟩
    | 1, ht' => exact ⟨_, rfl, (Option.some.inj ht' ▸ rfl), nofun⟩
    | 2, ht' => exact ⟨_, rfl, (Option.some.inj ht' ▸ rfl), nofun⟩
    | i + 3, ht' => cases ht'
  have hstop : Step worker idle
      (.stop (stop.exec returns idle).1 (.ok ()) (stop.exec returns idle).2.1)
      (stop.exec returns idle).2.1 := by
    apply Step.stop (run_call_exec returns stop idle)
    have hended : ∀ i ∈ [0, 1, 2], LifeState.EndedAt idle.drain i := by
      intro i hi
      simp only [List.mem_cons, List.not_mem_nil, or_false] at hi
      obtain rfl | rfl | rfl := hi
      all_goals exact ⟨_, rfl, rfl⟩
    have hwait : Obeys ⟨.wait [0, 1, 2], .ok [], idle.drain⟩ := ⟨[], rfl, fun i hi _ => hended i hi⟩
    exact List.forall_mem_cons.mpr ⟨trivial, List.forall_mem_cons.mpr ⟨hwait,
      List.forall_mem_cons.mpr ⟨trivial, List.forall_mem_singleton.mpr trivial⟩⟩⟩
  exact .cons hstart (.cons (.tasks_end hend) (.cons hstop .start))

theorem lifecycle_safe_start_and_stop : AllMeet (Safe worker) start_and_stop := by
  apply (lifecycle_safe_iff path_start_and_stop).mpr
  have hreturned : ∀ ev ∈ ((start worker).exec returns init).1, Returned ev :=
    List.forall_mem_cons.mpr ⟨⟨(), rfl⟩, List.forall_mem_cons.mpr ⟨⟨(), rfl⟩,
      List.forall_mem_singleton.mpr ⟨(), rfl⟩⟩⟩
  have hannounced : ∀ ev ∈ (stop.exec returns idle).1,
      ev.req = .publish Topic.SYSTEM_EVENTS .shutdown → Returned ev :=
    List.forall_mem_cons.mpr ⟨fun _ => ⟨(), rfl⟩, List.forall_mem_cons.mpr ⟨fun _ => ⟨[], rfl⟩,
      List.forall_mem_cons.mpr ⟨fun _ => ⟨(), rfl⟩, List.forall_mem_singleton.mpr fun _ => ⟨(), rfl⟩⟩⟩⟩
  exact List.forall_mem_cons.mpr ⟨hreturned, List.forall_mem_cons.mpr ⟨trivial,
    List.forall_mem_singleton.mpr ⟨List.cons_ne_nil 0 [1, 2], hannounced⟩⟩⟩

/-- An agent that runs after a start that raised. -/
theorem half_started :
    ¬ ∀ (p : Profile) (steps : List (LifeState × Label)) (s : LifeState), Path (Step p) init steps s →
      AllMeet (Safe p) steps := by
  intro h
  have hstart : Step worker init (.start ((start worker).exec refuses init).1
      ((start worker).exec refuses init).2.2 ((start worker).exec refuses init).2.1)
      ((start worker).exec refuses init).2.1 := by
    apply Step.start (run_call_exec refuses (start worker) init)
    exact List.forall_mem_singleton.mpr trivial
  have hsafe := h worker _ _ (.cons hstart .start) _ List.mem_cons_self
  obtain ⟨hrunning, -⟩ := hsafe
  cases hrunning

end Aqap.Startup
