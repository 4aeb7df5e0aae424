import Aqap.Agent.Supervisor

/-!
# The tasks of a supervisor

Calls of the supervisor and the turns of its monitors, which take turns at their awaits. Meanwhile agents are
registered, heartbeats are recorded and time passes.

* `guarded_turn`: a turn asks for no agent that is not stale at its start.
* `never_restarted`: in which runs no monitor touches an agent.
* `quiet_of_stopped`: a supervisor that was stopped restarts nothing.
-/

namespace Aqap

open Py Async AgentSupervisor

/-- What a task of the supervisor does. -/
inductive SupervisorCall where
  | start_all
  | stop_all
  | restart_agent (agent_id : String)
  /-- A turn of `_monitor_loop`. -/
  | turn (order : SetOrder)

/-- The call; the result says whether the task goes on. -/
def SupervisorCall.run {α : Type} (self : AgentSupervisor) : SupervisorCall → SupervisorCo α Bool
  | .start_all => do
    AgentSupervisor.start_all
    pure false
  | .stop_all => do
    AgentSupervisor.stop_all
    pure false
  | .restart_agent agent_id => do
    AgentSupervisor.restart_agent agent_id
    pure false
  | .turn order => self.turn order

/-- What other tasks do to the supervisor. -/
inductive Meanwhile {α : Type} : SupervisorState α → SupervisorState α → Prop
  | register (s : SupervisorState α) (agent_id : String) (agent : α) : Meanwhile s (s.register agent_id agent)
  | record_heartbeat (s : SupervisorState α) (agent_id : String) : Meanwhile s (s.record_heartbeat agent_id)
  | tick (s : SupervisorState α) (ticks : Nat) : Meanwhile s { s with clock := s.clock + ticks }

/-- Tasks, numbered by `ι`, of one supervisor. -/
abbrev SupervisorTasks (ι α : Type) :=
  Sys ι SupervisorCall (SupervisorState α) (SupervisorRequest α) (fun _ => Unit) Bool

/-- What may happen in a run of supervisor tasks. -/
abbrev SupervisorLabel (ι α : Type) := Label ι SupervisorCall (SupervisorRequest α) fun _ => Unit

/-- A monitor goes on after a turn that says so. -/
def next_turn : Except Exc Bool → Bool
  | .ok goes_on => goes_on
  | .error _ => false

/-- No task has been called. -/
def SupervisorTasks.new (ι α : Type) (clock : Int) : SupervisorTasks ι α :=
  ⟨SupervisorState.new clock, fun _ => .idle, []⟩

/-- A step of the tasks. -/
abbrev SupervisorStep {ι α : Type} [DecidableEq ι] (self : AgentSupervisor) :=
  Sys.Step (ι := ι) next_turn (fun _ call => SupervisorCall.run (α := α) self call) Meanwhile

/-- A request of a monitor that asks for the agent. -/
def Restarts {ι α : Type} (agent_id : String) (e : ι × SupervisorCall × SupervisorRequest α) : Prop :=
  (∃ order, e.2.1 = .turn order) ∧ e.2.2.about agent_id ≠ none

namespace AgentSupervisor

section

variable {α : Type} {self : AgentSupervisor} {s : SupervisorState α} {agent_id : String}
  {ok : SupervisorRequest α → Prop} {I : SupervisorState α → Prop}
  {G : SupervisorState α → SupervisorState α → Prop}

theorem guarded_logged {q : SupervisorRequest α} (hq : ok q) : Co.Guarded I G ok (logged q) :=
  (Co.Guarded.call hq).tryExcept fun _ => .pure ()

theorem guarded_restart_agent (hok : ∀ agent, ok (.stop agent_id agent) ∧ ok (.start agent_id agent)) :
    Co.Guarded I G ok (restart_agent agent_id) := by
  refine .read_bind fun s _ => ?_
  cases s.agents.get? agent_id with
  | none => exact .pure ()
  | some agent => exact (guarded_logged (hok agent).1).bind fun _ => guarded_logged (hok agent).2

/-- The statuses are the reason for what is asked. -/
theorem guarded_restart_stale {statuses : List (String × AgentStatus)}
    (hok : ∀ id last elapsed, (id, .stale last elapsed) ∈ statuses →
      ∀ agent, ok (.stop id agent) ∧ ok (.start id agent)) :
    Co.Guarded I G ok (restart_stale statuses) := by
  induction statuses with
  | nil => exact .pure ()
  | cons e statuses ih =>
    have hrest := ih fun id last elapsed hmem => hok id last elapsed (List.mem_cons_of_mem _ hmem)
    obtain ⟨id, status⟩ := e
    cases status with
    | stale last elapsed =>
      exact (guarded_restart_agent (hok id last elapsed List.mem_cons_self)).bind fun _ => hrest
    | unknown => exact hrest
    | healthy elapsed => exact hrest

theorem status_stale {last elapsed : Int} (h : self.status s agent_id = .stale last elapsed) :
    self.Stale s agent_id := by
  unfold status at h
  cases hlast : s.last_heartbeat.get? agent_id with
  | none =>
    rw [hlast] at h
    cases h
  | some last' =>
    rw [hlast] at h
    dsimp only at h
    split at h
    · rename_i htimeout
      exact ⟨last', hlast, htimeout⟩
    · cases h

/-- What it awaits does not ask for the agent. -/
def Spares (agent_id : String) {α β : Type} (c : SupervisorCo α β) : Prop :=
  c.Guarded (fun _ => True) (fun _ _ => True) fun q => q.about agent_id = none

/-- A turn asks for no agent that is not stale at its start. -/
theorem guarded_turn (order : SetOrder) (h : s.running = true → ¬ self.Stale s agent_id) :
    (self.turn order).GuardedFrom (fun _ => True) (fun _ _ => True) (fun q => q.about agent_id = none) s := by
  show Co.GuardedFrom _ _ _ (if s.running then _ else _) s
  cases hrunning : s.running with
  | false => trivial
  | true =>
    rw [if_pos rfl]
    have hstale : Spares agent_id (restart_stale (α := α) (self.health_check order s)) := by
      refine guarded_restart_stale fun id last elapsed hmem agent => ?_
      obtain ⟨id', -, heq⟩ := List.mem_map.mp hmem
      obtain ⟨rfl, hstatus⟩ := Prod.mk.inj heq
      have hne : id' ≠ agent_id := by
        rintro rfl
        exact h hrunning (status_stale hstatus)
      exact ⟨if_neg hne, if_neg hne⟩
    have hsleep : Spares agent_id (Co.call (.sleep (self.heartbeat_timeout / 3 * second)) :
        SupervisorCo α Unit) := .call rfl
    exact (hstale.bind fun _ => hsleep.bind fun _ => .pure true) s trivial

end

/-! ## Runs of the tasks -/

section

variable {ι α : Type} [DecidableEq ι] {self : AgentSupervisor} {S₀ S S' : SupervisorTasks ι α}
  {agent_id : String} {l : SupervisorLabel ι α}

/-- No turn that waits will ask for the agent, and none has. -/
structure Untouched (agent_id : String) (S : SupervisorTasks ι α) : Prop where
  waiting : ∀ i order start c, S.workers i = .busy (.turn order) start c → Spares agent_id c
  issued : ∀ e ∈ S.log, ¬ Restarts agent_id e

/-- The step of a task that was guarded, or that is no turn. -/
theorem untouched_proceed {i : ι} {call : SupervisorCall} {start : SupervisorState α}
    {c : SupervisorCo α Bool} (h : Untouched agent_id S)
    (hc : ∀ order, call = .turn order →
      c.GuardedFrom (fun _ => True) (fun _ _ => True) (fun q => q.about agent_id = none) S.shared) :
    Untouched agent_id (Sys.proceed next_turn S i call start c) := by
  have hsettle : ∀ order, call = .turn order → Spares agent_id (c.settle S.shared).2 := fun order horder =>
    ((hc order horder).settle (fun _ => trivial) (fun _ _ _ _ _ => trivial) trivial).2.2
  constructor
  · intro j order start' c' hbusy
    rcases Sys.busy_proceed hbusy with ⟨-, horder, -, rfl⟩ | ⟨-, hold⟩
    · exact hsettle order horder.symm
    · exact h.waiting j order start' c' hold
  · intro e he
    rcases List.mem_append.mp he with hold | hnew
    · exact h.issued e hold
    · obtain ⟨j, call', q⟩ := e
      obtain ⟨rfl, rfl, k, hk⟩ := Sys.mem_issued hnew
      rintro ⟨⟨order, rfl⟩, hq⟩
      have hguard := hsettle order rfl (c.settle S.shared).1 trivial
      rw [hk] at hguard
      exact hq hguard.1

theorem untouched_step (h : Untouched agent_id S)
    (hfresh : ∀ i order, l = .deliver i (.turn order) → S.shared.running = true → ¬ self.Stale S.shared agent_id)
    (hstep : SupervisorStep self S l S') : Untouched agent_id S' := by
  cases hstep with
  | @deliver i call hidle =>
    refine untouched_proceed h fun order horder => ?_
    subst horder
    exact guarded_turn order (hfresh i order rfl)
  | @resume i call start q k answer hbusy =>
    refine untouched_proceed h fun order horder => ?_
    subst horder
    have hguard := h.waiting i order start _ hbusy S.shared trivial
    exact hguard.2 (answer q) S.shared trivial
  | @close i hidle =>
    exact ⟨fun j order start c hbusy => h.waiting j order start c (Sys.busy_of_ended hbusy), h.issued⟩
  | env hE => exact ⟨h.waiting, h.issued⟩

/-- **Which agents no monitor touches.** However the tasks of a supervisor and its monitors take turns, no turn
stops or starts an agent whose heartbeat is not too old whenever a turn begins: neither one that sends its
heartbeats in time nor one that has never sent any. -/
theorem never_restarted {clock : Int} {steps : List (SupervisorTasks ι α × SupervisorLabel ι α)}
    (h : Lts.Path (SupervisorStep self) (SupervisorTasks.new ι α clock) steps S)
    (hfresh : Lts.AllMeet (fun S l => ∀ i order, l = .deliver i (.turn order) → S.shared.running = true →
      ¬ self.Stale S.shared agent_id) steps) :
    ∀ e ∈ S.log, ¬ Restarts agent_id e := by
  have hnew : Untouched agent_id (SupervisorTasks.new ι α clock) := ⟨nofun, nofun⟩
  have hall := h.throughout_of_meets hnew (fun S l S' hS hl hstep => untouched_step hS hl hstep) hfresh
  exact hall.1.issued

/-- A turn restarts an agent that was silent for two minutes, and not the one of which nothing is known. -/
theorem never_restarted_sample :
    ∃ S : SupervisorTasks Bool Unit, (∃ e ∈ S.log, Restarts "probe-1" e) ∧
      ∀ e ∈ S.log, ¬ Restarts "judge-1" e := by
  have hpath : ∃ steps S, Lts.Path (SupervisorStep (ι := Bool) (α := Unit) {}) (SupervisorTasks.new Bool Unit 0)
      steps S ∧ (∃ e ∈ S.log, Restarts "probe-1" e) ∧
      Lts.AllMeet (fun S _ => S.shared.last_heartbeat.get? "judge-1" = none) steps := by
    have hnew : Lts.Path (SupervisorStep (ι := Bool) (α := Unit) {}) (SupervisorTasks.new Bool Unit 0) [] _ := .start
    have hregistered := hnew.step (.env (.register _ "probe-1" ()))
    have hheard := hregistered.step (.env (.record_heartbeat _ "probe-1"))
    have hsilent := hheard.step (.env (.tick _ (120 * 4194304)))
    have hstarted := hsilent.step (.deliver (i := true) (m := .start_all) rfl)
    refine ⟨_, _, hstarted.step (.deliver (i := false) (m := .turn listed) rfl),
      ⟨(false, .turn listed, .stop "probe-1" ()), List.mem_append_right _ List.mem_cons_self, ⟨listed, rfl⟩,
        by decide⟩, ?_⟩
    simp only [Lts.allMeet_append]
    exact ⟨⟨⟨⟨⟨fun _ h => absurd h List.not_mem_nil, rfl⟩, rfl⟩, rfl⟩, rfl⟩, rfl⟩
  obtain ⟨steps, S, hpath, hrestarted, hunknown⟩ := hpath
  refine ⟨S, hrestarted, never_restarted hpath fun e he i order _ _ hstale => ?_⟩
  obtain ⟨last, hlast, -⟩ := hstale
  cases (hunknown e he).symm.trans hlast

/-! ## After a stop -/

/-- A coroutine that does not set the supervisor running. -/
def KeepsStopped {β : Type} (c : SupervisorCo α β) : Prop :=
  c.Guarded (fun _ => True) (fun s s' => s.running = false → s'.running = false) fun _ => True

theorem keepsStopped_logged (q : SupervisorRequest α) : KeepsStopped (logged q) := guarded_logged trivial

theorem keepsStopped_start_agents (size : Nat) (ids : List String) :
    KeepsStopped (start_agents (α := α) size ids) := by
  have hsize : KeepsStopped (same_size (α := α) size) := by
    refine .read_bind fun s _ => ?_
    split
    · exact .pure ()
    · exact fun _ _ => trivial
  induction ids with
  | nil => exact hsize
  | cons id ids ih =>
    refine hsize.bind fun _ => .read_bind fun s _ => ?_
    cases s.agents.get? id with
    | none => exact ih
    | some agent => exact (keepsStopped_logged _).bind fun _ => ih

theorem keepsStopped_stop_agents (items : List (String × α)) : KeepsStopped (stop_agents items) := by
  induction items with
  | nil => exact .pure ()
  | cons item items ih => exact (keepsStopped_logged _).bind fun _ => ih

theorem keepsStopped_stop_all : KeepsStopped (stop_all (α := α)) := by
  have hjoin : KeepsStopped (join_monitor (α := α)) := by
    refine fun _ _ => ⟨trivial, fun ans _ _ => ?_⟩
    match ans with
    | .ok () => exact trivial
    | .error .cancelled => exact trivial
    | .error (.error text) => exact trivial
  have hstops : KeepsStopped (do
      let items ← Co.read fun s : SupervisorState α => s.agents.items
      stop_agents items : SupervisorCo α Unit) := .read_bind fun s _ => keepsStopped_stop_agents _
  refine (Co.Guarded.update fun s _ => ⟨trivial, fun _ => rfl⟩).bind fun _ => .read_bind fun s _ => ?_
  dsimp only
  split
  · exact hjoin.bind fun _ => hstops
  · exact hstops

theorem keepsStopped_turn (self : AgentSupervisor) (order : SetOrder) :
    KeepsStopped (self.turn order (α := α)) := by
  refine .read_bind fun s _ => ?_
  split
  · refine .read_bind fun s _ => ?_
    have hstale : KeepsStopped (restart_stale (α := α) (self.health_check order s)) :=
      guarded_restart_stale fun _ _ _ _ _ => ⟨trivial, trivial⟩
    exact hstale.bind fun _ => (Co.Guarded.call trivial).bind fun _ => .pure true
  · exact .pure false

/-- No call but `start_all` sets the supervisor running, and that only at its beginning. -/
theorem settle_run (call : SupervisorCall) (s : SupervisorState α) :
    (call ≠ .start_all → s.running = false → ((call.run self).settle s).1.running = false) ∧
      KeepsStopped ((call.run self).settle s).2 := by
  have hguarded {c : SupervisorCo α Bool} (h : KeepsStopped c) (s : SupervisorState α) :
      (s.running = false → (c.settle s).1.running = false) ∧ KeepsStopped (c.settle s).2 :=
    ((h s trivial).settle (fun _ => id) (fun _ _ _ h₁ h₂ h => h₂ (h₁ h)) trivial).2
  cases call with
  | start_all =>
    have hrest : KeepsStopped (do
        let ids ← Co.read fun s : SupervisorState α => s.agents.keys
        start_agents ids.length ids
        Co.update fun s => { s with monitored := true }
        pure false : SupervisorCo α Bool) := by
      refine .read_bind fun s _ => (keepsStopped_start_agents _ _).bind fun _ => ?_
      exact (Co.Guarded.update fun s _ => ⟨trivial, id⟩).bind fun _ => .pure false
    have hrun : SupervisorCall.run self .start_all = (do
        Co.update fun s : SupervisorState α => { s with running := true }
        let ids ← Co.read fun s : SupervisorState α => s.agents.keys
        start_agents ids.length ids
        Co.update fun s => { s with monitored := true }
        pure false : SupervisorCo α Bool) := by
      simp only [SupervisorCall.run, AgentSupervisor.start_all, Co.bind_assoc]
    rw [hrun]
    exact ⟨fun h => absurd rfl h, (hguarded hrest { s with running := true }).2⟩
  | stop_all =>
    have h := hguarded (keepsStopped_stop_all.bind fun _ => .pure false) s
    exact ⟨fun _ => h.1, h.2⟩
  | restart_agent id =>
    have hrestart : KeepsStopped (AgentSupervisor.restart_agent (α := α) id) :=
      guarded_restart_agent fun _ => ⟨trivial, trivial⟩
    have h := hguarded (hrestart.bind fun _ => .pure false) s
    exact ⟨fun _ => h.1, h.2⟩
  | turn order =>
    have h := hguarded (keepsStopped_turn self order) s
    exact ⟨fun _ => h.1, h.2⟩

/-- The calls that wait do not set the supervisor running. -/
def Calm (S : SupervisorTasks ι α) : Prop := ∀ i call start c, S.workers i = .busy call start c → KeepsStopped c

theorem calm_step (h : Calm S) (hstep : SupervisorStep self S l S') : Calm S' := by
  cases hstep with
  | @deliver i call hidle =>
    intro j call' start' c' hbusy
    rcases Sys.busy_proceed hbusy with ⟨-, -, -, rfl⟩ | ⟨-, hold⟩
    · exact (settle_run call S.shared).2
    · exact h j call' start' c' hold
  | @resume i call start q k answer hbusy =>
    intro j call' start' c' hbusy'
    rcases Sys.busy_proceed hbusy' with ⟨-, -, -, rfl⟩ | ⟨-, hold⟩
    · have hguard := (h i call start _ hbusy S.shared trivial).2 (answer q) S.shared trivial
      exact (hguard.settle (fun _ => id) (fun _ _ _ h₁ h₂ h => h₂ (h₁ h)) trivial).2.2
    · exact h j call' start' c' hold
  | @close i hidle => exact fun j call start c hbusy => h j call start c (Sys.busy_of_ended hbusy)
  | env hE => exact h

/-- The supervisor is stopped, no turn waits, and since the log was `before` no monitor has restarted an agent. -/
structure Quiet (before : List (ι × SupervisorCall × SupervisorRequest α)) (S : SupervisorTasks ι α) :
    Prop where
  stopped : S.shared.running = false
  calm : Calm S
  no_turn : ∀ i order start c, S.workers i ≠ .busy (.turn order) start c
  issued : ∃ new, S.log = before ++ new ∧ ∀ e ∈ new, ∀ agent_id, ¬ Restarts agent_id e

/-- A step of a task, when it is no turn, or a turn that has ended with it. -/
theorem quiet_proceed {before : List (ι × SupervisorCall × SupervisorRequest α)} {i : ι}
    {call : SupervisorCall} {start : SupervisorState α} {c : SupervisorCo α Bool} (h : Quiet before S)
    (hcalm : Calm (Sys.proceed next_turn S i call start c)) (hstopped : (c.settle S.shared).1.running = false)
    (hturn : ∀ order, call = .turn order → (c.settle S.shared).2 = .ret false) :
    Quiet before (Sys.proceed next_turn S i call start c) := by
  refine ⟨hstopped, hcalm, ?_, ?_⟩
  · intro j order start' c' hbusy
    by_cases hj : j = i
    · subst hj
      rw [Sys.proceed_self] at hbusy
      obtain ⟨horder, -, -⟩ := Sys.after_busy hbusy
      rw [hturn order horder.symm] at hbusy
      cases hbusy
    · rw [Sys.proceed_other hj] at hbusy
      exact h.no_turn j order start' c' hbusy
  · obtain ⟨new, hlog, hnew⟩ := h.issued
    refine ⟨new ++ Sys.issued i call (c.settle S.shared).2, ?_, ?_⟩
    · show S.log ++ _ = _
      rw [hlog, List.append_assoc]
    · intro e he agent_id
      rcases List.mem_append.mp he with hold | hlast
      · exact hnew e hold agent_id
      · obtain ⟨j, call', q⟩ := e
        obtain ⟨rfl, rfl, k, hk⟩ := Sys.mem_issued hlast
        rintro ⟨⟨order, rfl⟩, -⟩
        cases (hturn order rfl).symm.trans hk

theorem quiet_step {before : List (ι × SupervisorCall × SupervisorRequest α)} (h : Quiet before S)
    (hl : ∀ i, l ≠ .deliver i .start_all) (hstep : SupervisorStep self S l S') : Quiet before S' := by
  have hcalm := calm_step h.calm hstep
  cases hstep with
  | @deliver i call hidle =>
    have hcall : call ≠ .start_all := fun heq => hl i (heq ▸ rfl)
    refine quiet_proceed h hcalm ((settle_run call S.shared).1 hcall h.stopped) fun order horder => ?_
    subst horder
    show ((if S.shared.running then _ else _ : SupervisorCo α Bool).settle S.shared).2 = _
    rw [h.stopped]
    rfl
  | @resume i call start q k answer hbusy =>
    have hguard := (h.calm i call start _ hbusy S.shared trivial).2 (answer q) S.shared trivial
    have hkept := (hguard.settle (fun _ => id) (fun _ _ _ h₁ h₂ h => h₂ (h₁ h)) trivial).2.1
    refine quiet_proceed h hcalm (hkept h.stopped) fun order horder => ?_
    subst horder
    exact absurd hbusy (h.no_turn i order start _)
  | @close i hidle =>
    exact ⟨h.stopped, hcalm, fun j order start c hbusy => h.no_turn j order start c (Sys.busy_of_ended hbusy),
      h.issued⟩
  | env hE =>
    refine ⟨?_, hcalm, h.no_turn, h.issued⟩
    cases hE <;> exact h.stopped

/-- **After a stop, the monitors restart nothing.** From a state of a run in which the supervisor is stopped and
no turn of a monitor waits, no turn stops or starts an agent, however the tasks take turns, until `start_all` is
called again. -/
theorem quiet_of_stopped {clock : Int} {pre steps : List (SupervisorTasks ι α × SupervisorLabel ι α)}
    (hreached : Lts.Path (SupervisorStep self) (SupervisorTasks.new ι α clock) pre S₀)
    (hstopped : S₀.shared.running = false)
    (hidle : ∀ i order start c, S₀.workers i ≠ .busy (.turn order) start c)
    (h : Lts.Path (SupervisorStep self) S₀ steps S)
    (hcalls : Lts.AllMeet (fun _ l => ∀ i, l ≠ .deliver i .start_all) steps) :
    ∃ new, S.log = S₀.log ++ new ∧ ∀ e ∈ new, ∀ agent_id, ¬ Restarts agent_id e := by
  have hcalm : Calm S₀ := (hreached.throughout nofun fun S l S' hS hstep => calm_step hS hstep).1
  have hquiet : Quiet S₀.log S₀ := ⟨hstopped, hcalm, hidle, [], (List.append_nil _).symm, nofun⟩
  exact (h.throughout_of_meets hquiet (fun S l S' hS hl hstep => quiet_step hS hl hstep) hcalls).1.issued

/-- A turn after the supervisor was stopped, of an agent that has not sent a heartbeat for two minutes. -/
theorem quiet_of_stopped_sample :
    ∃ S₀ S : SupervisorTasks Bool Unit, Stale {} S.shared "probe-1" ∧
      ∃ new, S.log = S₀.log ++ new ∧ ∀ e ∈ new, ∀ agent_id, ¬ Restarts agent_id e := by
  have hpath : ∃ pre steps S₀ S,
      Lts.Path (SupervisorStep (ι := Bool) (α := Unit) {}) (SupervisorTasks.new Bool Unit 0) pre S₀ ∧
      S₀.shared.running = false ∧ (∀ i order start c, S₀.workers i ≠ .busy (.turn order) start c) ∧
      Lts.Path (SupervisorStep {}) S₀ steps S ∧ Stale {} S.shared "probe-1" ∧
      Lts.AllMeet (fun _ l => ∀ i, l ≠ .deliver i .start_all) steps := by
    refine ⟨_, _, _, _, .step (.step (.step .start (.env (.register _ "probe-1" ())))
      (.env (.record_heartbeat _ "probe-1"))) (.env (.tick _ (120 * 4194304))), rfl,
      (fun _ _ _ _ h => by cases h), .step .start (.deliver (i := true) (m := .turn listed) rfl),
      ⟨0, rfl, by decide⟩, ?_⟩
    intro e he i hl
    rw [List.nil_append, List.mem_singleton] at he
    subst he
    cases hl
  obtain ⟨pre, steps, S₀, S, hreached, hstopped, hidle, hpath, hstale, hcalls⟩ := hpath
  exact ⟨S₀, S, hstale, quiet_of_stopped hreached hstopped hidle hpath hcalls⟩

end

end AgentSupervisor

end Aqap
