import Aqap.Agent.Lifecycle
import Aqap.Async.Lts

/-!
# Agents on one transport are not independent of each other

A system of running agents, their subscription loops, and one lifecycle call at a time. `stop` disconnects the
transport of all agents; `connect`, of which a restart makes use, sets the run flag over Redis only.

* `wp_stop`, `wp_start`, `wp_restart_agent`: what a call leaves behind, whatever the loops do meanwhile, as
  long as the answers are `Harmless`.
* `independent_of_undisturbed`: in a run whose steps are `Undisturbed`, the agents are independent.
* `not_receives`: on a closed transport, an agent that was restarted is handed nothing.
-/

namespace Aqap

open Py Aqap.Core Async

/-- The calls that stop and restart an agent. -/
inductive Lifecycle (ι : Type) where
  | stop (i : ι)
  | restart_agent (i : ι)
  deriving DecidableEq

namespace Lifecycle

variable {ι : Type}

/-- The agent that the call is of. -/
def agent : Lifecycle ι → ι
  | stop i | restart_agent i => i

/-- The call starts the agent again. -/
def restarts : Lifecycle ι → Bool
  | stop _ => false
  | restart_agent _ => true

/-- What the call runs, and whether it logs at the end that an agent is back. -/
def body [DecidableEq ι] (T : SharedTransport) (profile : ι → Profile) : Lifecycle ι → LifecycleCo ι Bool
  | stop i => do Aqap.stop T i; pure false
  | restart_agent i => Aqap.restart_agent T profile i

end Lifecycle

/-- A call that waits for an answer. -/
structure InProgress (ι : Type) where
  call : Lifecycle ι
  req : LifecycleRequest ι
  resume : Except Exc req.Answer → LifecycleCo ι Bool

/-- The agents with the calls that are under way. -/
structure System (ι : Type) where
  cluster : Cluster ι
  call : Option (InProgress ι)
  /-- The call that the last step brought to its end, and what it returned. -/
  returned : Option (Lifecycle ι × Bool)

/-- What happens next: a call, the answer that the call in progress waits for, or a move of a loop. -/
inductive LifecycleLabel (ι : Type) where
  | call (call : Lifecycle ι)
  | answer (answer : (q : LifecycleRequest ι) → Except Exc q.Answer)
  | loop (i : ι) (n : Nat) (m : Move)

namespace System

variable {ι : Type} [DecidableEq ι] (T : SharedTransport) (profile : ι → Profile)

/-- The agents of an engine that has started. -/
def started : System ι where
  cluster := ⟨true, fun i => .started (profile i)⟩
  call := none
  returned := none

/-- The call goes on to its next await, or to its end. -/
def proceed (call : Lifecycle ι) (s : Cluster ι) (c : LifecycleCo ι Bool) : System ι :=
  match c.settle s with
  | (s', .await req resume) => ⟨s', some ⟨call, req, resume⟩, none⟩
  | (s', .ret a) => ⟨s', none, some (call, a)⟩
  | (s', _) => ⟨s', none, none⟩

/-- `asyncio.wait` returns without pending tasks, and `asyncio.gather` returns, when the tasks have ended. -/
def answerable (s : Cluster ι) : (q : LifecycleRequest ι) → Except Exc q.Answer → Bool
  | .wait i, .ok false => (s.members i).loops.all (·.phase.ended)
  | .gather i, .ok () => (s.members i).loops.all (·.phase.ended)
  | _, _ => true

/-- The step `l`, if it is enabled. -/
def fire (S : System ι) : LifecycleLabel ι → Option (System ι)
  | .call call =>
    match S.call with
    | none => some (proceed call S.cluster (call.body T profile))
    | some _ => none
  | .answer answer =>
    match S.call with
    | none => none
    | some ⟨call, req, resume⟩ =>
      if answerable S.cluster req (answer req) then some (proceed call S.cluster (resume (answer req)))
      else none
  | .loop i n m => (S.cluster.move T i n m).map fun s => { S with cluster := s, returned := none }

/-- A step that `fire` allows. -/
def Step (S : System ι) (l : LifecycleLabel ι) (S' : System ι) : Prop := fire T profile S l = some S'

/-- A loop of the agent is handed a message of the topic after some moves of its own. -/
def Receives (S : System ι) (i : ι) (topic : String) : Prop :=
  ∃ n steps S', Lts.Path (Step T profile) S steps S' ∧ (∀ e ∈ steps, ∃ m, e.2 = .loop i n m) ∧
    (S'.cluster.members i).loops[n]? = some ⟨topic, .handling⟩

/-- The calls have left the transport connected; no loop has ended though its agent ran, be it that its
subscription ended or that something raised in it; and an agent that is said to be back receives what is
published to its topics. -/
structure Independent (S : System ι) : Prop where
  connected : S.call = none → S.cluster.connected = true
  alive : S.cluster.Uncut
  again : ∀ i, S.returned = some (.restart_agent i, true) →
    ∀ topic ∈ (profile i).subscribed, S.Receives T profile i topic

/-- The answer does not leave the transport closed. In memory, `stop` does not get to `disconnect`; over
Redis, the agent starts again after it, or a loop has connected the transport meanwhile, and a closed
transport answers the ping. -/
def Harmless (restarts : Bool) : (q : LifecycleRequest ι) → Except Exc q.Answer → Cluster ι → Prop
  | .on_stop _, .ok _, _ => T = .redis_streams
  | .close, r, s => s.connected = true ∨ restarts = true ∧ r ≠ .error .cancelled
  | .ping, .error _, s => s.connected = true
  | _, _, _ => True

/-- The answer is harmless; a loop of an agent that runs does not look at a closed transport, and what it
awaits outside a `try` raises nothing. -/
def Undisturbed (S : System ι) : LifecycleLabel ι → Prop
  | .call _ => True
  | .answer answer =>
    ∀ p ∈ S.call, Harmless T p.call.restarts p.req (answer p.req) S.cluster
  | .loop i _ m => (S.cluster.members i).running = true → m.spares S.cluster.connected = true

instance {restarts : Bool} : (q : LifecycleRequest ι) → (r : Except Exc q.Answer) → (s : Cluster ι) →
    Decidable (Harmless T restarts q r s)
  | .on_stop _, .ok _, _ => inferInstanceAs (Decidable (T = .redis_streams))
  | .close, r, s =>
    inferInstanceAs (Decidable (s.connected = true ∨ restarts = true ∧ r ≠ .error .cancelled))
  | .ping, .error _, s => inferInstanceAs (Decidable (s.connected = true))
  | .ping, .ok _, _ | .on_stop _, .error _, _ | .publish _ _ _, _, _ | .wait _, _, _ | .gather _, _, _
  | .on_start _, _, _ => .isTrue trivial

instance {S : System ι} : (l : LifecycleLabel ι) → Decidable (S.Undisturbed T l)
  | .call _ => .isTrue trivial
  | .answer answer =>
    inferInstanceAs (Decidable (∀ p ∈ S.call, Harmless T p.call.restarts p.req (answer p.req) S.cluster))
  | .loop i _ m =>
    inferInstanceAs (Decidable ((S.cluster.members i).running = true →
      m.spares S.cluster.connected = true))

/-! ## What a call leaves behind -/

/-- `start` awaits it. -/
def starting : LifecycleRequest ι → Bool
  | .publish _ _ (.register _) | .on_start _ | .ping => true
  | _ => false

/-- It is awaited when the transport may be closed. -/
def reopening : LifecycleRequest ι → Bool
  | .ping | .close => true
  | _ => false

/-- What holds while a call to the agent `i` awaits `q`. -/
structure Kept (i : ι) (q : LifecycleRequest ι) (s : Cluster ι) : Prop where
  uncut : s.Uncut
  running : (s.members i).running = starting q
  connected : reopening q = false → s.connected = true

/-- The agent was just started. -/
def Restarted (i : ι) (s : Cluster ι) : Prop :=
  (s.members i).running = true ∧
    ∀ topic ∈ (profile i).subscribed, (⟨topic, .created⟩ : Loop) ∈ (s.members i).loops

variable {T profile} {i : ι} {s : Cluster ι} {restarts : Bool}

omit [DecidableEq ι] in
/-- After a connect, the transport is connected. -/
theorem wp_connect (huncut : s.Uncut) (hrunning : (s.members i).running = true)
    (hconnected : s.connected = true ∨ T = .redis_streams) :
    (connect T).Wp (Kept i) (Harmless T restarts) (fun _ s =>
      s.Uncut ∧ (s.members i).running = true ∧ s.connected = true) s := by
  cases T with
  | in_memory =>
    have hopen : s.connected = true := hconnected.resolve_right nofun
    exact Co.wp_pure.mpr ⟨huncut, hrunning, hopen⟩
  | redis_streams =>
    apply Co.Wp.call_bind
    · exact ⟨huncut, hrunning, nofun⟩
    · intro e s₁ hkept hopen
      exact ⟨hkept.uncut, hkept.running, hopen⟩
    · intro _ s₁ hkept _
      exact Co.wp_update.mpr ⟨hkept.uncut, hkept.running, rfl⟩

/-- What `start` leaves behind. -/
def Launched (profile : ι → Profile) (i : ι) (r : Except Exc Unit) (s : Cluster ι) : Prop :=
  s.Uncut ∧ s.connected = true ∧ (r = .ok () → Restarted profile i s)

theorem Restarted.add_loops {n : Nat} (hrunning : (s.members i).running = true) :
    Restarted profile i ((s.add_background i n).add_loops i (profile i).subscribed) := by
  constructor
  · simpa [Cluster.add_loops, Cluster.add_background] using hrunning
  · intro topic htopic
    simp only [Cluster.add_loops, Cluster.add_background, Cluster.modify_self, List.mem_append, List.mem_map]
    exact .inr ⟨topic, htopic, rfl⟩

theorem Restarted.add_background {n : Nat} (h : Restarted profile i s) :
    Restarted profile i (s.add_background i n) := by
  constructor
  · simpa [Cluster.add_background] using h.1
  · intro topic htopic
    simpa [Cluster.add_background] using h.2 topic htopic

theorem wp_launch (huncut : s.Uncut) (hconnected : s.connected = true ∨ T = .redis_streams) :
    (launch T profile i).Wp (Kept i) (Harmless T restarts) (Launched profile i) s := by
  rw [launch, Co.wp_update_bind, Co.wp_bind]
  have hrunning : ((s.set_running i true).members i).running = true := by simp [Cluster.set_running]
  refine (wp_connect (huncut.set_running true) hrunning hconnected).mono ?_
  rintro (e | _) s₁ ⟨huncut, hrunning, hconnected⟩
  · exact ⟨huncut, hconnected, nofun⟩
  apply Co.Wp.call_bind
  · exact ⟨huncut, hrunning, fun _ => hconnected⟩
  · intro e s₂ hkept _
    exact ⟨hkept.uncut, hkept.connected rfl, nofun⟩
  intro _ s₂ hkept _
  apply Co.Wp.call_bind
  · exact ⟨hkept.uncut, hkept.running, hkept.connected⟩
  · intro e s₃ hkept _
    exact ⟨hkept.uncut, hkept.connected rfl, nofun⟩
  · intro _ s₃ hkept _
    exact Co.wp_update.mpr ⟨(hkept.uncut.add_background 2).add_loops _, hkept.connected rfl,
      fun _ => .add_loops hkept.running⟩

theorem Launched.schedule (h : Launched profile i (.ok ()) s) :
    Launched profile i (.ok ()) (if (profile i).scheduler then s.add_background i 1 else s) := by
  obtain ⟨huncut, hconnected, hrestarted⟩ := h
  split
  · exact ⟨huncut.add_background 1, hconnected, fun _ => (hrestarted rfl).add_background⟩
  · exact ⟨huncut, hconnected, hrestarted⟩

/-- After a start that is over, the transport is connected; if it raised nothing, the loops of the agent were
created. -/
theorem wp_start (huncut : s.Uncut) (hrunning : (s.members i).running = false)
    (hconnected : s.connected = true ∨ T = .redis_streams) :
    (start T profile i).Wp (Kept i) (Harmless T restarts) (Launched profile i) s := by
  rw [start, Co.wp_bind, start_agent, Co.wp_read_bind, hrunning]
  refine (wp_launch huncut hconnected).mono ?_
  rintro (e | _) s₁ hlaunched
  · exact ⟨hlaunched.1, hlaunched.2.1, nofun⟩
  · exact Co.wp_update.mpr hlaunched.schedule

/-- What `stop` leaves behind: the transport is closed only over Redis, and only if the agent starts again. -/
def Stopped (T : SharedTransport) (restarts : Bool) (i : ι) (r : Except Exc Unit) (s : Cluster ι) : Prop :=
  s.Uncut ∧ (s.members i).running = false ∧
    (s.connected = true ∨ T = .redis_streams ∧ restarts = true ∧ r ≠ .error .cancelled)

/-- The agent does not run, and the transport is open. -/
def Quiet (i : ι) (s : Cluster ι) : Prop :=
  s.Uncut ∧ (s.members i).running = false ∧ s.connected = true

omit [DecidableEq ι] in
/-- `stop` awaits `q` before it gets to `disconnect`. -/
theorem wp_call_quiet {q : LifecycleRequest ι} (hstop : starting q = false) (hopen : reopening q = false)
    (h : Quiet i s) : (Co.call q).Wp (Kept i) (Harmless T restarts) (fun _ => Quiet i) s := by
  obtain ⟨huncut, hrunning, hconnected⟩ := h
  rw [Co.wp_call]
  refine ⟨⟨huncut, hrunning.trans hstop.symm, fun _ => hconnected⟩, fun _ s₁ hkept _ => ?_⟩
  exact ⟨hkept.uncut, hkept.running.trans hstop, hkept.connected hopen⟩

omit [DecidableEq ι] in
theorem wp_wait_tasks {tasks : Nat} (h : Quiet i s) :
    (wait_tasks i tasks).Wp (Kept i) (Harmless T restarts) (fun _ => Quiet i) s := by
  rw [wait_tasks]
  split
  · exact Co.wp_raise.mpr h
  · exact wp_call_quiet rfl rfl h

omit [DecidableEq ι] in
theorem wp_gather_pending {pending : Bool} (h : Quiet i s) :
    (gather_pending i pending).Wp (Kept i) (Harmless T restarts) (fun _ => Quiet i) s := by
  rw [gather_pending]
  split
  · exact wp_call_quiet rfl rfl h
  · exact Co.wp_pure.mpr h

theorem wp_stop_tasks (huncut : s.Uncut) (hconnected : s.connected = true) :
    (stop_tasks i).Wp (Kept i) (Harmless T restarts) (fun _ => Quiet i) s := by
  have hquiet : Quiet i (s.set_running i false) :=
    ⟨huncut.set_running false, by simp [Cluster.set_running], hconnected⟩
  rw [stop_tasks, Co.wp_update_bind, Co.wp_bind]
  refine (wp_call_quiet rfl rfl hquiet).mono ?_
  rintro (e | _) s₁ hquiet
  · exact hquiet
  refine Co.wp_read_bind.mpr (Co.wp_bind.mpr ((wp_wait_tasks hquiet).mono ?_))
  rintro (e | pending) s₂ hquiet
  · exact hquiet
  refine Co.wp_bind.mpr ((wp_gather_pending hquiet).mono ?_)
  rintro (e | _) s₃ ⟨huncut, hrunning, hconnected⟩
  · exact ⟨huncut, hrunning, hconnected⟩
  · have hstopped : ((s₃.clear_tasks i).members i).running = false := by
      simpa [Cluster.clear_tasks] using hrunning
    exact Co.wp_update.mpr ⟨huncut.clear_tasks, hstopped, hconnected⟩

theorem wp_stop (huncut : s.Uncut) (hconnected : s.connected = true) :
    (stop T i).Wp (Kept i) (Harmless T restarts) (Stopped T restarts i) s := by
  rw [stop, Co.wp_bind]
  refine (wp_stop_tasks huncut hconnected).mono ?_
  rintro (e | _) s₁ ⟨huncut, hrunning, hconnected⟩
  · exact ⟨huncut, hrunning, .inl hconnected⟩
  apply Co.Wp.call_bind
  · exact ⟨huncut, hrunning, fun _ => hconnected⟩
  · intro e s₂ hkept _
    exact ⟨hkept.uncut, hkept.running, .inl (hkept.connected rfl)⟩
  rintro _ s₂ hkept rfl
  rw [disconnect, Co.wp_update_bind, Co.wp_call]
  refine ⟨⟨hkept.uncut, hkept.running, nofun⟩, ?_⟩
  intro r s₃ hkept hclosed
  exact ⟨hkept.uncut, hkept.running, hclosed.imp_right fun h => ⟨rfl, h⟩⟩

/-- What a call leaves behind. -/
def Done (profile : ι → Profile) (call : Lifecycle ι) (r : Except Exc Bool) (s : Cluster ι) :
    Prop :=
  s.Uncut ∧ s.connected = true ∧ (r = .ok true → Restarted profile call.agent s)

theorem wp_restart_agent (huncut : s.Uncut) (hconnected : s.connected = true) :
    (restart_agent T profile i).Wp (Kept i) (Harmless T true) (Done profile (.restart_agent i)) s := by
  have hstart : ∀ s : Cluster ι, s.Uncut → (s.members i).running = false →
      (s.connected = true ∨ T = .redis_streams) →
      (Co.tryExcept (do start T profile i; pure true) fun _ => pure false).Wp (Kept i) (Harmless T true)
        (Done profile (.restart_agent i)) s := by
    intro s huncut hrunning hconnected
    rw [Co.wp_tryExcept, Co.wp_bind]
    refine (wp_start huncut hrunning hconnected).mono ?_
    rintro ((text | _) | _) s₁ ⟨huncut, hconnected, hrestarted⟩
    · exact ⟨huncut, hconnected, nofun⟩
    · exact ⟨huncut, hconnected, nofun⟩
    · exact ⟨huncut, hconnected, fun _ => hrestarted rfl⟩
  rw [restart_agent, Co.wp_bind, Co.wp_tryExcept]
  refine (wp_stop huncut hconnected).mono ?_
  rintro ((text | _) | _) s₁ ⟨huncut, hrunning, hconnected⟩
  · exact hstart s₁ huncut hrunning (hconnected.imp_right And.left)
  · exact ⟨huncut, hconnected.resolve_right fun h => h.2.2 rfl, nofun⟩
  · exact hstart s₁ huncut hrunning (hconnected.imp_right And.left)

theorem wp_body {call : Lifecycle ι} (huncut : s.Uncut) (hconnected : s.connected = true) :
    (call.body T profile).Wp (Kept call.agent) (Harmless T call.restarts) (Done profile call) s := by
  cases call with
  | stop i =>
    rw [Lifecycle.body, Co.wp_bind]
    refine (wp_stop huncut hconnected).mono ?_
    rintro (e | _) s₁ ⟨huncut, hrunning, hconnected⟩
    · exact ⟨huncut, hconnected.resolve_right fun h => Bool.noConfusion h.2.1, nofun⟩
    · exact Co.wp_pure.mpr ⟨huncut, hconnected.resolve_right fun h => Bool.noConfusion h.2.1, nofun⟩
  | restart_agent i => exact wp_restart_agent huncut hconnected

/-! ## Runs -/

/-- The invariant of the undisturbed runs. -/
structure Inv (T : SharedTransport) (profile : ι → Profile) (S : System ι) : Prop where
  uncut : S.cluster.Uncut
  rest : S.call = none → S.cluster.connected = true
  going : ∀ p, S.call = some p → Kept p.call.agent p.req S.cluster ∧
    ∀ ans s, Kept p.call.agent p.req s → Harmless T p.call.restarts p.req ans s →
      (p.resume ans).Wp (Kept p.call.agent) (Harmless T p.call.restarts) (Done profile p.call) s
  again : ∀ i, S.returned = some (.restart_agent i, true) →
    S.cluster.connected = true ∧ Restarted profile i S.cluster

variable {S S' : System ι} {call : Lifecycle ι} {c : LifecycleCo ι Bool}

omit [DecidableEq ι] in
/-- A call that goes on keeps the invariant. -/
theorem inv_proceed
    (h : c.Wp (Kept call.agent) (Harmless T call.restarts) (Done profile call) s) :
    (proceed call s c).Inv T profile := by
  rcases h.settle with ⟨a, hc, huncut, hconnected, hdone⟩ | ⟨e, hc, huncut, hconnected, -⟩ |
      ⟨q, k, hc, hkept, hk⟩
  · have heq : proceed call s c = ⟨(c.settle s).1, none, some (call, a)⟩ := by
      rw [proceed, ← Prod.eta (c.settle s), hc]
    rw [heq]
    refine ⟨huncut, fun _ => hconnected, nofun, ?_⟩
    rintro i ⟨⟩
    exact ⟨hconnected, hdone rfl⟩
  · have heq : proceed call s c = ⟨(c.settle s).1, none, none⟩ := by
      rw [proceed, ← Prod.eta (c.settle s), hc]
    rw [heq]
    exact ⟨huncut, fun _ => hconnected, nofun, nofun⟩
  · have heq : proceed call s c = ⟨(c.settle s).1, some ⟨call, q, k⟩, none⟩ := by
      rw [proceed, ← Prod.eta (c.settle s), hc]
    rw [heq]
    refine ⟨hkept.uncut, nofun, ?_, nofun⟩
    rintro p ⟨⟩
    exact ⟨hkept, hk⟩

omit [DecidableEq ι] in
theorem uncut_started (i : ι) : (Member.started (profile i)).Uncut := by
  intro loop hloop
  obtain ⟨topic, -, rfl⟩ := List.mem_map.mp hloop
  exact nofun

omit [DecidableEq ι] in
theorem inv_started : (started profile).Inv T profile :=
  ⟨uncut_started, fun _ => rfl, nofun, nofun⟩

/-- What a loop does keeps what holds while a call awaits an answer. -/
theorem Kept.move {q : LifecycleRequest ι} {j : ι} {n : Nat} {m : Move} {s' : Cluster ι} (h : Kept i q s)
    (hmove : s.move T j n m = some s')
    (hspares : (s.members j).running = true → m.spares s.connected = true) : Kept i q s' where
  uncut := h.uncut.move hmove hspares
  running := (Cluster.move_running hmove).trans h.running
  connected hq := Cluster.move_connected hmove (h.connected hq)

/-- A step that disturbs nothing keeps the invariant. -/
theorem inv_step {l : LifecycleLabel ι} (h : S.Inv T profile) (hmeets : S.Undisturbed T l)
    (hstep : Step T profile S l S') : S'.Inv T profile := by
  cases l with
  | call call =>
    cases hcall : S.call with
    | some p => simp [Step, fire, hcall] at hstep
    | none =>
      simp only [Step, fire, hcall, Option.some.injEq] at hstep
      rw [← hstep]
      exact inv_proceed (wp_body h.uncut (h.rest hcall))
  | answer answer =>
    cases hcall : S.call with
    | none => simp [Step, fire, hcall] at hstep
    | some p =>
      simp only [Step, fire, hcall] at hstep
      split at hstep
      · rw [← Option.some.inj hstep]
        obtain ⟨hkept, hresume⟩ := h.going p hcall
        exact inv_proceed (hresume _ _ hkept (hmeets p hcall))
      · cases hstep
  | loop i n m =>
    obtain ⟨s', hmove, rfl⟩ := Option.map_eq_some_iff.mp hstep
    refine ⟨h.uncut.move hmove hmeets, fun hcall => ?_, fun p hcall => ?_, nofun⟩
    · exact Cluster.move_connected hmove (h.rest hcall)
    · obtain ⟨hkept, hresume⟩ := h.going p hcall
      exact ⟨hkept.move hmove hmeets, hresume⟩

theorem step_loop {s' : Cluster ι} {n : Nat} {m : Move} (h : S.cluster.move T i n m = some s') :
    Step T profile S (.loop i n m) { S with cluster := s', returned := none } := by
  rw [Step, fire, h, Option.map_some]

/-- The loops of an agent that was just started are handed messages, if the transport is connected. -/
theorem receives_of_restarted (hconnected : S.cluster.connected = true)
    (h : Restarted profile i S.cluster) :
    ∀ topic ∈ (profile i).subscribed, S.Receives T profile i topic := by
  intro topic htopic
  obtain ⟨hrunning, hloops⟩ := h
  obtain ⟨n, hn⟩ := List.mem_iff_getElem?.mp (hloops topic htopic)
  obtain ⟨s₁, hlook, hn₁⟩ : ∃ s₁, S.cluster.move T i n .look = some s₁ ∧
      (s₁.members i).loops[n]? = some ⟨topic, .waiting⟩ := by
    apply Cluster.exists_move hn
    simp [Phase.after, Phase.unless_closed, hconnected]
  obtain ⟨s₂, hdeliver, hn₂⟩ : ∃ s₂, s₁.move T i n .deliver = some s₂ ∧
      (s₂.members i).loops[n]? = some ⟨topic, .handling⟩ := by
    apply Cluster.exists_move hn₁
    simp [Phase.after, Cluster.move_running hlook, hrunning]
  refine ⟨n, _, _, .cons (step_loop hlook) (.cons (step_loop hdeliver) .start), ?_, hn₂⟩
  intro e he
  rcases List.mem_cons.mp he with rfl | he
  · exact ⟨.look, rfl⟩
  · exact ⟨.deliver, congrArg Prod.snd (List.mem_singleton.mp he)⟩

theorem Inv.independent (h : S.Inv T profile) : S.Independent T profile :=
  ⟨h.rest, h.uncut, fun i hi => receives_of_restarted (h.again i hi).1 (h.again i hi).2⟩

/-- **In a run in which nothing is disturbed, the agents are independent**: every call leaves the transport
connected and the loops of the agents that run alive, and an agent that was restarted receives messages
again. -/
theorem independent_of_undisturbed {steps : List (System ι × LifecycleLabel ι)}
    (h : Lts.Path (Step T profile) (started profile) steps S)
    (hmeets : Lts.AllMeet (fun S l => S.Undisturbed T l) steps) :
    Lts.Throughout (fun S => S.Independent T profile) steps S := by
  obtain ⟨hlast, hall⟩ := h.throughout_of_meets inv_started (fun _ _ _ => inv_step) hmeets
  exact ⟨hlast.independent, fun e he => (hall e he).independent⟩

/-- The transport is closed, and no loop of the agent has subscribed. -/
structure Deaf (i : ι) (s : Cluster ι) : Prop where
  closed : s.connected = false
  loops : ∀ loop ∈ (s.members i).loops, loop.phase = .created ∨ loop.phase.ended = true

theorem Deaf.move {n : Nat} {m : Move} {s' : Cluster ι} (h : Deaf i s) (hmove : s.move T i n m = some s') :
    Deaf i s' := by
  obtain ⟨loop, phase, hloop, hphase, hconnected, hmembers⟩ := Cluster.move_spec hmove
  have hafter : phase.ended = true ∧ m ≠ .reconnect := by
    rw [h.closed] at hphase
    rcases h.loops loop (List.mem_of_getElem? hloop) with hcreated | hended
    · rw [hcreated] at hphase
      cases m <;> simp [Phase.after, Phase.unless_closed, Phase.broken, Phase.ended] at hphase <;>
        grind [Phase.ended]
    · cases hloop : loop.phase <;> cases m <;> simp [Phase.after, Phase.ended, hloop] at hphase hended
  constructor
  · rw [hconnected, h.closed, Bool.false_or]
    exact decide_eq_false hafter.2
  · rw [hmembers, Cluster.modify_self]
    intro loop' hloop'
    rcases List.mem_or_eq_of_mem_set hloop' with hold | rfl
    · exact h.loops loop' hold
    · exact .inr hafter.1

/-- On a closed transport, the moves of an agent that was just started hand it nothing. -/
theorem not_receives {topic : String} (h : Deaf i S.cluster) : ¬ S.Receives T profile i topic := by
  rintro ⟨n, steps, S', hpath, hmoves, hhanded⟩
  have hdeaf : Lts.Throughout (fun S => Deaf i S.cluster) steps S' := by
    have hown : Lts.AllMeet (fun _ l => ∃ m, l = LifecycleLabel.loop i n m) steps := hmoves
    refine hpath.throughout_of_meets h ?_ hown
    rintro S _ S' hS ⟨m, rfl⟩ hstep
    obtain ⟨s', hmove, rfl⟩ := Option.map_eq_some_iff.mp hstep
    exact hS.move hmove
  rcases hdeaf.1.loops _ (List.mem_of_getElem? hhanded) with h | h
  · cases h
  · cases h

/-! ## Two agents -/

/-- Two agents that subscribe to the same topic. -/
def judges : Bool → Profile := fun _ => { agent_type := "judge", topics := [Topic.AGENT_JUDGE] }

/-- No await raises, and the tasks are still pending after five seconds. -/
def prompt : (q : LifecycleRequest Bool) → Except Exc q.Answer
  | .wait _ => .ok true
  | .publish _ _ _ | .gather _ | .on_start _ | .on_stop _ | .ping | .close => .ok ()

/-- The first agent is restarted, after the loop of the other one has looked at the transport. -/
def restarted_over_redis : List (LifecycleLabel Bool) :=
  [.loop true 0 .look, .call (.restart_agent false), .answer prompt, .answer prompt, .loop false 0 .cancel,
    .answer prompt, .answer prompt, .answer prompt, .answer prompt, .answer prompt, .answer prompt]

theorem independent_over_redis : ∃ steps S,
    Lts.Path (Step .redis_streams judges) (started judges) steps S ∧
      S.returned = some (.restart_agent false, true) ∧
      Lts.Throughout (fun S => S.Independent .redis_streams judges) steps S := by
  have hpath := Lts.path_trace (fire .redis_streams judges) (started judges) restarted_over_redis
    (by decide +kernel)
  exact ⟨_, _, hpath, by decide +kernel, independent_of_undisturbed hpath (by decide +kernel)⟩

/-- The same in memory; the loop of the other agent looks at the transport before the restart is complete. -/
def restarted_in_memory : List (LifecycleLabel Bool) :=
  [.call (.restart_agent false), .answer prompt, .answer prompt, .loop false 0 .cancel, .answer prompt,
    .answer prompt, .loop true 0 .look, .answer prompt, .answer prompt]

/-- The transport stays closed. The supervisor logs that the restart is complete, the loop of the other agent
has ended though it runs, and the restarted agent is handed nothing. -/
theorem deaf_in_memory : ∃ steps S,
    Lts.Path (Step .in_memory judges) (started judges) steps S ∧
      S.call.isNone ∧ S.returned = some (.restart_agent false, true) ∧ S.cluster.connected = false ∧
      (S.cluster.members true).running = true ∧
      (S.cluster.members true).loops = [⟨Topic.AGENT_JUDGE, .cut⟩] ∧
      ¬ S.Receives .in_memory judges false Topic.AGENT_JUDGE ∧
      ¬ Lts.Throughout (fun S => S.Independent .in_memory judges) steps S := by
  have hpath := Lts.path_trace (fire .in_memory judges) (started judges) restarted_in_memory
    (by decide +kernel)
  have hclosed : (Lts.exec (fire .in_memory judges) (started judges) restarted_in_memory).cluster.connected =
    false := by decide +kernel
  have hreturned : (Lts.exec (fire .in_memory judges) (started judges) restarted_in_memory).returned =
    some (.restart_agent false, true) := by decide +kernel
  have hdeaf : ¬ (Lts.exec (fire .in_memory judges) (started judges) restarted_in_memory).Receives
      .in_memory judges false Topic.AGENT_JUDGE :=
    not_receives ⟨hclosed, by decide +kernel⟩
  refine ⟨_, _, hpath, by decide +kernel, hreturned, hclosed, by decide +kernel, by decide +kernel, hdeaf,
    fun h => ?_⟩
  exact hdeaf (h.1.again false hreturned _ (.head _))

end System

end Aqap
