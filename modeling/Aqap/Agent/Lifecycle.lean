import Aqap.Agent.Base
import Aqap.Async.Wp
import Mathlib.Logic.Function.Basic

/-!
# Agents that start, stop and restart on a transport that they share

`Cluster` is what the agents of an engine have in common: the run flag of the transport, and for each agent
whether it runs, and its tasks. `stop`, `start` and `restart_agent` are coroutines on it. A subscription loop
is a task that `start` creates for a topic; it looks at the flag of the transport and, when it is handed a
message, at the one of its agent (`Phase.after`).

* `Phase.after_cut`: a loop ends though its agent runs only by a move that does not spare it.
* `Cluster.move_spec`: what a move of a loop changes.
-/

namespace Aqap

open Py Aqap.Core Async

/-- What an agent tells the system about itself. -/
inductive Announcement where
  /-- `start`, with the type of the agent -/
  | register (agent_type : String)
  /-- `stop` -/
  | shutdown
  /-- `_heartbeat_loop` -/
  | heartbeat

/-- The message that the agent publishes on `SYSTEM_EVENTS`. -/
def Announcement.message (agent_id : String) (fresh : Fresh) : Announcement → Message
  | register agent_type =>
    Message.new fresh .REGISTER (.str agent_id) [("agent_type", .str agent_type)]
  | shutdown => Message.new fresh .SHUTDOWN (.str agent_id) []
  | heartbeat => Core.heartbeat fresh agent_id

/-- What `start` reads of an agent that the engine created. -/
structure Profile where
  agent_type : String
  topics : List String
  /-- It is a `SchedulerAgent`, which sets `_skip_consume`. -/
  scheduler : Bool := false

/-- The topics of which it creates a subscription loop. -/
def Profile.subscribed (p : Profile) : List String := if p.scheduler then [] else p.topics

/-- The transports that agents can share. -/
inductive SharedTransport where
  | in_memory
  | redis_streams
  deriving DecidableEq

/-! ## The subscription loops -/

/-- Where `_consume_loop` is. -/
inductive Phase where
  /-- its task was created -/
  | created
  /-- it waits for a message: in `q.get()`, in `xreadgroup` -/
  | waiting
  /-- it was handed a message -/
  | handling
  /-- `xreadgroup` raised, and it waits before it connects again -/
  | retrying
  /-- it has ended though its agent ran: its subscription ended, or an exception came out of it -/
  | cut
  /-- it has ended: its agent did not run -/
  | left
  /-- it has ended with an exception or a cancellation, and its agent did not run -/
  | raised
  deriving DecidableEq

/-- The loop does not run any more. -/
def Phase.ended : Phase → Bool
  | cut | left | raised => true
  | _ => false

/-- What a loop does next. -/
inductive Move where
  /-- `while self._running`, of the transport -/
  | look
  /-- the subscription yields a message -/
  | deliver
  /-- `xreadgroup` raises -/
  | fail
  /-- `await self.connect()`, after a ping that was not answered -/
  | reconnect
  /-- that `connect` raises -/
  | unreachable
  /-- an await of the body that stands in no `try` raises: the `ack` in `finally`, the publication of a dead
  letter or of an ERROR -/
  | raise
  | cancel
  deriving DecidableEq

/-- The move ends no loop of an agent that runs: it does not look at a closed transport, and what it awaits
raises nothing, which the `close` of another agent may cause. -/
def Move.spares (connected : Bool) : Move → Bool
  | look | fail => connected
  | deliver | reconnect => true
  | unreachable | raise | cancel => false

/-- The loop goes on to `next`, if the transport is connected. -/
def Phase.unless_closed (connected running : Bool) (next : Phase) : Phase :=
  if connected then next else if running then cut else left

/-- An exception, or a cancellation, comes out of the loop. -/
def Phase.broken (running : Bool) : Phase := if running then cut else raised

/-- The loop of an agent that runs or does not, on a transport that is connected or is not. Over Redis, the
messages of one answer are yielded without a look at the flag. -/
def Phase.after (T : SharedTransport) (connected running : Bool) : Phase → Move → Option Phase
  | created, .look | waiting, .look | handling, .look | retrying, .look =>
    some (unless_closed connected running waiting)
  | waiting, .deliver => some (if running then handling else left)
  | handling, .deliver => if T = .redis_streams then some (if running then handling else left) else none
  | waiting, .fail => if T = .redis_streams then some (unless_closed connected running retrying) else none
  | retrying, .reconnect => some waiting
  | retrying, .unreachable | handling, .raise => some (broken running)
  | phase, .cancel => if phase.ended then none else some (broken running)
  | _, _ => none

/-- A loop is cut only if its agent runs, and by a move that does not spare it. -/
theorem Phase.after_cut {T : SharedTransport} {connected running : Bool} {phase : Phase} {m : Move}
    (h : phase.after T connected running m = some .cut) :
    running = true ∧ m.spares connected = false := by
  cases phase <;> cases m <;> cases connected <;> cases running <;> cases T <;>
    simp_all [Phase.after, unless_closed, broken, Phase.ended, Move.spares]

/-- The task of a subscription loop. -/
structure Loop where
  topic : String
  phase : Phase
  deriving DecidableEq

/-! ## The agents -/

/-- What changes of an agent in its life. -/
structure Member where
  running : Bool
  /-- The other tasks in `_tasks`. -/
  background : Nat
  loops : List Loop

/-- No loop of it has ended though it ran. -/
def Member.Uncut (m : Member) : Prop := ∀ loop ∈ m.loops, loop.phase ≠ .cut

/-- An agent that was started. -/
def Member.started (p : Profile) : Member where
  running := true
  background := if p.scheduler then 3 else 2
  loops := p.subscribed.map (Loop.mk · .created)

/-- The transport and the agents that share it. -/
structure Cluster (ι : Type) where
  /-- `_running` of the transport -/
  connected : Bool
  members : ι → Member

/-- What a lifecycle call awaits. -/
inductive LifecycleRequest (ι : Type) where
  /-- `_transport.publish(topic, …)` -/
  | publish (topic : String) (i : ι) (announcement : Announcement)
  /-- `asyncio.wait(list(self._tasks), timeout=5)` -/
  | wait (i : ι)
  /-- `asyncio.gather(*pending_, return_exceptions=True)` -/
  | gather (i : ι)
  | on_start (i : ι)
  | on_stop (i : ι)
  /-- `_redis.ping()` -/
  | ping
  /-- `_redis.close()` -/
  | close

/-- What an await returns; of the tasks that `asyncio.wait` returns, whether some are pending. -/
@[reducible] def LifecycleRequest.Answer {ι : Type} : LifecycleRequest ι → Type
  | wait _ => Bool
  | _ => Unit

/-- A method of an agent or of the supervisor. -/
abbrev LifecycleCo (ι α : Type) := Co (Cluster ι) (LifecycleRequest ι) LifecycleRequest.Answer α

namespace Cluster

variable {ι : Type} [DecidableEq ι]

/-- Change an agent. -/
def modify (s : Cluster ι) (i : ι) (f : Member → Member) : Cluster ι :=
  { s with members := Function.update s.members i (f (s.members i)) }

/-- `self._running = running`, of an agent -/
def set_running (s : Cluster ι) (i : ι) (running : Bool) : Cluster ι :=
  s.modify i fun m => { m with running }

/-- `self._tasks.clear()` -/
def clear_tasks (s : Cluster ι) (i : ι) : Cluster ι :=
  s.modify i fun m => { m with background := 0, loops := [] }

/-- `self._tasks.append(…)`, for `n` tasks that are not subscription loops. -/
def add_background (s : Cluster ι) (i : ι) (n : Nat) : Cluster ι :=
  s.modify i fun m => { m with background := m.background + n }

/-- `self._tasks.append(…)`, for the loops of the topics. -/
def add_loops (s : Cluster ι) (i : ι) (topics : List String) : Cluster ι :=
  s.modify i fun m => { m with loops := m.loops ++ topics.map (Loop.mk · .created) }

/-- How many tasks the agent has. -/
def tasks (s : Cluster ι) (i : ι) : Nat := (s.members i).background + (s.members i).loops.length

/-- A loop moves, if it can. -/
def move (T : SharedTransport) (s : Cluster ι) (i : ι) (n : Nat) (m : Move) : Option (Cluster ι) := do
  let loop ← (s.members i).loops[n]?
  let phase ← loop.phase.after T s.connected (s.members i).running m
  let s' := s.modify i fun agent => { agent with loops := agent.loops.set n ⟨loop.topic, phase⟩ }
  some (if m = .reconnect then { s' with connected := true } else s')

/-! ### What changes -/

variable {T : SharedTransport} {s s' : Cluster ι} {i j : ι} {n : Nat} {m : Move} {f : Member → Member}

@[simp] theorem modify_connected : (s.modify i f).connected = s.connected := rfl

@[simp] theorem modify_self : (s.modify i f).members i = f (s.members i) := Function.update_self ..

theorem modify_of_ne (h : j ≠ i) : (s.modify i f).members j = s.members j := Function.update_of_ne h ..

/-- A property of all agents, after a change of one. -/
theorem forall_modify {P : Member → Prop} (h : ∀ j, P (s.members j)) (hi : P (f (s.members i))) :
    ∀ j, P ((s.modify i f).members j) := by
  intro j
  by_cases hj : j = i
  · rw [hj, modify_self]
    exact hi
  · rw [modify_of_ne hj]
    exact h j

/-- No loop of an agent has ended though the agent ran. -/
def Uncut (s : Cluster ι) : Prop := ∀ i, (s.members i).Uncut

theorem Uncut.set_running (h : s.Uncut) (running : Bool) : (s.set_running i running).Uncut := by
  apply forall_modify h
  exact h i

theorem Uncut.clear_tasks (h : s.Uncut) : (s.clear_tasks i).Uncut := by
  apply forall_modify h
  exact List.forall_mem_nil _

theorem Uncut.add_background (h : s.Uncut) (n : Nat) : (s.add_background i n).Uncut := by
  apply forall_modify h
  exact h i

theorem Uncut.add_loops (h : s.Uncut) (topics : List String) : (s.add_loops i topics).Uncut := by
  apply forall_modify h
  intro loop hloop
  rcases List.mem_append.mp hloop with hold | hnew
  · exact h i loop hold
  · obtain ⟨topic, -, rfl⟩ := List.mem_map.mp hnew
    exact nofun

/-- A move of a loop changes its phase, and it may connect the transport. -/
theorem move_spec (h : s.move T i n m = some s') :
    ∃ loop phase, (s.members i).loops[n]? = some loop ∧
      loop.phase.after T s.connected (s.members i).running m = some phase ∧
      s'.connected = (s.connected || decide (m = .reconnect)) ∧ s'.members =
        (s.modify i fun agent => { agent with loops := agent.loops.set n ⟨loop.topic, phase⟩ }).members := by
  obtain ⟨loop, hloop, h⟩ := Option.bind_eq_some_iff.mp h
  obtain ⟨phase, hphase, h⟩ := Option.bind_eq_some_iff.mp h
  refine ⟨loop, phase, hloop, hphase, ?_⟩
  rw [← Option.some.inj h]
  by_cases hm : m = .reconnect <;> simp [hm]

/-- A move that spares the loops of the agents that run cuts none. -/
theorem Uncut.move (h : s.Uncut) (hmove : s.move T i n m = some s')
    (hspares : (s.members i).running = true → m.spares s.connected = true) : s'.Uncut := by
  obtain ⟨loop, phase, -, hphase, -, hmembers⟩ := move_spec hmove
  show ∀ j, (s'.members j).Uncut
  rw [hmembers]
  apply forall_modify h
  intro loop' hloop'
  rcases List.mem_or_eq_of_mem_set hloop' with hold | rfl
  · exact h i loop' hold
  · rintro rfl
    obtain ⟨hrunning, hcuts⟩ := Phase.after_cut hphase
    rw [hspares hrunning] at hcuts
    cases hcuts

theorem move_running (hmove : s.move T i n m = some s') :
    (s'.members j).running = (s.members j).running := by
  obtain ⟨loop, phase, -, -, -, hmembers⟩ := move_spec hmove
  rw [hmembers]
  by_cases hj : j = i
  · rw [hj, modify_self]
  · rw [modify_of_ne hj]

theorem move_connected (hmove : s.move T i n m = some s') (h : s.connected = true) :
    s'.connected = true := by
  obtain ⟨loop, phase, -, -, hconnected, -⟩ := move_spec hmove
  rw [hconnected, h, Bool.true_or]

/-- A loop that can move moves. -/
theorem exists_move {loop : Loop} {phase : Phase} (hloop : (s.members i).loops[n]? = some loop)
    (hphase : loop.phase.after T s.connected (s.members i).running m = some phase) :
    ∃ s', s.move T i n m = some s' ∧ (s'.members i).loops[n]? = some ⟨loop.topic, phase⟩ := by
  have hlt : n < (s.members i).loops.length := (List.getElem?_eq_some_iff.mp hloop).1
  simp only [move, hloop, hphase, Option.bind_eq_bind, Option.bind_some]
  refine ⟨_, rfl, ?_⟩
  by_cases hm : m = .reconnect <;> simp [hm, hlt]

end Cluster

/-! ## The calls -/

section

variable {ι : Type} [DecidableEq ι] (T : SharedTransport) (profile : ι → Profile) (i : ι)

/-- `Transport.connect` -/
def connect : LifecycleCo ι Unit :=
  match T with
  | .in_memory => pure ()
  | .redis_streams => do
    Co.call (LifecycleRequest.ping : LifecycleRequest ι)
    Co.update fun s => { s with connected := true }

/-- `Transport.disconnect` -/
def disconnect : LifecycleCo ι Unit := do
  Co.update fun s => { s with connected := false }
  match T with
  | .in_memory => pure ()
  | .redis_streams => Co.call (LifecycleRequest.close : LifecycleRequest ι)

/-- `Agent.start`, of an agent that does not run. -/
def launch : LifecycleCo ι Unit := do
  Co.update fun s => s.set_running i true
  connect T
  Co.call (LifecycleRequest.on_start i)
  Co.call (LifecycleRequest.publish Topic.SYSTEM_EVENTS i (.register (profile i).agent_type))
  Co.update fun s => (s.add_background i 2).add_loops i (profile i).subscribed

/-- `Agent.start` -/
def start_agent : LifecycleCo ι Unit := do
  let running ← Co.read fun s => (s.members i).running
  if running then pure () else launch T profile i

/-- `start`, also of a `SchedulerAgent`. -/
def start : LifecycleCo ι Unit := do
  start_agent T profile i
  Co.update fun s => if (profile i).scheduler then s.add_background i 1 else s

/-- `await asyncio.wait(…)`; the result says whether there are pending tasks. -/
def wait_tasks (tasks : Nat) : LifecycleCo ι Bool :=
  if tasks = 0 then Co.raise (.error "Set of Tasks/Futures is empty.")
  else Co.call (LifecycleRequest.wait i)

/-- `await asyncio.gather(…)`, if there are pending tasks. -/
def gather_pending (pending : Bool) : LifecycleCo ι Unit :=
  if pending then Co.call (LifecycleRequest.gather i) else pure ()

/-- `Agent.stop`, up to the end of the tasks. -/
def stop_tasks : LifecycleCo ι Unit := do
  Co.update fun s => s.set_running i false
  Co.call (LifecycleRequest.publish Topic.SYSTEM_EVENTS i .shutdown)
  let tasks ← Co.read fun s => s.tasks i
  let pending ← wait_tasks i tasks
  gather_pending i pending
  Co.update fun s => s.clear_tasks i

/-- `Agent.stop` -/
def stop : LifecycleCo ι Unit := do
  stop_tasks i
  Co.call (LifecycleRequest.on_stop i)
  disconnect T

/-- `AgentSupervisor.restart_agent`; the result says whether it logs that the restart is complete. -/
def restart_agent : LifecycleCo ι Bool := do
  (stop T i).tryExcept fun _ => pure ()
  Co.tryExcept (do start T profile i; pure true) fun _ => pure false

end

end Aqap
