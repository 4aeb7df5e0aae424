import Aqap.Agent.Publications

/-!
# What reaches the server of an acknowledgement

The agent acknowledges a message through the transport if the transport attached an id to it. The three
transports attach different ids, and make different commands of an acknowledgement: Redis an `XACK`,
Kafka a commit of the offsets, RabbitMQ nothing.

* `Finished.ack_last`: what is left of an iteration whose message was handled and answered.
* `acked_iff_acknowledges`: whether a handled message is acknowledged to the server.
* `acknowledged_iff`: when every handled message of a run is: over Redis, as long as the agent holds its
  id.
-/

namespace Aqap

open Py Aqap.Core Async

/-! ## The transports -/

/-- The transports that acknowledge. -/
inductive Backend where
  | redis
  /-- The topics of `_consumers`. -/
  | kafka (consumers : List String)
  | rabbitmq

/-- What a transport asks its server to do. -/
inductive Command where
  | xack (stream group : String) (id : TransportId)
  | commit (topic : String)
  | basic_ack (delivery_tag : Int)

namespace Backend

/-- `Transport.ack` with an id. -/
def ack : Backend → String → TransportId → String → List Command
  | redis, topic, id, group => [.xack topic (if group != "" then group else "aqap-default") id]
  | kafka consumers, topic, _, _ => if consumers.contains topic then [.commit topic] else []
  | rabbitmq, _, _, _ => []

/-- What the transport attaches to a message as `_transport_msg_id`: the id of the entry, nothing, the
delivery tag. -/
def Attaches : Backend → Option TransportId → Prop
  | redis, msg_id => ∃ id, id ≠ "" ∧ msg_id = some (.id id)
  | kafka _, msg_id => msg_id = none
  | rabbitmq, msg_id => ∃ tag, 1 ≤ tag ∧ msg_id = some (.tag tag)

/-- The command acknowledges the delivery of a message with the id `msg_id` to `group`. -/
def AckOf : Backend → String → String → Option TransportId → Command → Prop
  | redis, topic, group, msg_id, command => ∃ id, msg_id = some id ∧ command = .xack topic group id
  | kafka _, topic, _, _, command => command = .commit topic
  | rabbitmq, _, _, msg_id, command => ∃ tag, msg_id = some (.tag tag) ∧ command = .basic_ack tag

/-- What comes of a request at the server. -/
def commands (T : Backend) : Request → List Command
  | .ack topic id group => T.ack topic id group
  | _ => []

/-- The agent holds an id that the transport attached, or none. -/
def Holding (T : Backend) (agent : Agent) (s : AgentState) : Prop :=
  T.Attaches s.last_msg_id ∧ s.last_group = agent.group

/-- What the other tasks of the agent do to the state: they receive messages of the transport. -/
def Others (T : Backend) (agent : Agent) (s s' : AgentState) : Prop :=
  (s'.last_msg_id = s.last_msg_id ∨ T.Attaches s'.last_msg_id) ∧
    (s'.last_group = s.last_group ∨ s'.last_group = agent.group)

/-- An iteration of the consume loop on a message of the transport; `elsewhere` are the acknowledgements
that the other iterations have requested by its end. -/
structure Iteration (T : Backend) (agent : Agent) where
  topic : String
  message : Message
  attached : T.Attaches message.transport_msg_id
  start : AgentState
  events : List AgentEvent
  final : AgentState
  result : Except Exc Bool
  run : Co.Run (T.Others agent) (agent.consume_one topic message) start events final result
  elsewhere : List (String × TransportId)
  elsewhere_attached : ∀ e ∈ elsewhere, T.Attaches (some e.2)

namespace Iteration

variable {T : Backend} {self : Agent}

/-- `handle_message` returned and the replies were published; the agent is in the state `s₁`. -/
def Finished (d : T.Iteration self) (s₁ : AgentState) : Prop :=
  ∃ s₀ tr₁ t₁ t₂, self.Processes d.topic d.message d.start d.events s₀ tr₁ ∧ tr₁ = t₁ ++ t₂ ∧
    Co.Run (fun _ _ => True) (self.attempt (self.opened d.message)) s₀ t₁ s₁ (.ok ())

/-- The requests of the agent, to the end of the iteration. -/
def requests (d : T.Iteration self) : List Request :=
  d.events.map (·.req) ++ d.elsewhere.map fun e => .ack e.1 e.2 self.group

/-- The server was asked to acknowledge the message. -/
def Acked (d : T.Iteration self) : Prop :=
  ∃ command ∈ d.requests.flatMap T.commands,
    T.AckOf d.topic self.group d.message.transport_msg_id command

/-- The transport is Redis, the group has a name, and the agent holds the id of the message in the state
`s₁`, or another iteration has acknowledged it. -/
def Acknowledges (d : T.Iteration self) (s₁ : AgentState) : Prop :=
  T = .redis ∧ self.group ≠ "" ∧ (s₁.last_msg_id = d.message.transport_msg_id ∨
    ∃ id, d.message.transport_msg_id = some id ∧ (d.topic, id) ∈ d.elsewhere)

/-! ## Runs of an iteration -/

variable {d : T.Iteration self} {s₁ : AgentState}

theorem holding_of_others (s s' : AgentState) (h : T.Others self s s') (hs : T.Holding self s) :
    T.Holding self s' := by
  obtain ⟨hid, hgroup⟩ := h
  constructor
  · rcases hid with heq | hattached
    · rw [heq]
      exact hs.1
    · exact hattached
  · rcases hgroup with heq | heq
    · exact heq.trans hs.2
    · exact heq

/-- An attempt does not change what the agent holds. -/
theorem guarded_attempt_holding (m : Message) :
    Co.Guarded (T.Holding self) (fun _ _ => True) (Agent.OfAttempt m) (self.attempt m) := by
  refine Agent.guarded_attempt (.of_forall ?_ ?_ ?_)
  all_goals exact fun _ _ h => h

/-- `_process_one` starts with what the agent held when the message was admitted. -/
theorem holding_of_processes {topic : String} {m : Message} {s s' s₀ : AgentState}
    {tr tr₁ : List AgentEvent} {r : Except Exc Bool} (hattached : T.Attaches m.transport_msg_id)
    (hp : self.Processes topic m s tr s₀ tr₁)
    (h : Co.Run (T.Others self) (self.consume_one topic m) s tr s' r) :
    T.Holding self s₀ ∧ ∃ pre, tr = pre ++ tr₁ ∧ ∀ ev ∈ pre, Agent.NoAck ev.req := by
  obtain ⟨k, hadm, hentered⟩ := hp
  obtain ⟨r₁, -, hsem⟩ := (Agent.run_consume_one h).of_admitted hadm
  have hholding : T.Holding self (self.admitted_state topic m k s) := ⟨hattached, rfl⟩
  cases hentered with
  | free => exact ⟨hholding, [], rfl, List.forall_mem_nil _⟩
  | acquired hacquired =>
    rcases Agent.run_with_sem hsem with ⟨hfree, -⟩ | ⟨-, ans, st, rest, heq, hothers, -⟩
    · cases hacquired.symm.trans hfree
    obtain ⟨hev, rfl⟩ := List.cons.inj heq
    cases hev
    exact ⟨holding_of_others _ _ hothers hholding, [_], rfl, List.forall_mem_singleton.mpr trivial⟩

/-- **What is left of an iteration whose message was handled and answered**: the agent acknowledges the id
that it holds. -/
theorem Finished.ack_last (h : d.Finished s₁) :
    T.Holding self s₁ ∧ ∃ pre t₂ r, d.events = pre ++ t₂ ∧ (∀ ev ∈ pre, Agent.NoAck ev.req) ∧
      Co.Run (T.Others self) (Agent.ack_last d.topic) s₁ t₂ d.final r := by
  obtain ⟨s₀, tr₁, t₁, t₂, hp, htr, hattempt⟩ := h
  obtain ⟨hholding, pre, hevents, hpre⟩ := holding_of_processes d.attached hp d.run
  obtain ⟨r, hone⟩ := hp.run d.run
  -- The attempt of this run ended as the one that finished.
  have hunique : ∀ {t s r u}, Co.Run (T.Others self) (self.attempt (self.opened d.message)) s₀ t s r →
      tr₁ = t ++ u → t₁ = t ∧ s₁ = s ∧ Except.ok () = r := fun ha heq =>
    hattempt.unique ha (htr.symm.trans heq)
  generalize d.final = final at hone ⊢
  cases Agent.run_process_one hone with
  | @handled t u s _ r ha hf =>
    obtain ⟨rfl, rfl, -⟩ := hunique ha rfl
    obtain ⟨hheld, hatt⟩ := (guarded_attempt_holding _).run holding_of_others hholding ha
    refine ⟨hheld, pre ++ t₁, u, r, by rw [hevents, List.append_assoc], fun ev hev => ?_, hf⟩
    rcases List.mem_append.mp hev with hev | hev
    · exact hpre ev hev
    · exact (hatt ev hev).1.noAck
  | cancelled ha hf =>
    obtain ⟨-, -, ⟨⟩⟩ := hunique ha rfl
  | retried ha _ =>
    obtain ⟨-, -, ⟨⟩⟩ := hunique ha (List.append_nil _).symm
  | exhausted ha _ _ _ =>
    obtain ⟨-, -, ⟨⟩⟩ := hunique ha rfl

/-! ## What is acknowledged -/

/-- The acknowledgements among the requests: that of the id that the agent holds, if there is one, and those
of the other iterations. -/
theorem Finished.ack_mem_iff (h : d.Finished s₁) {topic : String} {id : TransportId} {group : String} :
    Request.ack topic id group ∈ d.requests ↔ group = self.group ∧
      (topic = d.topic ∧ s₁.ack_id = some id ∨ (topic, id) ∈ d.elsewhere) := by
  obtain ⟨hheld, pre, t₂, r, hevents, hpre, hf⟩ := h.ack_last
  have hown : Request.ack topic id group ∈ d.events.map (·.req) ↔
      group = self.group ∧ topic = d.topic ∧ s₁.ack_id = some id := by
    rw [hevents, List.map_append, List.mem_append]
    have hnone : Request.ack topic id group ∉ pre.map (·.req) := by
      intro hmem
      obtain ⟨ev, hev, hreq⟩ := List.mem_map.mp hmem
      have hno := hpre ev hev
      rw [hreq] at hno
      exact hno
    rw [or_iff_right hnone]
    rcases Agent.run_ack_last hf with ⟨id', hid, rfl, -⟩ | ⟨hid, rfl, -, -⟩
    · rw [hid, List.map_singleton, List.mem_singleton, hheld.2]
      grind
    · rw [hid]
      simp
  have helse : Request.ack topic id group ∈ d.elsewhere.map (fun e => Request.ack e.1 e.2 self.group) ↔
      group = self.group ∧ (topic, id) ∈ d.elsewhere := by
    grind
  rw [Iteration.requests, List.mem_append, hown, helse, ← and_or_left]

/-- Every id that is acknowledged was attached by the transport. -/
theorem Finished.attached (h : d.Finished s₁) {topic : String} {id : TransportId} {group : String}
    (hmem : Request.ack topic id group ∈ d.requests) : T.Attaches (some id) := by
  rcases (h.ack_mem_iff.mp hmem).2 with ⟨-, hid⟩ | helse
  · rw [← (Option.filter_eq_some_iff.mp hid).1]
    exact h.ack_last.1.1
  · exact d.elsewhere_attached _ helse

/-- A command comes from the acknowledgement of an id that the transport attached. -/
theorem Finished.command (h : d.Finished s₁) {command : Command}
    (hmem : command ∈ d.requests.flatMap T.commands) : ∃ topic id,
      T.Attaches (some id) ∧ Request.ack topic id self.group ∈ d.requests ∧
        command ∈ T.ack topic id self.group := by
  obtain ⟨q, hq, hcommand⟩ := List.mem_flatMap.mp hmem
  cases q with
  | ack topic id group =>
    obtain rfl := (h.ack_mem_iff.mp hq).1
    exact ⟨topic, id, h.attached hq, hq, hcommand⟩
  | _ => cases hcommand

/-- The `XACK` goes to the group that the entry was read for if the group has a name. -/
theorem mem_ack_redis {topic group stream : String} {id id' : TransportId} :
    Command.xack stream group id' ∈ Backend.redis.ack topic id group ↔
      stream = topic ∧ group ≠ "" ∧ id' = id := by
  rw [Backend.ack, List.mem_singleton, Command.xack.injEq]
  by_cases hgroup : group = ""
  · subst hgroup
    simp
  · simp [hgroup]

/-- **Whether a handled message is acknowledged to the server.** -/
theorem acked_iff_acknowledges (h : d.Finished s₁) : d.Acked ↔ d.Acknowledges s₁ := by
  constructor
  · rintro ⟨command, hmem, hof⟩
    obtain ⟨topic, id, hattached, hack, hcommand⟩ := h.command hmem
    cases T with
    | redis =>
      obtain ⟨id', hid', rfl⟩ := hof
      obtain ⟨rfl, hgroup, rfl⟩ := mem_ack_redis.mp hcommand
      refine ⟨rfl, hgroup, ?_⟩
      rcases (h.ack_mem_iff.mp hack).2 with ⟨-, hid⟩ | helse
      · exact .inl ((Option.filter_eq_some_iff.mp hid).1.trans hid'.symm)
      · exact .inr ⟨_, hid', helse⟩
    | kafka consumers => cases hattached
    | rabbitmq => cases hcommand
  · rintro ⟨rfl, hgroup, hheld⟩
    -- The request is an `XACK` of the id of the message.
    have hacked : ∀ id, d.message.transport_msg_id = some id →
        Request.ack d.topic id self.group ∈ d.requests → d.Acked := by
      intro id hid hack
      refine ⟨.xack d.topic self.group id, List.mem_flatMap.mpr ⟨_, hack, ?_⟩, id, hid, rfl⟩
      exact mem_ack_redis.mpr ⟨rfl, hgroup, rfl⟩
    rcases hheld with hheld | ⟨id, hid, helse⟩
    · obtain ⟨id, hne, hid⟩ := d.attached
      have hlast : s₁.ack_id = some (.id id) := by
        unfold AgentState.ack_id
        rw [hheld, hid]
        simpa [Option.filter, TransportId.truthy] using hne
      exact hacked _ hid (h.ack_mem_iff.mpr ⟨rfl, .inl ⟨rfl, hlast⟩⟩)
    · exact hacked id hid (h.ack_mem_iff.mpr ⟨rfl, .inr helse⟩)

end Iteration

/-! ## Runs of an agent -/

/-- Every message of the run that was handled and answered is acknowledged to the server. -/
def Acknowledged {T : Backend} {self : Agent} (run : List (T.Iteration self)) : Prop :=
  ∀ d ∈ run, ∀ s₁, d.Finished s₁ → d.Acked

/-- **When every handled message is acknowledged to the server.** -/
theorem acknowledged_iff {T : Backend} {self : Agent} (run : List (T.Iteration self)) :
    Acknowledged run ↔ ∀ d ∈ run, ∀ s₁, d.Finished s₁ → d.Acknowledges s₁ := by
  refine forall₂_congr fun d _ => forall₂_congr fun s₁ hfin => ?_
  exact Iteration.acked_iff_acknowledges hfin

/-- **Over Kafka and RabbitMQ no handled message is acknowledged.** -/
theorem not_acked {T : Backend} {self : Agent} {d : T.Iteration self} {s₁ : AgentState}
    (h : d.Finished s₁) (hT : T ≠ .redis) : ¬ d.Acked := fun hacked =>
  hT ((Iteration.acked_iff_acknowledges h).mp hacked).1

/-! ## Messages that are never acknowledged -/

/-- An iteration in which every await is answered at once, and no other task does anything. -/
def Iteration.exec {T : Backend} {self : Agent} (topic : String) (message : Message)
    (attached : T.Attaches message.transport_msg_id) (start : AgentState)
    (answer : (q : Request) → Except Exc q.Answer) : T.Iteration self where
  topic
  message
  attached
  start
  events := ((self.consume_one topic message).exec answer start).1
  final := ((self.consume_one topic message).exec answer start).2.1
  result := ((self.consume_one topic message).exec answer start).2.2
  run := Co.run_exec (fun _ => ⟨.inl rfl, .inl rfl⟩) answer _ _
  elsewhere := []
  elsewhere_attached := List.forall_mem_nil _

/-- The iteration on `sample_task` with the id `msg_id`, which is handled without replies. -/
def sample_iteration (T : Backend) (msg_id : Option TransportId) (attached : T.Attaches msg_id) :
    T.Iteration (sample_agent 3) :=
  .exec Topic.AGENT_PROBE { sample_task with transport_msg_id := msg_id } attached
    (AgentState.started 0) (sample_answer (.ok none))

theorem admitted_sample (msg_id : Option TransportId) : (sample_agent 3).Admitted
    { sample_task with transport_msg_id := msg_id } (.str "0011223344556677") (AgentState.started 0) :=
  ⟨rfl, rfl, rfl, rfl, rfl, fun h => nomatch h⟩

/-- A message of Kafka is handled, and its offset is not committed. -/
theorem uncommitted : ¬ ∀ (T : Backend) (self : Agent) (run : List (T.Iteration self)),
    Acknowledged run := by
  intro h
  have hfin : ∃ s₁, (sample_iteration (.kafka [Topic.AGENT_PROBE]) none rfl).Finished s₁ := by
    refine ⟨_, _, _, _, [], ⟨_, admitted_sample none, .free rfl⟩, ?_,
      Co.run_exec (fun _ => trivial) (sample_answer (.ok none)) _ _⟩
    rfl
  obtain ⟨s₁, hfin⟩ := hfin
  exact not_acked hfin (fun h => nomatch h) (h _ _ [_] _ List.mem_cons_self s₁ hfin)

/-- A message of RabbitMQ is handled, the agent calls `ack`, and the delivery is not acknowledged. -/
theorem not_basic_acked : ∃ (d : Backend.rabbitmq.Iteration (sample_agent 3)) (s₁ : AgentState),
    d.Finished s₁ ∧ (∃ id, Request.ack d.topic id (sample_agent 3).group ∈ d.requests) ∧ ¬ d.Acked := by
  have hattached : Backend.rabbitmq.Attaches (some (.tag 1)) := ⟨1, by decide, rfl⟩
  have hfin : ∃ s₁, (sample_iteration .rabbitmq (some (.tag 1)) hattached).Finished s₁ ∧
      s₁.ack_id = some (.tag 1) := by
    refine ⟨_, ⟨_, _, _, [⟨.ack Topic.AGENT_PROBE (.tag 1) "aqap-default", .ok (),
      (sample_iteration .rabbitmq _ hattached).final⟩], ⟨_, admitted_sample _, .free rfl⟩, ?_,
      Co.run_exec (fun _ => trivial) (sample_answer (.ok none)) _ _⟩, rfl⟩
    rfl
  obtain ⟨s₁, hfin, hid⟩ := hfin
  refine ⟨_, s₁, hfin, ⟨_, hfin.ack_mem_iff.mpr ⟨rfl, .inl ⟨rfl, hid⟩⟩⟩, ?_⟩
  exact not_acked hfin fun h => nomatch h

end Backend

end Aqap
