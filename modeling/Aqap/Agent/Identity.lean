import Aqap.Agent.Flow
import Aqap.Agent.Lifecycle
import Aqap.Agent.Replay

/-!
# Who sent a message

Every message of an agent should have the id of the agent as its source. `Message.reply` takes the target
of the message that it answers, or its source when it has no target: the JUDGE_REQUEST of a Probe and the
REPORT_REQUEST of a Judge have the right source only if the message was addressed to the agent.

* `issued_source`: the source of what a step of one of the three agents publishes.
* `identified_iff`: when everything that an agent publishes has its id as the source.
* `senderIdentity_iff`: when this holds of a run, and an agent drops as its own echo only what it has
  published.
-/

namespace Aqap

open Py Aqap.Core Async

/-! ## The other agents that publish -/

/-- The consumer of the dead letters, as an agent. -/
structure DeadLetterAgent extends Agent where
  consumer : DLQConsumerAgent

/-- It answers nothing; its index is not a part of `AgentState`. -/
def DeadLetterAgent.handle_message (self : DeadLetterAgent) : Handler := fun message => do
  let letter ← Co.read fun s =>
    DLQConsumerAgent.dead_letter message (self.consumer.rt.isoformat s.clock) s.clock
  let _ ← Co.lift letter
  pure none

/-- A run of `replay`; `others` is what the other tasks may do to the index at its awaits. -/
structure DeadLetterAgent.Replay (agent : DeadLetterAgent) where
  message_id : Option String
  trace_id : Option String
  others : DlqState → DlqState → Prop
  start : DlqState
  events : List (Event DlqState DlqPublish fun _ => Unit)
  final : DlqState
  result : Except Exc Nat
  run : Co.Run others (agent.consumer.replay message_id trace_id) start events final result

/-- The scheduler with the topics and the payloads of its schedule. -/
structure SchedulerAgent extends Agent where
  schedule : List (String × List (String × Json))

/-- The task that the `i`-th entry of the schedule dispatches at the second `now`. -/
def SchedulerAgent.dispatch (self : SchedulerAgent) (fresh : Fresh) (i : Nat) (now : Int)
    (scheduled_at : String) (payload : List (String × Json)) : Message :=
  let payload := if (payload.lookup "task_id").isSome then payload
    else Dict.setItem "task_id" (.str ("sched-" ++ toString i ++ "-" ++ toString now)) payload
  let payload := Dict.setItem "scheduled_at" (.str scheduled_at) payload
  { task_dispatch fresh self.agent_id payload with
    trace_id := .str ("sched-" ++ self.agent_id ++ "-" ++ toString i ++ "-" ++ toString now) }

/-! ## Runs of all agents -/

/-- The agent drops the message as its own echo. -/
def Agent.DropsEcho (self : Agent) (s : AgentState) (m : Message) : Prop :=
  s.running = true ∧ m.source.eq_str self.agent_id = true

/-- What an agent does in which it may publish something. -/
inductive Act where
  /-- A Probe, a Judge or a Reporter consumes a message. -/
  | consume (e : Step)
  /-- The consumer of the dead letters consumes a message. -/
  | collect (self : DeadLetterAgent) (c : Consumption self.toAgent self.handle_message)
  | replay (self : DeadLetterAgent) (r : self.Replay)
  /-- The scheduler dispatches the task of one entry. -/
  | dispatch (self : SchedulerAgent) (fresh : Fresh) (i : Nat) (now : Int) (scheduled_at : String)
      (entry : String × List (String × Json)) (h : self.schedule[i]? = some entry)
  | announce (self : Agent) (fresh : Fresh) (announcement : Announcement)

namespace Act

/-- The agent that acts. -/
def agent : Act → Agent
  | consume e => e.stage.agent
  | collect self _ => self.toAgent
  | replay self _ => self.toAgent
  | dispatch self .. => self.toAgent
  | announce self .. => self

/-- The message is published in the act. -/
def Publishes : Act → Message → Prop
  | consume e, msg => e.Publishes msg
  | collect _ c, msg => ∃ topic, c.Publishes topic msg
  | replay _ r, msg => ∃ ev ∈ r.events, ev.req.message = msg
  | dispatch self fresh i now scheduled_at entry _, msg =>
    msg = self.dispatch fresh i now scheduled_at entry.2
  | announce self fresh announcement, msg => msg = announcement.message self.agent_id fresh

/-- The act is the consumption of the message, which the agent drops as its own echo. -/
def DropsEcho : Act → Message → Prop
  | consume e, m => m = e.message ∧ e.stage.agent.DropsEcho e.consumption.start m
  | collect self c, m => m = c.message ∧ self.toAgent.DropsEcho c.start m
  | _, _ => False

/-- Everything that is published has the id of the agent as its source. -/
def Identified (a : Act) : Prop := ∀ msg, a.Publishes msg → msg.source = .str a.agent.agent_id

end Act

/-- Every message has the id of its publisher as its source, and an agent drops only what it has published
as its own echo. -/
structure SenderIdentity (run : List Act) : Prop where
  identified : ∀ a ∈ run, a.Identified
  echo : ∀ a ∈ run, ∀ b ∈ run, ∀ msg m, a.Publishes msg → Delivered msg m → b.DropsEcho m →
    a.agent.agent_id = b.agent.agent_id

/-! ## When the source is right -/

/-- The message is addressed to the agent. -/
def Agent.AddressedTo (self : Agent) (m : Message) : Prop :=
  m.target = .str self.agent_id ∧ self.agent_id ≠ ""

/-- The Probe asks for a judgement: it has a result, the TASK_RESULT was published, and the JUDGE_REQUEST
can be encrypted. -/
def ProbeAgent.Requests (self : ProbeAgent) (c : Consumption self.toAgent self.handle_message) : Prop :=
  ∃ ctx results st result payload,
    (⟨.inr (.execute_all "probe" ctx), .ok results, st⟩ : AwaitEvent) ∈ c.events ∧
    self.probe_result (self.opened c.message).payload results = .ok result ∧ c.Returned ∧
    self.cipher.encrypt_payload 0
      (.obj [("task", (self.opened c.message).payload), ("result", .obj result)]) = .ok payload

/-- The Judge asks for a report: it has a verdict, the JUDGE_VERDICT was published, and the REPORT_REQUEST
can be encrypted. -/
def JudgeAgent.Requests (self : JudgeAgent) (c : Consumption self.toAgent self.handle_message) : Prop :=
  ∃ ctx results st verdict report payload,
    (⟨.inr (.execute_all "judge" ctx), .ok results, st⟩ : AwaitEvent) ∈ c.events ∧
    self.verdict (self.opened c.message).payload results = .ok verdict ∧
    JudgeAgent.report_payload (self.opened c.message).payload verdict = .ok report ∧ c.Returned ∧
    self.cipher.encrypt_payload 0 (.obj report) = .ok payload

/-- If the agent answers the message through `Message.reply`, the message is addressed to it; and a replay
that publishes something is that of an agent with the id `dlq-consumer`. -/
def Act.Addressed : Act → Prop
  | .consume ⟨.probe self, c⟩ => self.Requests c → self.toAgent.AddressedTo c.message
  | .consume ⟨.judge self, c⟩ => self.Requests c → self.toAgent.AddressedTo c.message
  | .replay self r =>
    self.consumer.PublishesFirst
        (DLQConsumerAgent.to_publish r.message_id r.trace_id r.start.dead_letters) →
      self.agent_id = "dlq-consumer"
  | _ => True

/-! ## The source of what is published -/

variable {agent : Agent} {m : Message}

/-- The source of every reply to the message. -/
def reply_source (m : Message) : Json := if m.target.truthy then m.target else m.source

theorem reply_source_opened : reply_source (agent.opened m) = reply_source m := by
  unfold reply_source
  rw [Agent.target_opened, Agent.source_opened]

/-- The source of a reply is the agent exactly if the message was addressed to it. -/
theorem reply_source_iff (hecho : m.source.eq_str agent.agent_id = false) :
    reply_source m = .str agent.agent_id ↔ agent.AddressedTo m := by
  have hsource : m.source ≠ .str agent.agent_id := by
    intro h
    rw [h] at hecho
    simp [Json.eq_str] at hecho
  unfold reply_source
  by_cases htarget : m.target.truthy = true
  · rw [if_pos htarget]
    refine (and_iff_left_of_imp fun h => ?_).symm
    intro hid
    rw [h, hid] at htarget
    simp [Json.truthy] at htarget
  · rw [if_neg htarget]
    refine iff_of_false hsource ?_
    rintro ⟨h, hid⟩
    rw [h] at htarget
    exact htarget (by simpa [Json.truthy] using hid)

theorem source_unknown_type_error {fresh : Fresh} :
    (agent.unknown_type_error fresh m).source = .str agent.agent_id := by
  unfold Agent.unknown_type_error
  split <;> rfl

namespace Consumption

variable {handler : Handler} {c : Consumption agent handler} {calls : List AgentEvent}

/-- What a consumption publishes itself has the right source, its replies apart. -/
theorem Calls.source_issued {topic : String} {msg : Message} {ans : Except Exc Unit} {st : AgentState}
    (h : c.Calls calls) (hev : (⟨.inl (.publish topic msg), ans, st⟩ : AwaitEvent) ∈ c.events) :
    msg.source = .str agent.agent_id ∨ ∃ replies st',
      (⟨.handle_message (agent.opened c.message), .ok replies, st'⟩ : AgentEvent) ∈ calls ∧
        agent.IsReply (agent.opened c.message) (replies.getD []) topic msg := by
  rcases h.issued hev with ⟨k, -, rfl⟩ | ⟨s₁, tr₁, -, hreply | ⟨-, ⟨fresh, error, n, failed_at, rfl⟩, -⟩⟩
  · exact .inl source_unknown_type_error
  · exact .inr hreply
  · exact .inl rfl

/-- A message whose handler runs is no echo. -/
theorem Calls.not_echo {r : Except Exc (Option (List Message))} {st : AgentState}
    (h : c.Calls calls) (hev : (⟨.handle_message m, r, st⟩ : AgentEvent) ∈ calls) :
    m = agent.opened c.message ∧ c.message.source.eq_str agent.agent_id = false := by
  obtain ⟨rfl, s₁, tr₁, pubs, post, ⟨k, hadm, -⟩, -⟩ := h.handled hev
  exact ⟨rfl, hadm.not_echo⟩

end Consumption

/-! ## Probe and Judge -/

/-- The Probe publishes a JUDGE_REQUEST if it asks for a judgement. -/
theorem ProbeAgent.Requests.publishes {self : ProbeAgent}
    {c : Consumption self.toAgent self.handle_message} (h : self.Requests c) :
    c.message.source.eq_str self.agent_id = false ∧
      ∃ topic msg, c.Publishes topic msg ∧ msg.source = reply_source c.message := by
  obtain ⟨ctx, results, st, result, payload, hev, hresult, hreturned, henc⟩ := h
  obtain ⟨calls, hcalls⟩ := c.exists_calls
  obtain ⟨m, r, s, s', tr, hhandle, hrun, hmem⟩ := hcalls.of_inr hev
  obtain ⟨rfl, hecho⟩ := hcalls.not_echo hhandle
  rcases probe_replies hrun hmem with ⟨text, herr⟩ | ⟨result', hresult', rfl⟩
  · cases hresult.symm.trans herr
  · cases hresult.symm.trans hresult'
    obtain ⟨t, payload', hpub⟩ := hcalls.second_published hhandle hreturned rfl henc
    exact ⟨hecho, t, _, hpub, reply_source_opened⟩

/-- The Judge publishes a REPORT_REQUEST if it asks for a report. -/
theorem JudgeAgent.Requests.publishes {self : JudgeAgent}
    {c : Consumption self.toAgent self.handle_message} (h : self.Requests c) :
    c.message.source.eq_str self.agent_id = false ∧
      ∃ topic msg, c.Publishes topic msg ∧ msg.source = reply_source c.message := by
  obtain ⟨ctx, results, st, verdict, report, payload, hev, hverdict, hreport, hreturned, henc⟩ := h
  obtain ⟨calls, hcalls⟩ := c.exists_calls
  obtain ⟨m, r, s, s', tr, hhandle, hrun, hmem⟩ := hcalls.of_inr hev
  obtain ⟨rfl, hecho⟩ := hcalls.not_echo hhandle
  rcases judge_replies hrun hmem with ⟨text, herr, -⟩ | ⟨verdict', report', hverdict', hreport', rfl⟩
  · rw [hverdict] at herr
    cases hreport.symm.trans herr
  · cases hverdict.symm.trans hverdict'
    cases hreport.symm.trans hreport'
    obtain ⟨t, payload', hpub⟩ := hcalls.second_published hhandle hreturned rfl henc
    exact ⟨hecho, t, _, hpub, reply_source_opened⟩

/-- **The source of what the Probe publishes** is the Probe, or it is a JUDGE_REQUEST. -/
theorem probe_source {self : ProbeAgent} {c : Consumption self.toAgent self.handle_message}
    {topic : String} {msg : Message} (h : c.Publishes topic msg) :
    msg.source = .str self.agent_id ∨ self.Requests c ∧ msg.source = reply_source c.message := by
  rcases h with ⟨ans, st, hev⟩ | hsend
  · obtain ⟨calls, hcalls⟩ := c.exists_calls
    rcases hcalls.source_issued hev with
      hsource | ⟨replies, st', hhandle, reply, hmem, n, payload, -, henc, rfl⟩
    · exact .inl hsource
    obtain ⟨s, tr, hrun, hsub⟩ := hcalls.handler_run hhandle
    rcases probe_returns hrun with ⟨-, rfl⟩ | ⟨-, ctx, results, st₁, result, rfl, hresult, rfl⟩
    · cases hmem
    rcases List.mem_cons.mp hmem with rfl | hmem
    · exact .inl rfl
    cases List.mem_singleton.mp hmem
    obtain ⟨v, hv⟩ := Agent.encrypt_zero henc
    have hreturned : c.Returned :=
      hcalls.returned hhandle hev (fun h => nomatch h) (fun h => nomatch h) (fun h => nomatch h)
    refine .inr ⟨⟨ctx, results, st₁, result, v, ?_, hresult, hreturned, hv⟩, reply_source_opened⟩
    exact hsub _ (List.mem_singleton_self _)
  · exact absurd hsend Consumption.sends_probe

/-- **The source of what the Judge publishes** is the Judge, or it is a REPORT_REQUEST. -/
theorem judge_source {self : JudgeAgent} {c : Consumption self.toAgent self.handle_message}
    {topic : String} {msg : Message} (h : c.Publishes topic msg) :
    msg.source = .str self.agent_id ∨ self.Requests c ∧ msg.source = reply_source c.message := by
  rcases h with ⟨ans, st, hev⟩ | hsend
  · obtain ⟨calls, hcalls⟩ := c.exists_calls
    rcases hcalls.source_issued hev with
      hsource | ⟨replies, st', hhandle, reply, hmem, n, payload, -, henc, rfl⟩
    · exact .inl hsource
    cases replies with
    | none => cases hmem
    | some replies =>
      obtain ⟨s, tr, hrun, hsub⟩ := hcalls.handler_run hhandle
      obtain ⟨ctx, results, st₁, hplugins⟩ := judge_plugins hrun
      rcases judge_replies hrun hplugins with
        ⟨text, -, ⟨⟩⟩ | ⟨verdict, report, hverdict, hreport, ⟨⟩⟩
      rcases List.mem_cons.mp hmem with rfl | hmem
      · exact .inl rfl
      cases List.mem_singleton.mp hmem
      obtain ⟨v, hv⟩ := Agent.encrypt_zero henc
      have hreturned : c.Returned :=
        hcalls.returned hhandle hev (fun h => nomatch h) (fun h => nomatch h) (fun h => nomatch h)
      refine .inr ⟨⟨ctx, results, st₁, verdict, report, v, ?_, hverdict, hreport, hreturned, hv⟩,
        reply_source_opened⟩
      exact hsub _ hplugins
  · exact absurd hsend Consumption.sends_judge

/-- What the Reporter publishes has the Reporter as its source. -/
theorem reporter_source {self : ReporterAgent} {c : Consumption self.toAgent self.handle_message}
    {topic : String} {msg : Message} (h : c.Publishes topic msg) :
    msg.source = .str self.agent_id := by
  rcases h with ⟨ans, st, hev⟩ | hsend
  · obtain ⟨calls, hcalls⟩ := c.exists_calls
    rcases hcalls.source_issued hev with
      hsource | ⟨replies, st', hhandle, reply, hmem, n, payload, -, -, rfl⟩
    · exact hsource
    obtain ⟨s, tr, hrun, -⟩ := hcalls.handler_run hhandle
    rcases reporter_returns hrun with ⟨-, rfl⟩ | ⟨-, fresh, report, rfl⟩
    · cases hmem
    · cases List.mem_singleton.mp hmem
      rfl
  · obtain ⟨-, fresh, at_time, results, report, -, rfl⟩ := Consumption.sends_reporter hsend
    rfl

/-! ## The consumer of the dead letters -/

/-- The consumer of the dead letters awaits nothing and returns nothing. -/
theorem run_dead_letter_handler {self : DeadLetterAgent} {R : AgentState → AgentState → Prop}
    {s s' : AgentState} {tr : List HandlerEvent} {r : Except Exc (Option (List Message))}
    (h : Co.Run R (self.handle_message m) s tr s' r) :
    tr = [] ∧ ∀ replies, r = .ok replies → replies = none := by
  unfold DeadLetterAgent.handle_message at h
  rw [Co.run_read_bind] at h
  rcases Co.run_lift_bind.mp h with ⟨text, -, rfl, -, rfl⟩ | ⟨letter, -, rfl, -, rfl⟩
  · exact ⟨rfl, fun _ h => nomatch h⟩
  · refine ⟨rfl, ?_⟩
    rintro _ ⟨⟩
    rfl

theorem collect_source {self : DeadLetterAgent} {c : Consumption self.toAgent self.handle_message}
    {topic : String} {msg : Message} (h : c.Publishes topic msg) :
    msg.source = .str self.agent_id := by
  obtain ⟨calls, hcalls⟩ := c.exists_calls
  rcases h with ⟨ans, st, hev⟩ | ⟨ans, st, hev⟩
  · rcases hcalls.source_issued hev with
      hsource | ⟨replies, st', hhandle, reply, hmem, n, payload, -, -, rfl⟩
    · exact hsource
    obtain ⟨s, tr, hrun, -⟩ := hcalls.handler_run hhandle
    rw [(run_dead_letter_handler hrun).2 _ rfl] at hmem
    cases hmem
  · obtain ⟨m, r, s, s', tr, -, hrun, hmem⟩ := hcalls.of_inr hev
    rw [(run_dead_letter_handler hrun).1] at hmem
    cases hmem

/-- A replay publishes something exactly if the first letter that it asks for can be published, and the
source of that is `dlq-consumer`. -/
theorem replay_source {self : DeadLetterAgent} {r : self.Replay} :
    (r.events ≠ [] ↔ self.consumer.PublishesFirst
        (DLQConsumerAgent.to_publish r.message_id r.trace_id r.start.dead_letters)) ∧
      ∀ ev ∈ r.events, ev.req.message.source = .str "dlq-consumer" := by
  have h := r.run
  unfold DLQConsumerAgent.replay at h
  rw [Co.run_read_bind] at h
  rcases Co.run_bind.mp h with ⟨e, h₁, -⟩ | ⟨u, t₁, s₁, t₂, h₁, htr, h₂⟩
  · exact DLQConsumerAgent.run_publish_originals_events h₁
  · rw [Co.run_update_bind] at h₂
    obtain ⟨rfl, -, -⟩ := h₂
    rw [htr, List.append_nil]
    exact DLQConsumerAgent.run_publish_originals_events h₁

/-! ## When every sender is named -/

/-- An agent that publishes a reply to the message if `requests`, and otherwise names itself. -/
theorem Consumption.named_iff {handler : Handler} (c : Consumption agent handler) {requests : Prop}
    (hpublishes : requests → c.message.source.eq_str agent.agent_id = false ∧
      ∃ topic msg, c.Publishes topic msg ∧ msg.source = reply_source c.message)
    (hsource : ∀ topic msg, c.Publishes topic msg →
      msg.source = .str agent.agent_id ∨ requests ∧ msg.source = reply_source c.message) :
    (∀ msg, (∃ topic, c.Publishes topic msg) → msg.source = .str agent.agent_id) ↔
      (requests → agent.AddressedTo c.message) := by
  constructor
  · intro h hrequests
    obtain ⟨hecho, topic, msg, hpub, hreply⟩ := hpublishes hrequests
    exact (reply_source_iff hecho).mp (hreply.symm.trans (h msg ⟨topic, hpub⟩))
  · rintro h msg ⟨topic, hpub⟩
    rcases hsource topic msg hpub with hself | ⟨hrequests, hreply⟩
    · exact hself
    · exact hreply.trans ((reply_source_iff (hpublishes hrequests).1).mpr (h hrequests))

/-- **When everything that an agent publishes has its id as the source.** -/
theorem identified_iff {a : Act} : a.Identified ↔ a.Addressed := by
  cases a with
  | consume e =>
    obtain ⟨stage, c⟩ := e
    cases stage with
    | probe self => exact c.named_iff ProbeAgent.Requests.publishes fun _ _ => probe_source
    | judge self => exact c.named_iff JudgeAgent.Requests.publishes fun _ _ => judge_source
    | reporter self => exact iff_of_true (fun msg ⟨topic, hpub⟩ => reporter_source hpub) trivial
  | collect self c => exact iff_of_true (fun msg ⟨topic, hpub⟩ => collect_source hpub) trivial
  | replay self r =>
    obtain ⟨hfirst, hsource⟩ := replay_source (r := r)
    constructor
    · intro h hpublishes
      obtain ⟨ev, hev⟩ := List.exists_mem_of_ne_nil _ (hfirst.mpr hpublishes)
      have hid := (h _ ⟨ev, hev, rfl⟩).symm.trans (hsource ev hev)
      exact Json.str.inj hid
    · rintro h _ ⟨ev, hev, rfl⟩
      rw [hsource ev hev, ← h (hfirst.mp (List.ne_nil_of_mem hev))]
      rfl
  | dispatch self fresh i now scheduled_at entry _ =>
    refine iff_of_true ?_ trivial
    rintro _ rfl
    rfl
  | announce self fresh announcement =>
    refine iff_of_true ?_ trivial
    rintro _ rfl
    cases announcement <;> rfl

/-- An act that drops a message as an echo drops one that names its agent. -/
theorem Act.DropsEcho.source {a : Act} (h : a.DropsEcho m) : m.source = .str a.agent.agent_id := by
  have heq : m.source.eq_str a.agent.agent_id = true := by
    cases a with
    | consume e => exact h.2.2
    | collect self c => exact h.2.2
    | _ => cases h
  cases hsource : m.source with
  | str s =>
    rw [hsource, Json.eq_str, beq_iff_eq] at heq
    rw [heq]
  | _ =>
    rw [hsource] at heq
    cases heq

/-- **When every sender is named, and no agent takes the message of another one for its own echo.** -/
theorem senderIdentity_iff (run : List Act) : SenderIdentity run ↔ ∀ a ∈ run, a.Addressed := by
  constructor
  · exact fun h a ha => identified_iff.mp (h.identified a ha)
  · intro h
    have hidentified : ∀ a ∈ run, a.Identified := fun a ha => identified_iff.mpr (h a ha)
    refine ⟨hidentified, fun a ha b hb msg m hpub hdelivered hdrops => ?_⟩
    have hsource : m.source = msg.source := by rw [hdelivered.eq]
    exact Json.str.inj ((hidentified a ha msg hpub).symm.trans (hsource.symm.trans hdrops.source))

/-- The JUDGE_REQUEST for a task that a client dispatched to nobody names the client. -/
theorem client_named : ¬ ∀ run, SenderIdentity run := by
  intro h
  obtain ⟨topic, msg, ⟨⟨ans, st, hev⟩, -⟩, hclient⟩ :=
    sample_answers (p := fun msg => msg.source.eq_str "client") (by decide +kernel)
  have hsource : msg.source = .str "probe-1" :=
    (h [.consume sample_step]).identified _ List.mem_cons_self msg ⟨topic, .inl ⟨ans, st, hev⟩⟩
  rw [hsource] at hclient
  revert hclient
  decide

end Aqap
