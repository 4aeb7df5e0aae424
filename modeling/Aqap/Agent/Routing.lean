import Aqap.Agent.Flow

/-!
# The topics of the stages

An untargeted reply goes to the stage after the topic field of the message, not to the topic that the
reply names. `Message.reply` copies the topic field, so the JUDGE_REQUEST of a task still has that of its
TASK_DISPATCH, and the JUDGE_VERDICT goes where the TASK_RESULT went.

* `answers_untargeted`: the topic of an untargeted reply, from the message alone.
* `verdict_misrouted`: if the TASK_RESULT of a task went to the Judge's topic, its JUDGE_VERDICT did not
  go to the Reporter's.
* `never_routed`: no task is routed as its stages require.
-/

namespace Aqap

open Py Aqap.Core Async

/-- The three agents that process a task, with any targets. A value has the same text in the Probe and in
the Judge. -/
structure Deployment where
  probe : ProbeAgent
  judge : JudgeAgent
  reporter : ReporterAgent
  judge_repr : judge.rt.repr = probe.rt.repr

/-- A task on its way through the three agents: each consumes what the one before published for it. -/
structure Processing (d : Deployment) where
  probed : Consumption d.probe.toAgent d.probe.handle_message
  judged : Consumption d.judge.toAgent d.judge.handle_message
  reported : Consumption d.reporter.toAgent d.reporter.handle_message
  dispatched : probed.topic = Topic.AGENT_PROBE ∧ probed.message.type = .TASK_DISPATCH
  requested : ∃ topic msg, probed.Publishes topic msg ∧ msg.type = .JUDGE_REQUEST ∧
    Delivered msg judged.message
  report_requested : ∃ topic msg, judged.Publishes topic msg ∧ msg.type = .REPORT_REQUEST ∧
    Delivered msg reported.message

/-- The message of that type is published on the topic. -/
def Consumption.PublishesOn {agent : Agent} {handler : Handler} (c : Consumption agent handler)
    (topic : String) (type : MessageType) : Prop :=
  ∃ msg, c.Publishes topic msg ∧ msg.type = type

/-- An untargeted reply that names a topic is published on that topic. -/
def Step.KeepsTopics (e : Step) : Prop :=
  ∀ topic msg named, e.Answers topic msg → msg.target.truthy = false → msg.topic = .str named →
    named ≠ "" → topic = named

/-- The messages of the task are published where their stages are, and untargeted replies on the topics
that they name. -/
structure Routed {d : Deployment} (p : Processing d) : Prop where
  task_result : p.probed.PublishesOn Topic.AGENT_JUDGE .TASK_RESULT
  judge_request : p.probed.PublishesOn (Topic.agent_inbox d.probe.judge_target) .JUDGE_REQUEST
  judge_verdict : p.judged.PublishesOn Topic.AGENT_REPORTER .JUDGE_VERDICT
  report_request : p.judged.PublishesOn (Topic.agent_inbox d.judge.reporter_target) .REPORT_REQUEST
  report_deliver : p.reported.PublishesOn
    (Topic.agent_inbox (d.reporter.text p.probed.message.source)) .REPORT_DELIVER
  broadcast : p.reported.PublishesOn Topic.BROADCAST .REPORT_DELIVER
  named : Step.KeepsTopics ⟨.probe d.probe, p.probed⟩ ∧ Step.KeepsTopics ⟨.judge d.judge, p.judged⟩ ∧
    Step.KeepsTopics ⟨.reporter d.reporter, p.reported⟩

/-! ## The topic of an untargeted reply -/

/-- Where an untargeted reply goes. -/
theorem isReply_untargeted {self : Agent} {m msg : Message} {replies : List Message} {topic : String}
    (h : self.IsReply (self.opened m) replies topic msg) (huntargeted : msg.target.truthy = false) :
    self.determine_reply_topic m = .ok topic := by
  obtain ⟨reply, -, n, payload, htopic, -, rfl⟩ := h
  have htarget : reply.target.truthy = false := huntargeted
  rw [Agent.reply_topic, htarget, if_neg Bool.false_ne_true, Agent.determine_reply_topic_opened] at htopic
  exact htopic

/-- **Where an untargeted answer goes**: the topic that it names has no part in it. -/
theorem answers_untargeted {e : Step} {topic : String} {msg : Message} (h : e.Answers topic msg)
    (huntargeted : msg.target.truthy = false) :
    e.stage.agent.determine_reply_topic e.message = .ok topic := by
  obtain ⟨replies, -, hreply⟩ := h.reply
  exact isReply_untargeted hreply huntargeted

/-- The replies to two messages with one topic field do not go to different stages. -/
theorem stage_unique {self self' : Agent} {m m' : Message} {t t' : String} (htopic : m'.topic = m.topic)
    (hrepr : self'.rt.repr = self.rt.repr) (ht : t.toList.take 6 ≠ "aqap:i".toList)
    (h : self.determine_reply_topic m = .ok t) (h' : self'.determine_reply_topic m' = .ok t') :
    t' = t := by
  unfold Agent.determine_reply_topic at h h'
  rw [htopic, Agent.text, hrepr, ← Agent.text] at h'
  cases hk : m.topic.key with
  | error text =>
    rw [hk] at h
    cases h
  | ok key =>
    rw [hk] at h h'
    simp only [Except.map, Except.ok.injEq] at h h'
    cases hfound : (((Agent.topic_map.find? fun e => key = .str e.1).or (Agent.topic_map.find? fun e =>
        e.1.toList.isPrefixOf (if m.topic.truthy then self.text m.topic else "").toList)).map
          Prod.snd) with
    | none =>
      rw [hfound] at h
      exact absurd h (Agent.agent_inbox_ne ht)
    | some found =>
      rw [hfound] at h h'
      exact h'.symm.trans h

/-! ## The stages of a task -/

/-- The replies of the Probe: an untargeted TASK_RESULT, and a JUDGE_REQUEST with the topic field of the
task. -/
theorem probe_publishes {self : ProbeAgent} {c : Consumption self.toAgent self.handle_message}
    {topic : String} {msg : Message} (h : c.Publishes topic msg) :
    (msg.type = .TASK_RESULT → self.determine_reply_topic c.message = .ok topic) ∧
      (msg.type = .JUDGE_REQUEST → msg.topic = c.message.topic) := by
  rcases Step.publishes_cases (e := ⟨.probe self, c⟩) h with hsend | herror | ⟨replies, hreturns, hreply⟩
  · exact absurd hsend Consumption.sends_probe
  · constructor <;> intro htype <;> cases herror.symm.trans htype
  obtain ⟨r, s, s', tr, rfl, hrun, -⟩ := hreturns.run
  have huntargeted := isReply_untargeted hreply
  obtain ⟨reply, hmem, n, payload, -, -, rfl⟩ := hreply
  rcases probe_returns hrun with ⟨-, rfl⟩ | ⟨-, ctx, results, st, result, -, -, rfl⟩
  · cases hmem
  rcases List.mem_cons.mp hmem with rfl | hmem
  · exact ⟨fun _ => huntargeted rfl, fun htype => nomatch htype⟩
  · cases List.mem_singleton.mp hmem
    exact ⟨(fun htype => nomatch htype), fun _ => Agent.topic_opened⟩

/-- The JUDGE_VERDICT is untargeted. -/
theorem judge_publishes {self : JudgeAgent} {c : Consumption self.toAgent self.handle_message}
    {topic : String} {msg : Message} (h : c.Publishes topic msg) (htype : msg.type = .JUDGE_VERDICT) :
    self.determine_reply_topic c.message = .ok topic := by
  rcases Step.publishes_cases (e := ⟨.judge self, c⟩) h with hsend | herror | ⟨replies, hreturns, hreply⟩
  · exact absurd hsend Consumption.sends_judge
  · cases herror.symm.trans htype
  obtain ⟨r, s, s', tr, rfl, hrun, -⟩ := hreturns.run
  have huntargeted := isReply_untargeted hreply
  obtain ⟨reply, hmem, n, payload, -, -, rfl⟩ := hreply
  rcases judge_returns hrun with ⟨-, rfl⟩ | ⟨-, fresh, fresh', verdict, payload, rfl⟩
  · cases hmem
  rcases List.mem_cons.mp hmem with rfl | hmem
  · exact huntargeted rfl
  · cases List.mem_singleton.mp hmem
    cases htype

/-- **The JUDGE_VERDICT goes where the TASK_RESULT went**, and not to the Reporter's topic. -/
theorem verdict_misrouted {d : Deployment} {p : Processing d}
    (hresult : p.probed.PublishesOn Topic.AGENT_JUDGE .TASK_RESULT) :
    ¬ p.judged.PublishesOn Topic.AGENT_REPORTER .JUDGE_VERDICT := by
  rintro ⟨verdict, hverdict, hvtype⟩
  obtain ⟨result, hpub, hrtype⟩ := hresult
  obtain ⟨t, request, hrequest, htype, hdelivered⟩ := p.requested
  have htopic : p.judged.message.topic = p.probed.message.topic := by
    rw [hdelivered.eq]
    exact (probe_publishes hrequest).2 htype
  have h := stage_unique htopic d.judge_repr (by decide) ((probe_publishes hpub).1 hrtype)
    (judge_publishes hverdict hvtype)
  revert h
  decide

/-- **No task is routed as its stages require.** -/
theorem never_routed {d : Deployment} (p : Processing d) : ¬ Routed p := fun h =>
  verdict_misrouted h.task_result h.judge_verdict

/-! ## A task without plugins -/

/-- What a consumption publishes, in order. -/
def Consumption.published {agent : Agent} {handler : Handler} (c : Consumption agent handler) :
    List (String × Message) :=
  c.events.filterMap fun ev =>
    match ev.req with
    | .inl (.publish topic msg) => some (topic, msg)
    | .inr (.publish topic msg) => some (topic, msg)
    | _ => none

theorem Consumption.publishes_of_mem {agent : Agent} {handler : Handler}
    {c : Consumption agent handler} {topic : String} {msg : Message}
    (h : (topic, msg) ∈ c.published) : c.Publishes topic msg := by
  obtain ⟨⟨q, ans, st⟩, hev, hq⟩ := List.mem_filterMap.mp h
  cases q with
  | inl q =>
    cases q with
    | publish t m =>
      cases hq
      exact .inl ⟨ans, st, hev⟩
    | _ => cases hq
  | inr q =>
    cases q with
    | publish t m =>
      cases hq
      exact .inr ⟨ans, st, hev⟩
    | _ => cases hq

/-- The second message that a consumption published. -/
def Consumption.second {agent : Agent} {handler : Handler} (c : Consumption agent handler) : Message :=
  (c.published[1]?).elim c.message Prod.snd

theorem Consumption.publishes_second {agent : Agent} {handler : Handler}
    {c : Consumption agent handler} (h : (c.published[1]?).isSome = true) :
    ∃ topic, c.Publishes topic c.second := by
  obtain ⟨⟨topic, msg⟩, hget⟩ := Option.isSome_iff_exists.mp h
  refine ⟨topic, publishes_of_mem (List.mem_of_getElem? (i := 1) ?_)⟩
  rw [second, hget]
  rfl

def sample_deployment : Deployment where
  probe := sample_probe
  judge := { toAgent := { sample_agent 3 with agent_id := "judge-1" }, numbers := sample_numbers }
  reporter := { toAgent := { sample_agent 3 with agent_id := "reporter-1" }, numbers := sample_numbers }
  judge_repr := rfl

/-- The Probe answers a task. -/
def sample_probed : Consumption sample_deployment.probe.toAgent
    sample_deployment.probe.handle_message :=
  .exec _ Topic.AGENT_PROBE
    (task_dispatch ⟨"0011223344556677", "8899aabbccddeeff", "2026-01-01T00:00:00+00:00"⟩ "client" [])
    (AgentState.started 0) sample_await

/-- The Judge answers the request of the Probe. -/
def sample_judged : Consumption sample_deployment.judge.toAgent
    sample_deployment.judge.handle_message :=
  .exec _ (Topic.agent_inbox "judge-1") sample_probed.second (AgentState.started 0) sample_await

/-- A task that passes through the three agents. -/
def sample_processing : Processing sample_deployment where
  probed := sample_probed
  judged := sample_judged
  reported :=
    .exec _ (Topic.agent_inbox "reporter-1") sample_judged.second (AgentState.started 0) sample_await
  dispatched := ⟨rfl, rfl⟩
  requested := by
    obtain ⟨topic, hpub⟩ := Consumption.publishes_second (c := sample_probed) (by decide +kernel)
    exact ⟨topic, _, hpub, by decide +kernel, .refl _⟩
  report_requested := by
    obtain ⟨topic, hpub⟩ := Consumption.publishes_second (c := sample_judged) (by decide +kernel)
    exact ⟨topic, _, hpub, by decide +kernel, .refl _⟩

/-- The task of a client, dispatched on the topic of the Probe: its JUDGE_VERDICT goes to the Judge's
topic. -/
theorem sample_misrouted : ¬ ∀ (d : Deployment) (p : Processing d), Routed p := by
  intro h
  have hrouted := h _ sample_processing
  exact verdict_misrouted hrouted.task_result hrouted.judge_verdict

end Aqap
