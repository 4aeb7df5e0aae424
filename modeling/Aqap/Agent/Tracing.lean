import Aqap.Agent.Flow

/-!
# Trace ids

All messages of a task should have the trace id of its TASK_DISPATCH. The TASK_RESULT and the ERROR for
an unknown type are made without the trace id of the message, and get a new one.

* `keepsTrace_iff`: when everything that a step publishes has the trace id of its message
  (`Step.Traceable`).
* `tracePropagates_iff`: all steps of a run pass the trace id on, and all descendants of a task have
  it, exactly if every step does.
* `task_result_untraced`: a TASK_RESULT with another trace id.
-/

namespace Aqap

open Py Aqap.Core Async

/-- The Probe has a result in the state `st` and publishes it: the plugins returned, the result can be
made, and the TASK_RESULT can be sent. -/
def Announces (self : ProbeAgent) (c : Consumption self.toAgent self.handle_message)
    (st : AgentState) : Prop :=
  ∃ ctx results result topic payload,
    (⟨.inr (.execute_all "probe" ctx), .ok results, st⟩ : AwaitEvent) ∈ c.events ∧
    self.probe_result (self.opened c.message).payload results = .ok result ∧
    self.determine_reply_topic c.message = .ok topic ∧
    self.cipher.encrypt_payload 0 (.obj result) = .ok payload

namespace Step

/-- Everything that is published has the trace id of the message. -/
def KeepsTrace (e : Step) : Prop := ∀ msg, e.Publishes msg → msg.trace_id = e.message.trace_id

/-- The new trace id of the Probe's TASK_RESULT is that of the message. -/
def ResultTraced : Step → Prop
  | ⟨.probe self, c⟩ => ∀ st, Announces self c st →
      c.message.trace_id = .str (self.rt.fresh st.made st.clock).trace_id
  | _ => True

/-- No ERROR is published for an unknown type and no TASK_RESULT, unless its new trace id is that of the
message. -/
structure Traceable (e : Step) : Prop where
  unknown : ∀ k, e.stage.agent.Rejects e.message k e.consumption.start → e.message.trace_id =
    .str (e.stage.agent.rt.fresh e.consumption.start.made e.consumption.start.clock).trace_id
  task_result : e.ResultTraced

end Step

/-- Every step passes the trace id on, and all descendants of a task have the trace id of the task. -/
structure TracePropagates (run : List Step) : Prop where
  steps : ∀ e ∈ run, e.KeepsTrace
  tasks : ∀ task m, task.type = .TASK_DISPATCH → Descends run Step.Publishes task m →
    m.trace_id = task.trace_id

/-! ## What the parts of a step publish -/

variable {R : AgentState → AgentState → Prop} {s s' : AgentState} {m : Message}

namespace Agent

variable {self : Agent}

@[simp] theorem trace_id_unknown_type_error {fresh : Fresh} :
    (self.unknown_type_error fresh m).trace_id = .str fresh.trace_id := by
  unfold unknown_type_error
  split <;> rfl

/-- A message of an unknown type is answered with an ERROR that has a new trace id. -/
theorem rejects_publishes {handler : Handler} {c : Consumption self handler} {k : Key}
    (h : self.Rejects c.message k c.start) : ∃ topic, c.Publishes topic
      (self.unknown_type_error (self.rt.fresh c.start.made c.start.clock) c.message) := by
  obtain ⟨calls, hcalls⟩ := c.exists_calls
  obtain ⟨t, ans, rfl⟩ := run_reject_unknown (run_consume_one_rejects h hcalls.run)
  exact ⟨t, .inl ⟨ans, _, (hcalls.inl_mem_iff (by rintro m ⟨⟩)).mpr (List.mem_singleton_self _)⟩⟩

end Agent

/-- The replies of a handler have the trace id of the message, the TASK_RESULT apart. -/
theorem trace_id_reply {stage : Stage} {tr : List HandlerEvent} {r : Option (List Message)}
    (h : Co.Run R (stage.handle_message m) s tr s' (.ok r)) : ∀ reply ∈ r.getD [],
      reply.trace_id = m.trace_id ∨ ∃ self ctx results st result, stage = .probe self ∧
        (⟨.execute_all "probe" ctx, .ok results, st⟩ : HandlerEvent) ∈ tr ∧
        self.probe_result m.payload results = .ok result ∧
        reply = task_result (self.rt.fresh st.made st.clock) self.agent_id result := by
  intro reply hmem
  cases stage with
  | probe self =>
    rcases probe_returns h with ⟨-, rfl⟩ | ⟨-, ctx, results, st, result, rfl, hresult, rfl⟩
    · cases hmem
    rcases List.mem_cons.mp hmem with rfl | hmem
    · exact .inr ⟨self, ctx, results, st, result, rfl, List.mem_cons_self, hresult, rfl⟩
    · cases List.mem_singleton.mp hmem
      exact .inl rfl
  | judge self =>
    rcases judge_returns h with ⟨-, rfl⟩ | ⟨-, fresh, fresh', verdict, payload, rfl⟩
    · cases hmem
    rcases List.mem_cons.mp hmem with rfl | hmem
    · exact .inl rfl
    · cases List.mem_singleton.mp hmem
      exact .inl rfl
  | reporter self =>
    rcases reporter_returns h with ⟨-, rfl⟩ | ⟨-, fresh, report, rfl⟩
    · cases hmem
    cases List.mem_singleton.mp hmem
    exact .inl rfl

/-- What a handler sends has the trace id of the message. -/
theorem Step.trace_id_sent {e : Step} {topic : String} {msg : Message}
    (h : e.consumption.Sends topic msg) : msg.trace_id = e.message.trace_id := by
  obtain ⟨stage, c⟩ := e
  cases stage with
  | probe self => exact absurd h Consumption.sends_probe
  | judge self => exact absurd h Consumption.sends_judge
  | reporter self =>
    obtain ⟨-, fresh, at_time, results, report, -, rfl⟩ := Consumption.sends_reporter h
    exact Agent.trace_id_opened

/-- The TASK_RESULT goes where an untargeted reply goes. -/
theorem reply_topic_task_result {self : Agent} {fresh : Fresh} {source : String}
    {result : List (String × Json)} :
    self.reply_topic (self.opened m) (task_result fresh source result) =
      self.determine_reply_topic m := by
  rw [← Agent.determine_reply_topic_opened]
  rfl

/-- A TASK_RESULT is published with a new trace id. -/
theorem Announces.publishes {self : ProbeAgent} {c : Consumption self.toAgent self.handle_message}
    {st : AgentState} (h : Announces self c st) :
    ∃ topic msg, c.Publishes topic msg ∧
      msg.trace_id = .str (self.rt.fresh st.made st.clock).trace_id := by
  obtain ⟨ctx, results, result, topic, payload, hev, hresult, htopic, henc⟩ := h
  obtain ⟨calls, hcalls⟩ := c.exists_calls
  obtain ⟨m, r, s, s', tr, hhandle, hrun, hmem⟩ := hcalls.of_inr hev
  obtain ⟨rfl, s₁, tr₁, pubs, post, ⟨k, -, hentered⟩, rfl, hpubs, -⟩ := hcalls.handled hhandle
  rcases probe_replies hrun hmem with ⟨text, herr⟩ | ⟨result', hresult', rfl⟩
  · cases hresult.symm.trans herr
  · cases hresult.symm.trans hresult'
    rcases hpubs with ⟨e, ⟨⟩, -⟩ | ⟨replies, s₀, s₂, r₂, ⟨⟩, hpub⟩
    obtain ⟨payload', ⟨q, ans, st'⟩, hmem', rfl⟩ :=
      Agent.first_reply_issued (reply_topic_task_result.trans htopic) henc hpub
    refine ⟨topic, _, .inl ⟨ans, st', (hcalls.inl_mem_iff (by rintro m ⟨⟩)).mpr ?_⟩, rfl⟩
    exact hentered.subset _ (List.mem_cons_of_mem _ (List.mem_append_left _ hmem'))

/-! ## When a step keeps the trace -/

/-- **When everything that a step publishes has the trace id of its message.** -/
theorem keepsTrace_iff {e : Step} : e.KeepsTrace ↔ e.Traceable := by
  constructor
  · intro h
    refine ⟨fun k hrej => ?_, ?_⟩
    · obtain ⟨topic, hpub⟩ := Agent.rejects_publishes hrej
      rw [← Agent.trace_id_unknown_type_error]
      exact (h _ ⟨topic, hpub⟩).symm
    · obtain ⟨stage, c⟩ := e
      cases stage with
      | probe self =>
        intro st hannounces
        obtain ⟨topic, msg, hpub, htrace⟩ := hannounces.publishes
        exact (h msg ⟨topic, hpub⟩).symm.trans htrace
      | _ => trivial
  · rintro ⟨hunknown, hresult⟩ msg ⟨topic, ⟨ans, st, hev⟩ | hsend⟩
    · obtain ⟨calls, hcalls⟩ := e.consumption.exists_calls
      rcases hcalls.issued hev with
        ⟨k, hrej, rfl⟩ | ⟨s₁, tr₁, -, ⟨r, st', hmem, reply, hreply, n, payload, htopic, henc, rfl⟩ |
          ⟨-, ⟨fresh, error, n, failed_at, rfl⟩, -⟩⟩
      · rw [Agent.trace_id_unknown_type_error]
        exact (hunknown k hrej).symm
      · obtain ⟨s, tr, hrun, hsub⟩ := hcalls.handler_run hmem
        rcases trace_id_reply hrun reply hreply with
          htrace | ⟨self, ctx, results, st, result, hstage, hplugins, hok, rfl⟩
        · exact htrace.trans Agent.trace_id_opened
        -- The reply is the TASK_RESULT of a Probe.
        obtain ⟨stage, c⟩ := e
        subst hstage
        obtain ⟨v, hv⟩ := Agent.encrypt_zero henc
        exact (hresult st ⟨ctx, results, result, topic, v, hsub _ hplugins, hok,
          reply_topic_task_result.symm.trans htopic, hv⟩).symm
      · exact Agent.trace_id_opened
    · exact Step.trace_id_sent hsend

/-- **When the trace id of a task is passed on.** -/
theorem tracePropagates_iff (run : List Step) :
    TracePropagates run ↔ ∀ e ∈ run, e.Traceable := by
  constructor
  · exact fun h e he => keepsTrace_iff.mp (h.steps e he)
  · intro h
    have hsteps : ∀ e ∈ run, e.KeepsTrace := fun e he => keepsTrace_iff.mpr (h e he)
    refine ⟨hsteps, fun task m _ hdesc => ?_⟩
    refine hdesc.induction (P := fun m => m.trace_id = task.trace_id) rfl ?_ fun _ _ h => h
    exact fun e he msg htrace hpub => (hsteps e he msg hpub).trans htrace

/-- The TASK_RESULT for a task has another trace id. -/
theorem task_result_untraced : ¬ ∀ run, TracePropagates run := by
  intro h
  obtain ⟨topic, msg, ⟨⟨ans, st, hev⟩, -⟩, hnew⟩ :=
    sample_answers (p := fun msg => msg.trace_id.eq_str "0011223344556677") (by decide +kernel)
  have htrace : msg.trace_id = .str "8899aabbccddeeff" :=
    (h [sample_step]).steps _ List.mem_cons_self msg ⟨topic, .inl ⟨ans, st, hev⟩⟩
  rw [htrace] at hnew
  revert hnew
  decide

end Aqap
