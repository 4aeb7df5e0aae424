import Aqap.Agent.Routing
import Aqap.Plugin.Validator

/-!
# The report of a task

What the Reporter publishes for a task comes from the plugins of the three stages. With the task on its way
through the agents (`Processing`), a report repeats the score and the decision of the Judge's verdict, and the
decision is that of the entries of the Judge's plugins.

* `passed_iff_approved`: a report says that the task has passed exactly if each entry of the Judge's plugins does.
* `never_passes`: no task passes where a validator in the Judge's stage looks for a field that its context never
  has.
-/

namespace Aqap

open Py Aqap.Core Async

/-- What one agent encrypts, another decrypts: both have the cipher disabled, or both have its secret. -/
def Core.PayloadCipher.Opens (sender receiver : PayloadCipher) : Prop :=
  ∀ n payload v, sender.encrypt_payload n payload = .ok v → receiver.decrypt_payload v = .ok payload

/-- Each agent opens what it gets, as the agents of one engine do. -/
structure Deployment.Shared (d : Deployment) : Prop where
  judge : d.probe.cipher.Opens d.judge.cipher
  reporter : d.judge.cipher.Opens d.reporter.cipher

/-- The payload of a JUDGE_REQUEST. -/
def evidence (task : Json) (result : List (String × Json)) : Json :=
  .obj [("task", task), ("result", .obj result)]

/-- The entry has no error, and does not say that it has not passed. -/
def PluginResult.approves (r : PluginResult) : Bool :=
  match r.error, r.result with
  | none, .obj fields => ((fields.lookup "passed").getD (.bool true)).truthy
  | _, _ => false

/-- An await of a consumption ran the plugins of `topic` and returned `results`. -/
def Consumption.Assessed {agent : Agent} {handler : Handler} (c : Consumption agent handler) (topic : String)
    (ctx : Json) (results : List PluginResult) : Prop :=
  ∃ st, (⟨.inr (.execute_all topic ctx), .ok results, st⟩ : AwaitEvent) ∈ c.events

/-! ## The verdict -/

theorem tally_passed {results : List PluginResult} {scores scores' : List Json} {passed passed' : Bool}
    (h : JudgeAgent.tally results scores passed = .ok (scores', passed')) :
    passed' = (passed && results.all PluginResult.approves) := by
  induction results generalizing scores passed with
  | nil =>
    cases h
    exact (Bool.and_true _).symm
  | cons r results ih =>
    unfold JudgeAgent.tally at h
    rw [List.all_cons]
    cases herror : r.error with
    | some e =>
      rw [herror] at h
      have happroves : r.approves = false := by
        unfold PluginResult.approves
        rw [herror]
      rw [ih h, happroves, Bool.false_and, Bool.and_false]
    | none =>
      rw [herror] at h
      obtain ⟨score, -, h⟩ := bind_ok h
      obtain ⟨plugin_passed, hpassed, h⟩ := bind_ok h
      have happroves : r.approves = plugin_passed.truthy := by
        unfold PluginResult.approves
        rw [herror]
        cases hresult : r.result with
        | obj fields =>
          rw [hresult] at hpassed
          cases hpassed
          rfl
        | _ =>
          rw [hresult] at hpassed
          cases hpassed
      rw [ih h, happroves, Bool.and_assoc]

/-- What a verdict says, from the entries of the plugins. -/
theorem verdict_fields {self : JudgeAgent} {task : Json} {result verdict : List (String × Json)}
    {results : List PluginResult} (h : self.verdict (evidence task result) results = .ok verdict) :
    verdict.lookup "passed" = some (.bool (results.all PluginResult.approves)) ∧
      ∃ task_id score, Payload.get task "task_id" (.str "unknown") = .ok task_id ∧
        verdict.lookup "task_id" = some task_id ∧ verdict.lookup "score" = some score := by
  obtain ⟨⟨scores, passed⟩, htally, h⟩ := bind_ok h
  dsimp only at h
  split at h
  all_goals
    obtain ⟨avg_score, -, h⟩ := bind_ok h
    obtain ⟨task', htask, h⟩ := bind_ok h
    cases htask
    obtain ⟨task_id, htask_id, h⟩ := bind_ok h
    obtain ⟨score, -, h⟩ := bind_ok h
    cases h
    rw [tally_passed htally, Bool.true_and]
    exact ⟨rfl, task_id, score, htask_id, rfl, rfl⟩

/-! ## From agent to agent -/

/-- An agent that opens what the other encrypts gets the payload of its reply. -/
theorem opened_reply {self other : Agent} {m msg m' : Message} {replies : List Message} {topic : String}
    (hopens : self.cipher.Opens other.cipher) (h : self.IsReply m replies topic msg) (hdelivered : Delivered msg m') :
    ∃ reply ∈ replies, reply.type = msg.type ∧ (other.opened m').payload = reply.payload := by
  obtain ⟨reply, hmem, n, payload, -, hencrypt, rfl⟩ := h
  refine ⟨reply, hmem, rfl, ?_⟩
  have hpayload : m'.payload = payload := by rw [hdelivered.eq]
  unfold Agent.opened
  rw [hpayload, hopens n _ _ hencrypt]

/-- The context of the plugins is the payload, with what `run_plugins` adds. -/
theorem run_plugins_context {R : AgentState → AgentState → Prop} {self : JudgeAgent} {m : Message}
    {s s' : AgentState} {tr : List HandlerEvent} {r : Except Exc (Option (List Message))}
    (h : Co.Run R (self.handle_message m) s tr s' r) {topic : String} {ctx : Json}
    {ans : Except Exc (List PluginResult)} {st : AgentState}
    (hev : (⟨.execute_all topic ctx, ans, st⟩ : HandlerEvent) ∈ tr) :
    ∃ current_message clock, Agent.plugin_context current_message clock m.payload = .ok ctx := by
  have hguarded : Co.Guarded (fun _ => True) (fun _ _ => True)
      (fun q => ∀ topic ctx, q = .execute_all topic ctx →
        ∃ current_message clock, Agent.plugin_context current_message clock m.payload = .ok ctx)
      (self.handle_message m) := by
    unfold JudgeAgent.handle_message
    split
    · refine .bind ?_ fun verdict => ?_
      · refine .bind ?_ fun results => .lift _
        refine .read_bind fun s _ => .lift_bind fun ctx' hctx' => .call ?_
        rintro topic ctx ⟨⟩
        exact ⟨_, _, hctx'⟩
      · refine .bind (.read_bind fun s _ => ?_) fun fresh => ?_
        · exact .bind (.update fun _ _ => ⟨trivial, trivial⟩) fun _ => .pure _
        · refine .lift_bind fun payload _ => .bind (.read_bind fun s _ => ?_) fun fresh' => .pure _
          exact .bind (.update fun _ _ => ⟨trivial, trivial⟩) fun _ => .pure _
    · exact .pure _
  exact ((hguarded.run (fun _ _ _ h => h) trivial h).2 _ hev).1 topic ctx rfl

section

variable {d : Deployment} (p : Processing d)

/-- The task, as the Probe opens it. -/
def Processing.task : Json := (d.probe.opened p.probed.message).payload

variable {p}

/-- What the Judge opens is the evidence of the Probe. -/
theorem opened_request (hshared : d.Shared) : ∃ ctx results result, p.probed.Assessed "probe" ctx results ∧
    d.probe.probe_result p.task results = .ok result ∧
    (d.judge.opened p.judged.message).payload = evidence p.task result := by
  obtain ⟨topic, msg, hpublishes, htype, hdelivered⟩ := p.requested
  rcases Step.publishes_cases (e := ⟨.probe d.probe, p.probed⟩) hpublishes with
    hsend | herror | ⟨replies, hreturns, hreply⟩
  · exact absurd hsend Consumption.sends_probe
  · cases herror.symm.trans htype
  obtain ⟨reply, hmem, hreply_type, hopened⟩ := opened_reply hshared.judge hreply hdelivered
  obtain ⟨r, s, s', tr, rfl, hrun, hsub⟩ := hreturns.run
  rcases probe_returns hrun with ⟨-, rfl⟩ | ⟨-, ctx, results, st, result, rfl, hresult, rfl⟩
  · cases hmem
  refine ⟨ctx, results, result, ⟨st, hsub _ List.mem_cons_self⟩, hresult, ?_⟩
  rcases List.mem_cons.mp hmem with rfl | hmem
  · cases hreply_type.trans htype
  · cases List.mem_singleton.mp hmem
    exact hopened

/-- What the Reporter opens has the task, the result and the verdict. -/
theorem opened_report_request (hshared : d.Shared) : ∃ ctx results result verdict,
    p.judged.Assessed "judge" ctx results ∧
    (∃ current_message clock, Agent.plugin_context current_message clock (evidence p.task result) = .ok ctx) ∧
    d.judge.verdict (evidence p.task result) results = .ok verdict ∧
    (d.reporter.opened p.reported.message).payload =
      .obj [("task", p.task), ("result", .obj result), ("verdict", .obj verdict)] := by
  obtain ⟨-, -, result, -, -, hevidence⟩ := opened_request (p := p) hshared
  obtain ⟨topic, msg, hpublishes, htype, hdelivered⟩ := p.report_requested
  rcases Step.publishes_cases (e := ⟨.judge d.judge, p.judged⟩) hpublishes with
    hsend | herror | ⟨replies, hreturns, hreply⟩
  · exact absurd hsend Consumption.sends_judge
  · cases herror.symm.trans htype
  obtain ⟨reply, hmem, hreply_type, hopened⟩ := opened_reply hshared.reporter hreply hdelivered
  obtain ⟨r, s, s', tr, rfl, hrun, hsub⟩ := hreturns.run
  cases r with
  | none => cases hmem
  | some replies =>
    obtain ⟨ctx, results, st, hev⟩ := judge_plugins hrun
    rcases judge_replies hrun hev with ⟨text, -, ⟨⟩⟩ | ⟨verdict, payload, hverdict, hpayload, hreplies⟩
    cases hreplies
    have hcontext := run_plugins_context hrun hev
    rw [show ((Stage.judge d.judge).agent.opened (Step.message ⟨.judge d.judge, p.judged⟩)).payload =
      evidence p.task result from hevidence] at hverdict hpayload hcontext
    refine ⟨ctx, results, result, verdict, ⟨st, hsub _ hev⟩, hcontext, hverdict, ?_⟩
    cases hpayload
    rcases List.mem_cons.mp hmem with rfl | hmem
    · cases hreply_type.trans htype
    · cases List.mem_singleton.mp hmem
      exact hopened

/-! ## The report -/

/-- A reply of the Reporter is its report. -/
theorem reporter_reply {R : AgentState → AgentState → Prop} {self : ReporterAgent} {m reply : Message}
    {s s' : AgentState} {tr : List HandlerEvent} {r : Option (List Message)}
    (h : Co.Run R (self.handle_message m) s tr s' (.ok r)) (hmem : reply ∈ r.getD []) :
    ∃ at_time results report, self.report at_time m.payload results = .ok report ∧ reply.payload = .obj report := by
  generalize hr : Except.ok r = outcome at h
  cases run_reporter h with
  | ignored htype =>
    cases hr
    cases hmem
  | failed => cases hr
  | @reported _ fresh _ at_time results report ans _ _ _ hok =>
    cases ans with
    | error e => cases hr
    | ok u =>
      cases hr
      rw [List.mem_singleton.mp hmem]
      exact ⟨at_time, results, report, hok, rfl⟩

/-- The payload of a message is a value, in clear or encrypted. -/
def Core.Message.Carries (msg : Message) (cipher : PayloadCipher) (v : Json) : Prop :=
  msg.payload = v ∨ ∃ n, cipher.encrypt_payload n v = .ok msg.payload

/-- Every REPORT_DELIVER carries a report on what the Reporter opened. -/
theorem delivered_report {self : ReporterAgent} {c : Consumption self.toAgent self.handle_message} {topic : String}
    {msg : Message} (h : c.Publishes topic msg) (htype : msg.type = .REPORT_DELIVER) :
    ∃ at_time results report, self.report at_time (self.opened c.message).payload results = .ok report ∧
      msg.Carries self.cipher (.obj report) := by
  rcases Step.publishes_cases (e := ⟨.reporter self, c⟩) h with hsend | herror | ⟨replies, hreturns, hreply⟩
  · obtain ⟨-, fresh, at_time, results, report, hok, rfl⟩ := Consumption.sends_reporter hsend
    exact ⟨at_time, results, report, hok, .inl rfl⟩
  · cases herror.symm.trans htype
  obtain ⟨reply, hmem, n, payload, -, hencrypt, rfl⟩ := hreply
  obtain ⟨r, s, s', tr, rfl, hrun, -⟩ := hreturns.run
  obtain ⟨at_time, results, report, hok, hpayload⟩ := reporter_reply hrun hmem
  rw [hpayload] at hencrypt
  exact ⟨at_time, results, report, hok, .inr ⟨n, hencrypt⟩⟩

/-- The summary of a task that has not passed. -/
def failed_summary (self : ReporterAgent) (score : Json) : String :=
  "❌ 质量不达标 (得分: " ++ self.text score ++ ") — 需人工复审"

theorem head_append {a b : String} {c : Char} (h : a.toList.head? = some c) : (a ++ b).toList.head? = some c := by
  rw [String.toList_append, List.head?_append, h]
  rfl

/-- The summary tells what the verdict was. -/
theorem summary_failed_iff {self : ReporterAgent} {task result score : Json} {passed : Bool}
    {verdict : List (String × Json)} {summary : String} (hpassed : verdict.lookup "passed" = some (.bool passed))
    (hscore : verdict.lookup "score" = some score)
    (h : self.build_summary (.obj [("task", task), ("result", result), ("verdict", .obj verdict)]) = .ok summary) :
    passed = false ↔ summary = failed_summary self score := by
  obtain ⟨verdict', hverdict, h⟩ := bind_ok h
  cases hverdict
  obtain ⟨score', hscore', h⟩ := bind_ok h
  obtain ⟨passed', hpassed', h⟩ := bind_ok h
  cases hscore'
  cases hpassed'
  rw [hpassed, hscore] at h
  cases passed with
  | false =>
    cases h
    exact iff_of_true rfl rfl
  | true =>
    obtain ⟨excellent, -, h⟩ := bind_ok h
    refine iff_of_false Bool.noConfusion fun hsummary => ?_
    -- The three texts begin with different signs.
    have hfailed : (failed_summary self score).toList.head? = some '❌' := head_append (head_append rfl)
    rw [← hsummary] at hfailed
    have hother : summary.toList.head? = some '✅' ∨ summary.toList.head? = some '⚠' := by
      cases excellent with
      | true =>
        cases h
        exact .inl (head_append (head_append rfl))
      | false =>
        cases h
        exact .inr (head_append (head_append rfl))
    rcases hother with hother | hother <;> cases hfailed.symm.trans hother

/-- A report repeats its verdict. -/
theorem report_fields {self : ReporterAgent} {at_time : String} {task result score : Json} {passed : Bool}
    {verdict report : List (String × Json)} {results : List PluginResult}
    (hpassed : verdict.lookup "passed" = some (.bool passed)) (hscore : verdict.lookup "score" = some score)
    (h : self.report at_time (.obj [("task", task), ("result", result), ("verdict", .obj verdict)]) results =
      .ok report) :
    report.lookup "passed" = some (.bool passed) ∧ report.lookup "score" = some score ∧
      (∃ task_id, Payload.get task "task_id" (.str "unknown") = .ok task_id ∧
        report.lookup "task_id" = some task_id) ∧
      (passed = false ↔ report.lookup "summary" = some (.str (failed_summary self score))) := by
  obtain ⟨task', htask, h⟩ := bind_ok h
  cases htask
  obtain ⟨task_id, htask_id, h⟩ := bind_ok h
  obtain ⟨name, -, h⟩ := bind_ok h
  obtain ⟨verdict', hverdict, h⟩ := bind_ok h
  cases hverdict
  obtain ⟨score', hscore', h⟩ := bind_ok h
  obtain ⟨passed', hpassed', h⟩ := bind_ok h
  obtain ⟨summary, hsummary, h⟩ := bind_ok h
  cases h
  have hscore'' : score' = score := by
    cases hscore'
    rw [hscore]
    rfl
  have hpassed'' : passed' = .bool passed := by
    cases hpassed'
    rw [hpassed]
    rfl
  refine ⟨congrArg some hpassed'', congrArg some hscore'', ⟨task_id, htask_id, rfl⟩, ?_⟩
  rw [summary_failed_iff hpassed hscore hsummary]
  refine ⟨fun h => h ▸ rfl, fun h => ?_⟩
  cases h
  rfl

/-- **A task passes if each plugin of the Judge lets it.** Every REPORT_DELIVER for a task that went through three
agents that open what they get, to the requester or to everyone, carries a report with the decision and the score
of the verdict that the Judge made from the entries of its plugins. The decision is positive exactly if none of
these has an error or a `passed` that is not truthy, and the summary speaks of a failure exactly if the decision
is negative. -/
theorem passed_iff_approved (p : Processing d) (hshared : d.Shared) {topic : String} {msg : Message}
    (hpublishes : p.reported.Publishes topic msg) (htype : msg.type = .REPORT_DELIVER) :
    ∃ ctx results result verdict score task_id report, p.judged.Assessed "judge" ctx results ∧
      d.judge.verdict (evidence p.task result) results = .ok verdict ∧
      verdict.lookup "score" = some score ∧ Payload.get p.task "task_id" (.str "unknown") = .ok task_id ∧
      msg.Carries d.reporter.cipher (.obj report) ∧
      report.lookup "passed" = some (.bool (results.all PluginResult.approves)) ∧
      report.lookup "score" = some score ∧ report.lookup "task_id" = some task_id ∧
      (results.all PluginResult.approves = false ↔
        report.lookup "summary" = some (.str (failed_summary d.reporter score))) := by
  obtain ⟨ctx, results, result, verdict, hassessed, -, hverdict, hopened⟩ := opened_report_request (p := p) hshared
  obtain ⟨at_time, reporter_results, report, hreport, hcarries⟩ := delivered_report hpublishes htype
  rw [hopened] at hreport
  obtain ⟨hpassed, -, score, -, -, hscore⟩ := verdict_fields hverdict
  obtain ⟨hreport_passed, hreport_score, ⟨task_id, htask_id, hreport_id⟩, hsummary⟩ :=
    report_fields hpassed hscore hreport
  exact ⟨ctx, results, result, verdict, score, task_id, report, hassessed, hverdict, hscore, htask_id, hcarries,
    hreport_passed, hreport_score, hreport_id, hsummary⟩

/-! ## The validator of the Judge -/

/-- The keys of the context of the Judge's plugins. -/
def judge_context_keys : List String :=
  ["task", "result", "_aqap_start_time", "_aqap_trace_id", "_aqap_message_type", "_aqap_source"]

theorem filled_plugin_context {current_message : Option Message} {clock : Int} {task ctx : Json}
    {result : List (String × Json)} {key : String} (hkey : key ∉ judge_context_keys)
    (h : Agent.plugin_context current_message clock (evidence task result) = .ok ctx) :
    ScorerPlugin.filled ctx (.str key) = .ok false := by
  simp only [judge_context_keys, List.mem_cons, List.not_mem_nil, or_false, not_or] at hkey
  obtain ⟨htask, hresult, htime, htrace, hmessage_type, hsource⟩ := hkey
  have hevidence : List.lookup key [("task", task), ("result", Json.obj result)] = none := by
    rw [Dict.lookup_cons_eq, if_neg htask, Dict.lookup_cons_eq, if_neg hresult]
    rfl
  cases current_message with
  | none =>
    cases h
    simp only [ScorerPlugin.filled, Json.key, Except.map, hevidence, Option.isSome_none]
  | some message =>
    cases h
    simp only [ScorerPlugin.filled, Json.key, Except.map, Dict.lookup_setItem, if_neg htime, if_neg htrace,
      if_neg hmessage_type, if_neg hsource, hevidence, Option.isSome_none]

/-- The plugins of a topic that a consumption ran are those of a registry, and `execute` is what they do. -/
def Consumption.HostedBy {agent : Agent} {handler : Handler} (c : Consumption agent handler)
    (registry : Plugins.PluginRegistry) (execute : Plugins.Plugin → Json → Except String (List (String × Json)))
    (topic : String) : Prop :=
  ∀ ctx results, c.Assessed topic ctx results →
    results = (registry.execute_all (fun plugin => (execute plugin ctx).map .obj) topic).map
      PluginResult.of_execution

/-- The validator looks for a field that the context of the Judge's plugins never has, or was not initialised. -/
def ValidatorPlugin.Misplaced (self : ValidatorPlugin) : Prop :=
  ∀ required_fields, self.required_fields = some required_fields →
    ∃ required key, elements required_fields = .ok required ∧ .str key ∈ required ∧ key ∉ judge_context_keys

/-- **No task passes a misplaced validator.** Where a validator is bound to the Judge's stage with a required field
that is neither a key of the evidence nor one that `run_plugins` adds, as `task_id`, `passed` and `plugin_results` of
the configuration file are, or with no configuration at all, every report of every task says that it has not passed,
whatever the other plugins and the Probe found. -/
theorem never_passes (p : Processing d) (hshared : d.Shared) {registry : Plugins.PluginRegistry}
    {execute : Plugins.Plugin → Json → Except String (List (String × Json))}
    (hhosted : p.judged.HostedBy registry execute "judge") {plugin : Plugins.Plugin} {validator : ValidatorPlugin}
    {now : String} (hbound : plugin ∈ registry.get_for_topic "judge")
    (hexecute : ∀ ctx, execute plugin ctx = validator.execute now ctx) (hmisplaced : validator.Misplaced)
    {topic : String} {msg : Message} (hpublishes : p.reported.Publishes topic msg)
    (htype : msg.type = .REPORT_DELIVER) :
    ∃ report score, msg.Carries d.reporter.cipher (.obj report) ∧ report.lookup "passed" = some (.bool false) ∧
      report.lookup "summary" = some (.str (failed_summary d.reporter score)) := by
  obtain ⟨ctx, results, result, verdict, hassessed, ⟨current_message, clock, hcontext⟩, hverdict, hopened⟩ :=
    opened_report_request (p := p) hshared
  obtain ⟨at_time, reporter_results, report, hreport, hcarries⟩ := delivered_report hpublishes htype
  rw [hopened] at hreport
  obtain ⟨hpassed, -, score, -, -, hscore⟩ := verdict_fields hverdict
  have hrejected : results.all PluginResult.approves = false := by
    rw [hhosted ctx results hassessed]
    refine List.all_eq_false.mpr ⟨PluginResult.of_execution (plugin.name, (execute plugin ctx).map .obj), ?_, ?_⟩
    · exact List.mem_map_of_mem (List.mem_map_of_mem hbound)
    · have hlacking : validator.Lacking ctx := fun required_fields h => by
        obtain ⟨required, key, helements, hmem, hkey⟩ := hmisplaced required_fields h
        exact ⟨required, .str key, helements, hmem, filled_plugin_context hkey hcontext⟩
      rw [hexecute]
      cases hreported : validator.execute now ctx with
      | error e => exact Bool.false_ne_true
      | ok fields =>
        have hfailed := ValidatorPlugin.execute_lacking hlacking hreported
        simp [PluginResult.of_execution, PluginResult.approves, Except.map, hfailed, Json.truthy]
  rw [hrejected] at hpassed
  obtain ⟨hreport_passed, -, -, hsummary⟩ := report_fields hpassed hscore hreport
  exact ⟨report, score, hcarries, hreport_passed, hsummary.mp rfl⟩

end

/-! ## Samples -/

/-- A registry with one plugin for the Judge. -/
def sample_judge_registry : Plugins.PluginRegistry :=
  Plugins.PluginRegistry.empty.register ⟨"validator", "1.0.0"⟩ (some ["judge"])

def sample_validator : ValidatorPlugin := .initialized (fun _ => "") none

/-- The plugins are those of the registry. -/
def hosted_await : (q : Await) → Except Exc (Await.Answer q)
  | .inl q => sample_answer (.ok none) q
  | .inr (.publish _ _) => .ok ()
  | .inr (.execute_all topic ctx) =>
    .ok ((sample_judge_registry.execute_all
      (fun _ => (sample_validator.execute "2026-01-01T00:00:00+00:00" ctx).map .obj) topic).map
        PluginResult.of_execution)
  | .inr (.other _ _) => .ok .null

def hosted_judged : Consumption sample_deployment.judge.toAgent sample_deployment.judge.handle_message :=
  .exec _ (Topic.agent_inbox "judge-1") sample_probed.second (AgentState.started 0) hosted_await

/-- The task passes through the three agents, and the Judge runs the validator. -/
def hosted_processing : Processing sample_deployment where
  probed := sample_probed
  judged := hosted_judged
  reported :=
    .exec _ (Topic.agent_inbox "reporter-1") hosted_judged.second (AgentState.started 0) sample_await
  dispatched := sample_processing.dispatched
  requested := sample_processing.requested
  report_requested := by
    obtain ⟨topic, hpub⟩ := Consumption.publishes_second (c := hosted_judged) (by decide +kernel)
    exact ⟨topic, _, hpub, by decide +kernel, .refl _⟩

theorem sample_shared : sample_deployment.Shared where
  judge n payload v h := by
    cases h
    rfl
  reporter n payload v h := by
    cases h
    rfl

/-- Without plugins the task passes. -/
theorem passed_sample : ∃ (results : List PluginResult) (report : List (String × Json)),
    sample_processing.reported.second.Carries sample_deployment.reporter.cipher (.obj report) ∧
      report.lookup "passed" = some (.bool (results.all PluginResult.approves)) := by
  obtain ⟨topic, hpublishes⟩ := Consumption.publishes_second (c := sample_processing.reported) (by decide +kernel)
  obtain ⟨ctx, results, result, verdict, score, task_id, report, -, -, -, -, hcarries, hpassed, -⟩ :=
    passed_iff_approved sample_processing sample_shared hpublishes (by decide +kernel)
  exact ⟨results, report, hcarries, hpassed⟩

theorem hosted_sample : hosted_processing.judged.HostedBy sample_judge_registry
    (fun _ ctx => sample_validator.execute "2026-01-01T00:00:00+00:00" ctx) "judge" := by
  rintro ctx results ⟨st, hev⟩
  exact Except.ok.inj (Co.exec_ans hosted_await _ _ _ hev)

/-- With the default configuration of the validator, it does not. -/
theorem never_passes_sample : ∃ report : List (String × Json),
    hosted_processing.reported.second.Carries sample_deployment.reporter.cipher (.obj report) ∧
      report.lookup "passed" = some (.bool false) := by
  obtain ⟨topic, hpublishes⟩ := Consumption.publishes_second (c := hosted_processing.reported) (by decide +kernel)
  have hbound : (⟨"validator", "1.0.0"⟩ : Plugins.Plugin) ∈ sample_judge_registry.get_for_topic "judge" := by
    decide +kernel
  have hmisplaced : sample_validator.Misplaced := by
    intro required_fields h
    cases h
    exact ⟨_, "task_id", rfl, List.mem_cons_self, by decide⟩
  obtain ⟨report, score, hcarries, hpassed, -⟩ := never_passes hosted_processing sample_shared hosted_sample hbound
    (fun _ => rfl) hmisplaced hpublishes (by decide +kernel)
  exact ⟨report, hcarries, hpassed⟩

end Aqap
