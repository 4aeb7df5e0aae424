import Aqap.Agent.Handlers

/-!
# Probe, Judge and Reporter

The handlers of the three agents. Each answers one type of message, after it ran the plugins of its
stage; what it makes of their results is code without awaits, and raises where a value is not the
dictionary that the code takes it for. The arithmetic on scores is in `Numbers`.

* `run_probe`, `run_judge`, `run_reporter`: the ways through a handler (`Probed`, `Judged`, `Reported`).
* `probe_returns`, `judge_returns`, `reporter_returns`: its replies.
-/

namespace Aqap

open Py Aqap.Core Async

/-- Python's arithmetic on scores; it raises on values that are no numbers. -/
structure Numbers where
  /-- `sum(scores) / len(scores)` -/
  mean : List Json → Except String Json
  /-- `round(x, 4)` -/
  round : Json → Except String Json
  /-- `score >= 0.9` -/
  excellent : Json → Except String Bool

/-- `ProbeAgent`, with the Judge that it sends to. -/
structure ProbeAgent extends Agent where
  judge_target : String := "judge-1"

/-- `JudgeAgent`, with the Reporter that it sends to. -/
structure JudgeAgent extends Agent where
  numbers : Numbers
  reporter_target : String := "reporter-1"

/-- `ReporterAgent` -/
structure ReporterAgent extends Agent where
  numbers : Numbers

/-- The results of the plugins, as the value of a payload. -/
def plugin_results_value (plugin_results : List PluginResult) : Json :=
  .arr (plugin_results.map fun r => .obj r.to_dict)

/-! ## Probe -/

namespace ProbeAgent

variable (self : ProbeAgent)

/-- `all(r.get("result", {}).get("passed", True) for r in plugin_results if r["error"] is None)` -/
def all_passed : List PluginResult → Except String Bool
  | [] => pure true
  | r :: plugin_results =>
    match r.error with
    | some _ => all_passed plugin_results
    | none => do
      let passed ← Payload.get r.result "passed" (.bool true)
      if passed.truthy then all_passed plugin_results else pure false

/-- The result of `_probe`, from those of the plugins. -/
def probe_result (task : Json) (plugin_results : List PluginResult) :
    Except String (List (String × Json)) := do
  let task_id ← Payload.get task "task_id" (.str "unknown")
  let passed ← all_passed plugin_results
  pure [
    ("task_id", task_id),
    ("agent", .str self.agent_id),
    ("plugin_results", plugin_results_value plugin_results),
    ("passed", .bool passed)]

/-- `probe`: the task goes through the plugins. -/
def probe (task : Json) : HandlerCo (List (String × Json)) := do
  let plugin_results ← Agent.run_plugins "probe" task
  Co.lift (self.probe_result task plugin_results)

/-- The JUDGE_REQUEST for a result. -/
def judge_msg (fresh : Fresh) (message : Message) (result : List (String × Json)) : Message :=
  { message.reply fresh .JUDGE_REQUEST [("task", message.payload), ("result", .obj result)] with
    target := .str self.judge_target }

/-- `handle_message` of the probe; other types are ignored. -/
def handle_message : Handler := fun message =>
  if message.type = .TASK_DISPATCH then do
    let result ← self.probe message.payload
    let fresh ← self.new_fresh
    let result_msg := task_result fresh self.agent_id result
    let fresh ← self.new_fresh
    let judge_msg := self.judge_msg fresh message result
    pure (some [result_msg, judge_msg])
  else pure none

end ProbeAgent

/-! ## Judge -/

namespace JudgeAgent

variable (self : JudgeAgent)

/-- The scores of the plugins, and whether all of them passed. -/
def tally : List PluginResult → List Json → Bool → Except String (List Json × Bool)
  | [], scores, passed => pure (scores, passed)
  | pr :: plugin_results, scores, passed =>
    match pr.error with
    | none => do
      let score ← Payload.get pr.result "score" (.float (.finite false (1 / 2)))
      let plugin_passed ← Payload.get pr.result "passed" (.bool true)
      tally plugin_results (scores ++ [score]) (passed && plugin_passed.truthy)
    | some _ => tally plugin_results (scores ++ [.float (.finite false 0)]) false

/-- The verdict of `_judge`, from the results of the plugins. -/
def verdict (evidence : Json) (plugin_results : List PluginResult) :
    Except String (List (String × Json)) := do
  let (scores, passed) ← tally plugin_results [] true
  let avg_score ← if scores.isEmpty then pure (.float (.finite false 0)) else self.numbers.mean scores
  let task ← Payload.get evidence "task" (.obj [])
  let task_id ← Payload.get task "task_id" (.str "unknown")
  let score ← self.numbers.round avg_score
  pure [
    ("task_id", task_id),
    ("agent", .str self.agent_id),
    ("score", score),
    ("passed", .bool passed),
    ("details", plugin_results_value plugin_results)]

/-- `judge`: the plugins assess the evidence, and their entries make the verdict. -/
def judge (evidence : Json) : HandlerCo (List (String × Json)) := do
  let plugin_results ← Agent.run_plugins "judge" evidence
  Co.lift (self.verdict evidence plugin_results)

/-- The JUDGE_VERDICT, with the trace and the correlation id of the request. -/
def verdict_msg (fresh : Fresh) (message : Message) (verdict : List (String × Json)) : Message :=
  { judge_verdict fresh self.agent_id verdict with
    trace_id := message.trace_id
    correlation_id := message.correlation_id }

/-- The payload of the REPORT_REQUEST. -/
def report_payload (evidence : Json) (verdict : List (String × Json)) :
    Except String (List (String × Json)) := do
  let task ← Payload.get evidence "task" (.obj [])
  let result ← Payload.get evidence "result" (.obj [])
  pure [("task", task), ("result", result), ("verdict", .obj verdict)]

/-- The REPORT_REQUEST that goes on. -/
def report_msg (fresh : Fresh) (message : Message) (payload : List (String × Json)) : Message :=
  { message.reply fresh .REPORT_REQUEST payload with target := .str self.reporter_target }

/-- `handle_message` of the judge. -/
def handle_message : Handler := fun message =>
  if message.type = .JUDGE_REQUEST then do
    let verdict ← self.judge message.payload
    let fresh ← self.new_fresh
    let verdict_msg := self.verdict_msg fresh message verdict
    let payload ← Co.lift (report_payload message.payload verdict)
    let fresh ← self.new_fresh
    let report_msg := self.report_msg fresh message payload
    pure (some [verdict_msg, report_msg])
  else pure none

end JudgeAgent

/-! ## Reporter -/

namespace ReporterAgent

variable (self : ReporterAgent)

/-- The sentence of the report. -/
def build_summary (data : Json) : Except String String := do
  let verdict ← Payload.get data "verdict" (.obj [])
  let score ← Payload.get verdict "score" (.int 0)
  let passed ← Payload.get verdict "passed" (.bool false)
  if !passed.truthy then
    pure ("❌ 质量不达标 (得分: " ++ self.text score ++ ") — 需人工复审")
  else
    let excellent ← self.numbers.excellent score
    if excellent then pure ("✅ 质量优秀 (得分: " ++ self.text score ++ ")")
    else pure ("⚠️ 质量达标但需关注 (得分: " ++ self.text score ++ ")")

/-- The report of `_generate_report`, from the results of the plugins. -/
def report (generated_at : String) (data : Json) (plugin_results : List PluginResult) :
    Except String (List (String × Json)) := do
  let task ← Payload.get data "task" (.obj [])
  let task_id ← Payload.get task "task_id" (.str "unknown")
  let name ← Payload.get task "name" (.str "unknown")
  let verdict ← Payload.get data "verdict" (.obj [])
  let score ← Payload.get verdict "score" (.float (.finite false 0))
  let passed ← Payload.get verdict "passed" (.bool false)
  let summary ← self.build_summary data
  pure [
    ("task_id", task_id),
    ("title", .str ("AQAP Report — " ++ self.text name)),
    ("generated_at", .str generated_at),
    ("score", score),
    ("passed", passed),
    ("summary", .str summary),
    ("plugin_results", plugin_results_value plugin_results)]

/-- `generate_report` -/
def generate_report (data : Json) : HandlerCo (List (String × Json)) := do
  let plugin_results ← Agent.run_plugins "reporter" data
  let generated_at ← Co.read fun s => self.rt.isoformat s.clock
  Co.lift (self.report generated_at data plugin_results)

/-- The report for the source of the message. -/
def deliver_msg (fresh : Fresh) (message : Message) (report : List (String × Json)) : Message :=
  { Message.new fresh .REPORT_DELIVER (.str self.agent_id) report with
    target := message.source
    trace_id := message.trace_id
    correlation_id := message.correlation_id }

/-- The report for everyone. -/
def broadcast (fresh : Fresh) (message : Message) (report : List (String × Json)) : Message :=
  { Message.new fresh .REPORT_DELIVER (.str self.agent_id) report with trace_id := message.trace_id }

/-- `handle_message` of the reporter: the report goes to the requester and to everyone. -/
def handle_message : Handler := fun message =>
  if message.type = .REPORT_REQUEST then do
    let report ← self.generate_report message.payload
    let fresh ← self.new_fresh
    let deliver_msg := self.deliver_msg fresh message report
    let fresh ← self.new_fresh
    let broadcast := self.broadcast fresh message report
    self.send broadcast
    pure (some [deliver_msg])
  else pure none

end ReporterAgent

/-! ## Runs of the handlers -/

variable {R : AgentState → AgentState → Prop} {m : Message} {s s' : AgentState}
  {tr : List HandlerEvent}

/-- The events run the plugins of `topic`. -/
def RunsPlugins (topic : String) (tr : List HandlerEvent) : Prop :=
  ∀ ev ∈ tr, ∃ ctx, ev.req = .execute_all topic ctx

namespace Agent

variable {self : Agent}

theorem run_new_fresh_bind {α : Type} {f : Fresh → HandlerCo α} {r : Except Exc α} :
    Co.Run R (self.new_fresh >>= f) s tr s' r ↔
      Co.Run R (f (self.rt.fresh s.made s.clock)) { s with made := s.made + 1 } tr s' r := Iff.rfl

theorem run_run_plugins {topic : String} {context : Json} {r : Except Exc (List PluginResult)}
    (h : Co.Run R (run_plugins topic context) s tr s' r) :
    (tr = [] ∧ ∃ text, r = .error (.error text)) ∨ ∃ ctx, tr = [⟨.execute_all topic ctx, r, s'⟩] := by
  unfold run_plugins at h
  rw [Co.run_read_bind] at h
  rcases Co.run_lift_bind.mp h with ⟨text, -, rfl, -, rfl⟩ | ⟨ctx, -, h⟩
  · exact .inl ⟨rfl, text, rfl⟩
  · exact .inr ⟨ctx, (Co.run_call.mp h).1⟩

/-- A run that starts with the plugins: no context could be made, or they failed, or `f` goes on with
their results. -/
theorem run_run_plugins_bind {α : Type} {topic : String} {context : Json}
    {f : List PluginResult → HandlerCo α} {r : Except Exc α}
    (h : Co.Run R (run_plugins topic context >>= f) s tr s' r) :
    (RunsPlugins topic tr ∧ (∃ e, r = .error e) ∧
        ∀ ctx results st, (⟨.execute_all topic ctx, .ok results, st⟩ : HandlerEvent) ∉ tr) ∨
      ∃ ctx results st rest, tr = ⟨.execute_all topic ctx, .ok results, st⟩ :: rest ∧
        Co.Run R (f results) st rest s' r := by
  rcases Co.run_bind.mp h with ⟨e, hp, rfl⟩ | ⟨results, t₁, st, t₂, hp, rfl, h₂⟩
  · left
    rcases run_run_plugins hp with ⟨rfl, -⟩ | ⟨ctx, rfl⟩
    · exact ⟨fun _ h => absurd h List.not_mem_nil, ⟨e, rfl⟩, fun _ _ _ h => nomatch h⟩
    · refine ⟨fun ev hev => ?_, ⟨e, rfl⟩, fun ctx' results st h => ?_⟩
      · rw [List.mem_singleton] at hev
        subst hev
        exact ⟨ctx, rfl⟩
      · cases List.mem_singleton.mp h
  · rcases run_run_plugins hp with ⟨-, text, ⟨⟩⟩ | ⟨ctx, rfl⟩
    exact .inr ⟨ctx, results, st, t₂, rfl, h₂⟩

end Agent

/-- A run of plugins that returned. -/
theorem runsPlugins_singleton {topic : String} {ctx : Json} {ans : Except Exc (List PluginResult)}
    {st : AgentState} : RunsPlugins topic [⟨.execute_all topic ctx, ans, st⟩] := by
  intro ev hev
  rw [List.mem_singleton] at hev
  subst hev
  exact ⟨ctx, rfl⟩

/-- The replies of the probe, when it goes on in the state `s`. -/
def ProbeAgent.replies (self : ProbeAgent) (s : AgentState) (m : Message)
    (result : List (String × Json)) : List Message := [
  task_result (self.rt.fresh s.made s.clock) self.agent_id result,
  self.judge_msg (self.rt.fresh (s.made + 1) s.clock) m result]

/-- The ways through the handler of the probe. -/
inductive Probed (self : ProbeAgent) (m : Message) :
    List HandlerEvent → Except Exc (Option (List Message)) → Prop
  | ignored : m.type ≠ .TASK_DISPATCH → Probed self m [] (.ok none)
  /-- The plugins did not run, or failed, or gave no result. -/
  | failed {tr : List HandlerEvent} {e : Exc} : m.type = .TASK_DISPATCH → RunsPlugins "probe" tr →
      (∀ ctx results st, (⟨.execute_all "probe" ctx, .ok results, st⟩ : HandlerEvent) ∈ tr →
        ∃ text, self.probe_result m.payload results = .error text) →
      Probed self m tr (.error e)
  | probed {ctx : Json} {results : List PluginResult} {st : AgentState}
      {result : List (String × Json)} : m.type = .TASK_DISPATCH →
      self.probe_result m.payload results = .ok result →
      Probed self m [⟨.execute_all "probe" ctx, .ok results, st⟩]
        (.ok (some (self.replies st m result)))

theorem run_probe {self : ProbeAgent} {r : Except Exc (Option (List Message))}
    (h : Co.Run R (self.handle_message m) s tr s' r) : Probed self m tr r := by
  unfold ProbeAgent.handle_message at h
  split at h
  · rename_i htype
    unfold ProbeAgent.probe at h
    rw [Co.bind_assoc] at h
    rcases Agent.run_run_plugins_bind h with
      ⟨hplugins, ⟨e, rfl⟩, hnone⟩ | ⟨ctx, results, st, rest, rfl, hrest⟩
    · exact .failed htype hplugins fun ctx results st hev => absurd hev (hnone ctx results st)
    rcases Co.run_lift_bind.mp hrest with ⟨text, herr, rfl, -, rfl⟩ | ⟨result, hresult, hend⟩
    · refine .failed htype runsPlugins_singleton fun ctx' results' st' hev => ?_
      cases List.mem_singleton.mp hev
      exact ⟨text, herr⟩
    · obtain ⟨rfl, -, rfl⟩ := hend
      exact .probed htype hresult
  · rename_i htype
    obtain ⟨rfl, -, rfl⟩ := h
    exact .ignored htype

/-- What the probe returns, if it does. -/
theorem probe_returns {self : ProbeAgent} {r : Option (List Message)}
    (h : Co.Run R (self.handle_message m) s tr s' (.ok r)) :
    (m.type ≠ .TASK_DISPATCH ∧ r = none) ∨ (m.type = .TASK_DISPATCH ∧ ∃ ctx results st result,
      tr = [⟨.execute_all "probe" ctx, .ok results, st⟩] ∧
      self.probe_result m.payload results = .ok result ∧ r = some (self.replies st m result)) := by
  cases run_probe h with
  | ignored htype => exact .inl ⟨htype, rfl⟩
  | probed htype hresult => exact .inr ⟨htype, _, _, _, _, rfl, hresult, rfl⟩

/-- The probe replies if it can make a result from those of its plugins. -/
theorem probe_replies {self : ProbeAgent} {ctx : Json} {results : List PluginResult} {st : AgentState}
    {r : Except Exc (Option (List Message))} (h : Co.Run R (self.handle_message m) s tr s' r)
    (hev : (⟨.execute_all "probe" ctx, .ok results, st⟩ : HandlerEvent) ∈ tr) :
    (∃ text, self.probe_result m.payload results = .error text) ∨
      ∃ result, self.probe_result m.payload results = .ok result ∧
        r = .ok (some (self.replies st m result)) := by
  cases run_probe h with
  | ignored => cases hev
  | failed _ _ hfailed => exact .inl (hfailed ctx results st hev)
  | probed _ hresult =>
    cases List.mem_singleton.mp hev
    exact .inr ⟨_, hresult, rfl⟩

/-- The ways through the handler of the judge. -/
inductive Judged (self : JudgeAgent) (m : Message) :
    List HandlerEvent → Except Exc (Option (List Message)) → Prop
  | ignored : m.type ≠ .JUDGE_REQUEST → Judged self m [] (.ok none)
  | failed {tr : List HandlerEvent} {e : Exc} : m.type = .JUDGE_REQUEST → RunsPlugins "judge" tr →
      Judged self m tr (.error e)
  | judged {tr : List HandlerEvent} {fresh fresh' : Fresh} {verdict payload : List (String × Json)} :
      m.type = .JUDGE_REQUEST → RunsPlugins "judge" tr →
      Judged self m tr
        (.ok (some [self.verdict_msg fresh m verdict, self.report_msg fresh' m payload]))

theorem run_judge {self : JudgeAgent} {r : Except Exc (Option (List Message))}
    (h : Co.Run R (self.handle_message m) s tr s' r) : Judged self m tr r := by
  unfold JudgeAgent.handle_message at h
  split at h
  · rename_i htype
    unfold JudgeAgent.judge at h
    rw [Co.bind_assoc] at h
    rcases Agent.run_run_plugins_bind h with
      ⟨hplugins, ⟨e, rfl⟩, -⟩ | ⟨ctx, results, st, rest, rfl, hrest⟩
    · exact .failed htype hplugins
    rcases Co.run_lift_bind.mp hrest with ⟨text, -, rfl, -, rfl⟩ | ⟨verdict, -, hverdict⟩
    · exact .failed htype runsPlugins_singleton
    rw [Agent.run_new_fresh_bind] at hverdict
    rcases Co.run_lift_bind.mp hverdict with ⟨text, -, rfl, -, rfl⟩ | ⟨payload, -, hend⟩
    · exact .failed htype runsPlugins_singleton
    · obtain ⟨rfl, -, rfl⟩ := hend
      exact .judged htype runsPlugins_singleton
  · rename_i htype
    obtain ⟨rfl, -, rfl⟩ := h
    exact .ignored htype

/-- What the judge returns, if it does. -/
theorem judge_returns {self : JudgeAgent} {r : Option (List Message)}
    (h : Co.Run R (self.handle_message m) s tr s' (.ok r)) :
    (m.type ≠ .JUDGE_REQUEST ∧ r = none) ∨ (m.type = .JUDGE_REQUEST ∧
      ∃ fresh fresh' verdict payload,
        r = some [self.verdict_msg fresh m verdict, self.report_msg fresh' m payload]) := by
  cases run_judge h with
  | ignored htype => exact .inl ⟨htype, rfl⟩
  | judged htype _ => exact .inr ⟨htype, _, _, _, _, rfl⟩

/-- The replies of the judge, when its plugins returned in the state `s`. -/
def JudgeAgent.replies (self : JudgeAgent) (s : AgentState) (m : Message)
    (verdict payload : List (String × Json)) : List Message := [
  self.verdict_msg (self.rt.fresh s.made s.clock) m verdict,
  self.report_msg (self.rt.fresh (s.made + 1) s.clock) m payload]

/-- The judge replies if it can make a verdict and a payload from the results of its plugins. -/
theorem judge_replies {self : JudgeAgent} {ctx : Json} {results : List PluginResult} {st : AgentState}
    {r : Except Exc (Option (List Message))} (h : Co.Run R (self.handle_message m) s tr s' r)
    (hev : (⟨.execute_all "judge" ctx, .ok results, st⟩ : HandlerEvent) ∈ tr) :
    (∃ text, (self.verdict m.payload results).bind (JudgeAgent.report_payload m.payload) =
        .error text ∧ r = .error (.error text)) ∨
      ∃ verdict payload, self.verdict m.payload results = .ok verdict ∧
        JudgeAgent.report_payload m.payload verdict = .ok payload ∧
        r = .ok (some (self.replies st m verdict payload)) := by
  unfold JudgeAgent.handle_message at h
  split at h
  · unfold JudgeAgent.judge at h
    rw [Co.bind_assoc] at h
    rcases Agent.run_run_plugins_bind h with ⟨-, -, hnone⟩ | ⟨ctx', results', st', rest, rfl, hrest⟩
    · exact absurd hev (hnone ctx results st)
    rcases Co.run_lift_bind.mp hrest with ⟨text, hverdict, rfl, -, rfl⟩ | ⟨verdict, hverdict, hreplies⟩
    · cases List.mem_singleton.mp hev
      exact .inl ⟨text, by rw [hverdict]; rfl, rfl⟩
    rw [Agent.run_new_fresh_bind] at hreplies
    rcases Co.run_lift_bind.mp hreplies with ⟨text, hpayload, rfl, -, rfl⟩ | ⟨payload, hpayload, hend⟩
    · cases List.mem_singleton.mp hev
      exact .inl ⟨text, by rw [hverdict]; exact hpayload, rfl⟩
    · obtain ⟨rfl, -, rfl⟩ := hend
      cases List.mem_singleton.mp hev
      exact .inr ⟨verdict, payload, hverdict, hpayload, rfl⟩
  · obtain ⟨rfl, -, -⟩ := h
    cases hev

/-- A judge that replies has run its plugins. -/
theorem judge_plugins {self : JudgeAgent} {replies : List Message}
    (h : Co.Run R (self.handle_message m) s tr s' (.ok (some replies))) :
    ∃ ctx results st, (⟨.execute_all "judge" ctx, .ok results, st⟩ : HandlerEvent) ∈ tr := by
  unfold JudgeAgent.handle_message at h
  split at h
  · unfold JudgeAgent.judge at h
    rw [Co.bind_assoc] at h
    rcases Agent.run_run_plugins_bind h with ⟨-, ⟨e, ⟨⟩⟩, -⟩ | ⟨ctx, results, st, rest, rfl, -⟩
    exact ⟨ctx, results, st, List.mem_cons_self⟩
  · obtain ⟨-, -, ⟨⟩⟩ := h

/-- The ways through the handler of the reporter. -/
inductive Reported (self : ReporterAgent) (m : Message) :
    List HandlerEvent → Except Exc (Option (List Message)) → Prop
  | ignored : m.type ≠ .REPORT_REQUEST → Reported self m [] (.ok none)
  | failed {tr : List HandlerEvent} {e : Exc} : m.type = .REPORT_REQUEST →
      RunsPlugins "reporter" tr → Reported self m tr (.error e)
  /-- The report was broadcast, and it is the reply if the broadcast returned. -/
  | reported (tr : List HandlerEvent) (fresh : Fresh) {fresh' : Fresh} {at_time : String}
      {results : List PluginResult} {report : List (String × Json)} {ans : Except Exc Unit}
      {st : AgentState} : m.type = .REPORT_REQUEST → RunsPlugins "reporter" tr →
      self.report at_time m.payload results = .ok report →
      Reported self m (tr ++ [⟨.publish Topic.BROADCAST (self.broadcast fresh' m report), ans, st⟩])
        (ans.map fun _ => some [self.deliver_msg fresh m report])

theorem run_reporter {self : ReporterAgent} {r : Except Exc (Option (List Message))}
    (h : Co.Run R (self.handle_message m) s tr s' r) : Reported self m tr r := by
  unfold ReporterAgent.handle_message at h
  split at h
  · rename_i htype
    unfold ReporterAgent.generate_report at h
    rw [Co.bind_assoc] at h
    rcases Agent.run_run_plugins_bind h with
      ⟨hplugins, ⟨e, rfl⟩, -⟩ | ⟨ctx, results, st, rest, rfl, hrest⟩
    · exact .failed htype hplugins
    rw [Co.bind_assoc, Co.run_read_bind] at hrest
    rcases Co.run_lift_bind.mp hrest with ⟨text, -, rfl, -, rfl⟩ | ⟨report, hok, hreport⟩
    · exact .failed htype runsPlugins_singleton
    · rw [Agent.run_new_fresh_bind, Agent.run_new_fresh_bind] at hreport
      obtain ⟨ans, st', rest', rfl, -, ⟨e, rfl, rfl, rfl, rfl⟩ | ⟨u, rfl, rfl, rfl, rfl⟩⟩ :=
        Co.run_call_bind.mp hreport
      all_goals exact .reported [_] (self.rt.fresh st.made st.clock) htype runsPlugins_singleton hok
  · rename_i htype
    obtain ⟨rfl, -, rfl⟩ := h
    exact .ignored htype

/-- What the reporter returns, if it does. -/
theorem reporter_returns {self : ReporterAgent} {r : Option (List Message)}
    (h : Co.Run R (self.handle_message m) s tr s' (.ok r)) :
    (m.type ≠ .REPORT_REQUEST ∧ r = none) ∨ (m.type = .REPORT_REQUEST ∧
      ∃ fresh report, r = some [self.deliver_msg fresh m report]) := by
  generalize hr : Except.ok r = outcome at h
  cases run_reporter h with
  | ignored htype =>
    cases hr
    exact .inl ⟨htype, rfl⟩
  | failed => cases hr
  | @reported _ fresh _ _ _ report ans _ htype _ _ =>
    cases ans with
    | error e => cases hr
    | ok u =>
      cases hr
      exact .inr ⟨htype, fresh, report, rfl⟩

/-! ## The three stages -/

/-- One of the three agents. -/
inductive Stage where
  | probe (agent : ProbeAgent)
  | judge (agent : JudgeAgent)
  | reporter (agent : ReporterAgent)

namespace Stage

/-- The agent of a stage. -/
def agent : Stage → Agent
  | probe self => self.toAgent
  | judge self => self.toAgent
  | reporter self => self.toAgent

/-- The handler of a stage. -/
def handle_message : Stage → Handler
  | probe self => self.handle_message
  | judge self => self.handle_message
  | reporter self => self.handle_message

end Stage

/-! ## Sample runs -/

/-- A consumption in which every await is answered at once. -/
def Consumption.exec {agent : Agent} (handler : Handler) (topic : String) (message : Message)
    (start : AgentState) (answer : (q : Await) → Except Exc (Await.Answer q)) :
    Consumption agent handler where
  topic
  message
  others _ _ := True
  start
  events := ((agent.consume handler topic message).exec answer start).1
  final := ((agent.consume handler topic message).exec answer start).2.1
  result := ((agent.consume handler topic message).exec answer start).2.2
  run := Co.run_exec (fun _ => trivial) answer _ _

/-- The transport answers every call, and no plugin is registered. -/
def sample_await : (q : Await) → Except Exc (Await.Answer q)
  | .inl q => sample_answer (.ok none) q
  | .inr (.publish _ _) => .ok ()
  | .inr (.execute_all _ _) => .ok []
  | .inr (.other _ _) => .ok .null

/-- Arithmetic on no scores. -/
def sample_numbers : Numbers where
  mean _ := .ok (.int 0)
  round x := .ok x
  excellent _ := .ok false

end Aqap
