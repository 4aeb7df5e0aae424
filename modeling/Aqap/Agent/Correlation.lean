import Aqap.Agent.Flow

/-!
# Correlation ids

`Message.reply` sets the correlation id of a reply to the id of the message. The other replies of the
three agents have no correlation id, or they copy that of the message.

* `correlated_of_run`: when all replies of a handler have the id of the message (`Stage.Correlates`).
* `correlated_iff`: the replies of a run do, and the answers to a task form a chain back to it, exactly
  if all its steps that return replies are of that kind.
* `uncorrelated_task_result`: the TASK_RESULT has no correlation id.
-/

namespace Aqap

open Py Aqap.Core Async

/-- When the replies to `m` have its id: the Probe's TASK_RESULT has an empty correlation id, the
JUDGE_VERDICT and the REPORT_DELIVER have that of `m`. -/
def Stage.Correlates : Stage → Message → Prop
  | probe _, m => m.type = .TASK_DISPATCH → m.message_id = .str ""
  | judge _, m => m.type = .JUDGE_REQUEST → m.correlation_id = m.message_id
  | reporter _, m => m.type = .REPORT_REQUEST → m.correlation_id = m.message_id

/-- **When the replies of a handler name the message.** -/
theorem correlated_of_run {R : AgentState → AgentState → Prop} {stage : Stage} {m : Message}
    {s s' : AgentState} {tr : List HandlerEvent} {r : Option (List Message)}
    (h : Co.Run R (stage.handle_message m) s tr s' (.ok r)) :
    (∀ reply ∈ r.getD [], reply.correlation_id = m.message_id) ↔ stage.Correlates m := by
  -- Without replies there is nothing to show, and the condition asks for the other type.
  have hignored : ∀ {P : Prop} {type : MessageType}, m.type ≠ type → r = none →
      ((∀ reply ∈ r.getD [], reply.correlation_id = m.message_id) ↔ (m.type = type → P)) := by
    rintro P type htype rfl
    exact iff_of_true (fun _ h => absurd h List.not_mem_nil) fun h => absurd h htype
  cases stage with
  | probe self =>
    rcases probe_returns h with ⟨htype, hnone⟩ | ⟨htype, ctx, results, st, result, -, -, rfl⟩
    · exact hignored htype hnone
    have hids : (∀ reply ∈ self.replies st m result, reply.correlation_id = m.message_id) ↔
        .str "" = m.message_id := by
      simp [ProbeAgent.replies, task_result, Message.new, ProbeAgent.judge_msg, Message.reply]
    exact hids.trans ⟨fun h _ => h.symm, fun h => (h htype).symm⟩
  | judge self =>
    rcases judge_returns h with ⟨htype, hnone⟩ | ⟨htype, fresh, fresh', verdict, payload, rfl⟩
    · exact hignored htype hnone
    simp [Stage.Correlates, htype, JudgeAgent.verdict_msg, JudgeAgent.report_msg, Message.reply]
  | reporter self =>
    rcases reporter_returns h with ⟨htype, hnone⟩ | ⟨htype, fresh, report, rfl⟩
    · exact hignored htype hnone
    simp [Stage.Correlates, htype, ReporterAgent.deliver_msg]

/-- The correlation ids lead from the message back to `m₀`, over messages that the run consumed. -/
inductive Chain (run : List Step) (m₀ : Message) : Message → Prop
  | root : Chain run m₀ m₀
  | link {e : Step} {m : Message} : Chain run m₀ e.message → e ∈ run →
      m.correlation_id = e.message.message_id → Chain run m₀ m

/-- Every reply that a handler returned has the id of its message as its correlation id, and the
correlation ids of the answers that descend from a task form a chain back to it. -/
structure Correlated (run : List Step) : Prop where
  replies : ∀ e ∈ run, ∀ replies, e.Returns replies → ∀ reply ∈ replies,
    reply.correlation_id = e.message.message_id
  chain : ∀ task m, task.type = .TASK_DISPATCH →
    Descends run (fun e msg => ∃ topic, e.Answers topic msg) task m → Chain run task m

theorem correlates_opened {stage : Stage} {m : Message} :
    stage.Correlates (stage.agent.opened m) ↔ stage.Correlates m := by
  cases stage <;> simp [Stage.Correlates]

/-- The answers to a task form a chain if every reply names its message. -/
theorem chain_of_replies {run : List Step} {m₀ m : Message}
    (hreplies : ∀ e ∈ run, ∀ replies, e.Returns replies → ∀ reply ∈ replies,
      reply.correlation_id = e.message.message_id)
    (h : Descends run (fun e msg => ∃ topic, e.Answers topic msg) m₀ m) : Chain run m₀ m := by
  induction h with
  | root => exact .root
  | step _ he hmsg hdel ih =>
    refine .link ih he ?_
    obtain ⟨topic, hanswers⟩ := hmsg
    obtain ⟨replies, hreturns, reply, hmem, n, payload, -, -, rfl⟩ := hanswers.reply
    rw [hdel.eq]
    exact hreplies _ he replies hreturns reply hmem

/-- **When correlation ids form chains.** -/
theorem correlated_iff (run : List Step) :
    Correlated run ↔
      ∀ e ∈ run, (∃ replies, e.Returns replies) → e.stage.Correlates e.message := by
  constructor
  · rintro h e he ⟨replies, hreturns⟩
    have hall := h.replies e he replies hreturns
    obtain ⟨r, s, s', tr, rfl, hrun, -⟩ := hreturns.run
    refine correlates_opened.mp ((correlated_of_run hrun).mp ?_)
    rwa [Agent.message_id_opened]
  · intro h
    have hreplies : ∀ e ∈ run, ∀ replies, e.Returns replies → ∀ reply ∈ replies,
        reply.correlation_id = e.message.message_id := by
      intro e he replies hreturns
      have hcorrelates := correlates_opened.mpr (h e he ⟨replies, hreturns⟩)
      obtain ⟨r, s, s', tr, rfl, hrun, -⟩ := hreturns.run
      have hall := (correlated_of_run hrun).mpr hcorrelates
      rwa [Agent.message_id_opened] at hall
    exact ⟨hreplies, fun task m _ hdesc => chain_of_replies hreplies hdesc⟩

/-- The TASK_RESULT for a task has no correlation id. -/
theorem uncorrelated_task_result : ¬ ∀ run, Correlated run := by
  intro h
  obtain ⟨topic, msg, hanswers, hempty⟩ :=
    sample_answers (p := fun msg => msg.correlation_id.eq_str "") (by decide +kernel)
  obtain ⟨replies, hreturns, reply, hmem, n, payload, -, -, rfl⟩ := hanswers.reply
  have hid : reply.correlation_id = .str "0011223344556677" :=
    (h [sample_step]).replies _ List.mem_cons_self replies hreturns reply hmem
  have hempty : reply.correlation_id.eq_str "" = true := hempty
  rw [hid] at hempty
  revert hempty
  decide

end Aqap
