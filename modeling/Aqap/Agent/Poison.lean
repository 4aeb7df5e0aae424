import Aqap.Agent.Frame

/-!
# Messages that end the consume loop

The checks of the consume loop run outside any `try`, on values that `from_dict` copied from JSON. If
one of them raises, the task of the topic ends.

* `process_one_returns`: when the transport answers, processing a message always returns.
* `survives_iff`: the loop survives exactly the echoes and the messages with a hashable id that are
  duplicates or whose version can be read.
* `list_id_ends_loop`: a message whose id is a list.
-/

namespace Aqap

open Py Aqap.Core Async

namespace Agent

variable {R : AgentState → AgentState → Prop} {self : Agent} {m : Message} {topic : String}
  {s s' : AgentState} {tr : List AgentEvent}

/-- The transport and the semaphore answer, and the handler is not cancelled. -/
inductive Ordinary : AgentEvent → Prop
  | publish {topic : String} {msg : Message} {st : AgentState} :
      Ordinary ⟨.publish topic msg, .ok (), st⟩
  | ack {topic : String} {tid : TransportId} {group : String} {st : AgentState} :
      Ordinary ⟨.ack topic tid group, .ok (), st⟩
  | acquire {st : AgentState} : Ordinary ⟨.acquire, .ok (), st⟩
  | returned {m : Message} {replies : Option (List Message)} {st : AgentState} :
      Ordinary ⟨.handle_message m, .ok replies, st⟩
  | raised {m : Message} {text : String} {st : AgentState} :
      Ordinary ⟨.handle_message m, .error (.error text), st⟩

/-- The iteration for the message ends normally, and the loop goes on. -/
def Survives (self : Agent) (topic : String) (m : Message) (s : AgentState) : Prop :=
  ∀ tr s' r, Co.Run (fun _ _ => True) (self.consume_one topic m) s tr s' r →
    (∀ ev ∈ tr, Ordinary ev) → r = .ok true

/-- The id of the message was recorded less than the TTL ago. -/
def Duplicate (self : Agent) (m : Message) (s : AgentState) : Prop :=
  ∃ k, m.message_id.key = .ok k ∧ self.seen (s.processed_ids.get? k) s.clock = true

/-- No check of the loop raises on the message. -/
def Digestible (self : Agent) (m : Message) (s : AgentState) : Prop :=
  m.source.eq_str self.agent_id = true ∨
    (m.message_id.Hashable ∧ (self.Duplicate m s ∨ VersionReadable m.version))

/-! ## Processing returns -/

theorem ack_last_returns {r : Except Exc Unit} (h : Co.Run R (ack_last topic) s tr s' r)
    (hord : ∀ ev ∈ tr, Ordinary ev) : r = .ok () := by
  rcases run_ack_last h with ⟨id, -, rfl, -⟩ | ⟨-, -, -, rfl⟩
  · cases hord _ (List.mem_singleton_self _)
    rfl
  · rfl

theorem attempt_not_cancelled (h : self.AttemptFailed m .cancelled s' tr) :
    ¬ ∀ ev ∈ tr, Ordinary ev := by
  intro hord
  rcases h with rfl | ⟨replies, st, done, failed, rest, sent, last, rfl, -, -, hf⟩
  · cases hord _ (List.mem_singleton_self _)
  rcases hf with ⟨-, ⟨text, h⟩, -⟩ | ⟨topic, payload, -, rfl⟩
  · cases h
  · cases hord _ (List.mem_cons_of_mem _ (List.mem_append_right _ (List.mem_singleton_self _)))

/-- **Processing a message returns**, whatever the handler raises. -/
theorem process_one_returns {r : Except Exc Bool}
    (h : Co.Run R (self.process_one m topic) s tr s' r) (hord : ∀ ev ∈ tr, Ordinary ev) :
    ∃ b, r = .ok b := by
  cases run_process_one h with
  | handled ha hf =>
    rw [ack_last_returns hf fun ev hev => hord ev (List.mem_append_right _ hev)]
    exact ⟨true, rfl⟩
  | cancelled ha hf =>
    rcases run_attempt ha with ⟨⟨⟩, -⟩ | ⟨e, ⟨⟩, hfail⟩
    exact absurd (fun ev hev => hord ev (List.mem_append_left _ hev)) (attempt_not_cancelled hfail)
  | retried ha hlt => exact ⟨false, rfl⟩
  | exhausted ha hle hd hf =>
    obtain ⟨msg, ans, st, rest, rfl, -, -, ⟨e, rfl, -⟩ | ⟨rfl, hl⟩⟩ := run_dead_letter hd
    · cases hord _ (List.mem_append_right _ (List.mem_append_left _ List.mem_cons_self))
    · rw [ack_last_returns hf fun ev hev => hord ev (by simp [hev]),
        ack_last_returns hl fun ev hev => hord ev (by simp [hev])]
      exact ⟨true, rfl⟩

/-! ## The loop -/

theorem validate_isOk_iff (m : Message) :
    (∃ errors, validate_message m.to_dict = .ok errors) ↔ VersionReadable m.version :=
  validate_message_isOk_iff m.to_dict

theorem digestible_of_valid {k : Key} {errors : List String} (hk : m.message_id.key = .ok k)
    (hv : validate_message m.to_dict = .ok errors) :
    m.message_id.Hashable ∧ (self.Duplicate m s ∨ VersionReadable m.version) :=
  ⟨Json.key_isOk_iff.mp ⟨k, hk⟩, .inr ((validate_isOk_iff m).mp ⟨errors, hv⟩)⟩

/-- There is a run in which the transport answers and the handler returns. -/
theorem exists_ordinary_run (self : Agent) (topic : String) (m : Message) (s : AgentState) :
    ∃ tr s' r, Co.Run (fun _ _ => True) (self.consume_one topic m) s tr s' r ∧
      ∀ ev ∈ tr, Ordinary ev := by
  refine ⟨_, _, _, Co.run_exec (fun _ => trivial) (sample_answer (.ok none)) _ s, ?_⟩
  intro ev hev
  have hans := Co.exec_ans _ _ _ ev hev
  obtain ⟨req, ans, st⟩ := ev
  cases req <;> (cases hans; constructor)

/-- The iteration for a message ends normally if and only if the message is an echo, or its id is
hashable and it is a duplicate or its version can be read. -/
theorem survives_iff (hrunning : s.running = true) :
    self.Survives topic m s ↔ self.Digestible m s := by
  constructor
  · intro h
    -- There is a run in which the handler and the transport raise nothing.
    obtain ⟨tr, s', r, hrun, hord⟩ := exists_ordinary_run self topic m s
    have hok := h tr s' r hrun hord
    cases run_consume_one hrun with
    | stopped hstop => rw [hrunning] at hstop; cases hstop
    | echo _ hecho => exact .inl hecho
    | unhashable => cases hok
    | duplicate _ _ hk hseen => exact .inr ⟨Json.key_isOk_iff.mp ⟨_, hk⟩, .inl ⟨_, hk, hseen⟩⟩
    | unreadable => cases hok
    | invalid _ _ hk _ hv _ => exact .inr (digestible_of_valid hk hv)
    | unknown _ _ hk _ hv _ _ => exact .inr (digestible_of_valid hk hv)
    | admitted hadm _ => exact .inr (digestible_of_valid hadm.key hadm.valid)
  · intro hdig tr s' r hrun hord
    cases run_consume_one hrun with
    | stopped hstop => rw [hrunning] at hstop; cases hstop
    | echo => rfl
    | unhashable _ hecho hk =>
      rcases hdig with h | ⟨h, -⟩
      · rw [hecho] at h; cases h
      · obtain ⟨k, h⟩ := Json.key_isOk_iff.mpr h
        rw [hk] at h
        cases h
    | duplicate => rfl
    | unreadable _ hecho hk hseen hv =>
      rcases hdig with h | ⟨-, ⟨k, h, hdup⟩ | h⟩
      · rw [hecho] at h; cases h
      · obtain rfl := Except.ok.inj (hk.symm.trans h)
        rw [hseen] at hdup
        cases hdup
      · obtain ⟨errors, h⟩ := (validate_isOk_iff m).mpr h
        rw [hv] at h
        cases h
    | invalid => rfl
    | unknown =>
      cases hord _ (List.mem_singleton_self _)
      rfl
    | admitted hadm hp =>
      rcases run_with_sem hp with ⟨-, hone⟩ | ⟨-, ans, st, rest, rfl, -, ⟨e, rfl, rfl, -, -⟩ | ⟨rfl, hone⟩⟩
      · obtain ⟨b, rfl⟩ := process_one_returns hone hord
        rfl
      · cases hord _ (List.mem_singleton_self _)
      · obtain ⟨b, rfl⟩ := process_one_returns hone fun ev hev => hord ev (List.mem_cons_of_mem _ hev)
        rfl

/-- **Which JSON objects end the loop.** For every JSON object that a transport delivers as a message,
the iteration ends normally and the loop goes on, whatever the handler does, if and only if the
message is `Digestible`. -/
theorem survives_from_dict_iff (fresh : Fresh) (d : List (String × Json)) (tid : Option TransportId)
    (hrunning : s.running = true) :
    self.Survives topic { Message.from_dict fresh d with transport_msg_id := tid } s ↔
      self.Digestible (Message.from_dict fresh d) s :=
  survives_iff hrunning

/-- An object whose id is a list, from a client, on an agent that was just started. -/
def list_id : List (String × Json) := [
  ("type", .str "TASK_DISPATCH"), ("source", .str "client"), ("payload", .obj []), ("version", .str "1.0"),
  ("message_id", .arr [])]

theorem survives_from_dict_iff_sample :
    (sample_agent 3).Survives "t"
        { Message.from_dict ⟨"m", "t", ""⟩ list_id with transport_msg_id := some (.id "1-0") }
        (AgentState.started 0) ↔
      (sample_agent 3).Digestible (Message.from_dict ⟨"m", "t", ""⟩ list_id) (AgentState.started 0) :=
  survives_from_dict_iff ⟨"m", "t", ""⟩ list_id (some (.id "1-0")) rfl

/-- An object whose `message_id` is a list ends the loop. -/
theorem list_id_ends_loop :
    ¬ ∀ (self : Agent) (topic : String) (fresh : Fresh) (d : List (String × Json))
      (tid : Option TransportId) (s : AgentState), s.running = true →
      self.Survives topic { Message.from_dict fresh d with transport_msg_id := tid } s := by
  intro h
  have hs := h (sample_agent 3) "t" ⟨"m", "t", ""⟩ list_id none (AgentState.started 0) rfl
  cases hs [] _ (.error (.error "unhashable type: 'list'")) ⟨rfl, rfl, rfl⟩ (fun _ h => nomatch h)

end Agent

end Aqap
