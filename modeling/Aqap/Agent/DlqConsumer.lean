import Aqap.Agent.Base
import Aqap.Async.Workers

/-!
# The consumer of the dead letters

`DLQConsumerAgent` keeps an index of the dead letters that it received. Three kinds of tasks write the
index: `handle_message` appends a letter, `replay` publishes the letters that match and then assigns the
rest of the index that it read at its start, and the cleanup loop removes the letters that are too old.
Only `replay` awaits.

* `DlqState`: the attributes that the tasks share. Its `ledger` is not part of the agent: it records
  where each letter went.
* `DlqCall.run`: what a task does.
-/

namespace Aqap

open Py Aqap.Core Async

/-- `dict.get(key, default)` on a parsed JSON object. -/
def get_or (fields : List (String × Json)) (key : String) (default : Json) : Json :=
  (fields.lookup key).getD default

/-- A dead letter in the index. -/
structure DeadLetter where
  message_id : Json
  trace_id : Json
  original_message : List (String × Json)
  error : Json
  retry_count : Json
  failed_by : Json
  failed_at : Json
  received_at : Int

/-- The letters that were received, those whose original message was published again, and where those
went that are not in the index any more. -/
structure Ledger where
  received : List DeadLetter
  published : List DeadLetter
  /-- Published, by a replay that has returned. -/
  replayed : List DeadLetter
  expired : List DeadLetter
  evicted : List DeadLetter

/-- The state of the agent, with a ledger of what has become of its letters. -/
structure DlqState where
  dead_letters : List DeadLetter
  total_dead_letters : Nat
  replayed : Nat
  expired : Nat
  /-- `time.time()` -/
  clock : Int
  /-- How many messages were made. -/
  made : Nat
  ledger : Ledger

/-- The state of a consumer that was started at the time `clock`. -/
def DlqState.started (clock : Int) : DlqState where
  dead_letters := []
  total_dead_letters := 0
  replayed := 0
  expired := 0
  clock
  made := 0
  ledger := ⟨[], [], [], [], []⟩

/-- What the consumer awaits: the publication of a message on the topic of an original message. -/
structure DlqPublish where
  topic : Json
  message : Message

/-- An `async` method of the agent; it awaits publications only. -/
abbrev DlqCo (α : Type) := Co DlqState DlqPublish (fun _ => Unit) α

def DEFAULT_DLQ_TTL : Int := 86400 * 7

/-- What a `DLQConsumerAgent` is built with. -/
structure DLQConsumerAgent where
  rt : Runtime
  dlq_ttl : Int := DEFAULT_DLQ_TTL * second

/-! ## Receiving a dead letter -/

/-- `self._dead_letters[-5000:]` keeps this many letters. -/
def MAX_DEAD_LETTERS : Nat := 5000

/-- Append a letter to the index, and drop the oldest ones when there are too many. -/
def DlqState.append (s : DlqState) (dl : DeadLetter) : DlqState :=
  let dead_letters := s.dead_letters ++ [dl]
  let excess := dead_letters.length - MAX_DEAD_LETTERS
  { s with
    dead_letters := if MAX_DEAD_LETTERS < dead_letters.length then dead_letters.drop excess
      else dead_letters
    total_dead_letters := s.total_dead_letters + 1
    ledger := { s.ledger with
      received := s.ledger.received ++ [dl]
      evicted := s.ledger.evicted ++ dead_letters.take excess } }

/-- Record that the original message of a letter was published. -/
def DlqState.publish (s : DlqState) (dl : DeadLetter) : DlqState :=
  { s with ledger := { s.ledger with published := s.ledger.published ++ [dl] } }

namespace DLQConsumerAgent

variable (self : DLQConsumerAgent)

/-- The letter that a message carries. It raises when the payload or the original message is not a
dict; `now` is the default of `failed_at`. -/
def dead_letter (message : Message) (now : String) (received_at : Int) : Except String DeadLetter :=
  match message.payload with
  | .obj payload =>
    match get_or payload "original_message" (get_or payload "original" (.obj [])) with
    | .obj original => .ok {
        message_id := message.message_id
        trace_id := message.trace_id
        original_message := original
        error := get_or payload "error" (.str "unknown")
        retry_count := get_or payload "retry_count" (.int 0)
        failed_by := get_or payload "failed_by" (.str "unknown")
        failed_at := get_or payload "failed_at" (.str now)
        received_at }
    | v => .error ("'" ++ v.type_name ++ "' object has no attribute 'get'")
  | .arr _ => .error "'list' object has no attribute 'get'"
  | v => .error ("'" ++ v.type_name ++ "' object has no attribute 'copy'")

/-- `handle_message`: the letter is appended, if its payload can be read. -/
def handle_message (message : Message) : DlqCo Unit := do
  let letter ← Co.read fun s => dead_letter message (self.rt.isoformat s.clock) s.clock
  let letter ← Co.lift letter
  Co.update (·.append letter)

/-! ## Replaying dead letters -/

/-- `key and v == key` -/
def asked (key : Option String) (v : Json) : Bool := key.any fun k => k != "" && v.eq_str k

/-- The call `replay(message_id, trace_id)` asks for the letter. -/
def matched (message_id trace_id : Option String) (dl : DeadLetter) : Bool :=
  asked message_id dl.message_id || asked trace_id dl.trace_id

/-- What a replay publishes. -/
def to_replay (message_id trace_id : Option String) (letters : List DeadLetter) : List DeadLetter :=
  letters.filter (matched message_id trace_id)

/-- What a replay leaves in the list. -/
def remaining (message_id trace_id : Option String) (letters : List DeadLetter) : List DeadLetter :=
  letters.filter fun dl => !matched message_id trace_id dl

/-- The letters that have an original message. -/
def publishable (letters : List DeadLetter) : List DeadLetter :=
  letters.filter fun dl => !dl.original_message.isEmpty

/-- The letters that a replay publishes. -/
def to_publish (message_id trace_id : Option String) (letters : List DeadLetter) : List DeadLetter :=
  publishable (to_replay message_id trace_id letters)

/-- `MessageType(original.get("type", "TASK_DISPATCH"))` -/
def original_type (original : List (String × Json)) : Except String MessageType :=
  let value := get_or original "type" (.str "TASK_DISPATCH")
  let type := match value with
    | .str name => MessageType.of_value name
    | _ => none
  type.elim (.error (self.rt.repr value ++ " is not a valid MessageType")) .ok

/-- The topic that an original is published to. -/
def original_topic (dl : DeadLetter) : Json := get_or dl.original_message "topic" (.str Topic.AGENT_PROBE)

/-- The original message, made anew. -/
def replayed_message (fresh : Fresh) (type : MessageType) (dl : DeadLetter) : Message :=
  { Message.new fresh type (.str "dlq-consumer") [] with
    payload := get_or dl.original_message "payload" (.obj [])
    trace_id := dl.trace_id
    correlation_id := get_or dl.original_message "correlation_id" (.str "")
    topic := original_topic dl
    target := get_or dl.original_message "target" (.str "") }

/-- One turn of the loop of `replay`: the original is built again and published. -/
def publish_original (dl : DeadLetter) : DlqCo Unit := do
  let type ← Co.lift (self.original_type dl.original_message)
  let fresh ← Co.read fun s => self.rt.fresh s.made s.clock
  Co.update fun s => { s with made := s.made + 1 }
  Co.call ⟨original_topic dl, replayed_message fresh type dl⟩
  Co.update (·.publish dl)

/-- The loop of `replay`; a letter without an original message is skipped. -/
def publish_originals : List DeadLetter → DlqCo Unit
  | [] => pure ()
  | dl :: letters =>
    if dl.original_message.isEmpty then publish_originals letters
    else do
      self.publish_original dl
      publish_originals letters

/-- The end of a replay that read `letters`: the index is what it did not ask for. -/
def replay_end (message_id trace_id : Option String) (letters : List DeadLetter) (s : DlqState) :
    DlqState :=
  { s with
    dead_letters := remaining message_id trace_id letters
    replayed := s.replayed + (to_replay message_id trace_id letters).length
    ledger := { s.ledger with
      replayed := s.ledger.replayed ++ to_publish message_id trace_id letters } }

/-- `replay`: the letters are looked up once, before the publications; the list is assigned after them. -/
def replay (message_id trace_id : Option String) : DlqCo Nat := do
  let letters ← Co.read (·.dead_letters)
  self.publish_originals (to_replay message_id trace_id letters)
  Co.update (replay_end message_id trace_id letters)
  pure (to_replay message_id trace_id letters).length

/-! ## The cleanup loop -/

/-- One pass of `_cleanup_loop`. -/
def cleanup (s : DlqState) : DlqState :=
  let cutoff := s.clock - self.dlq_ttl
  let expired_count := s.dead_letters.countP fun dl => dl.received_at < cutoff
  if expired_count ≠ 0 then
    { s with
      dead_letters := s.dead_letters.filter fun dl => cutoff ≤ dl.received_at
      expired := s.expired + expired_count
      ledger := { s.ledger with
        expired := s.ledger.expired ++ s.dead_letters.filter fun dl => dl.received_at < cutoff } }
  else s

end DLQConsumerAgent

/-! ## The tasks -/

/-- What a task of the consumer calls. -/
inductive DlqCall where
  | handle_message (message : Message)
  | replay (message_id trace_id : Option String)
  | cleanup

/-- The call; a replay returns how many letters it asked for. -/
def DlqCall.run (self : DLQConsumerAgent) : DlqCall → DlqCo (Option Nat)
  | .handle_message message => do
    self.handle_message message
    pure none
  | .replay message_id trace_id => do
    let count ← self.replay message_id trace_id
    pure (some count)
  | .cleanup => do
    Co.update self.cleanup
    pure none

/-- Tasks, numbered by `ι`, that share one consumer. -/
abbrev DlqTasks (ι : Type) := Sys ι DlqCall DlqState DlqPublish (fun _ => Unit) (Option Nat)

/-- What may happen in a run of receives, replays and cleanups. -/
abbrev DlqLabel (ι : Type) := Label ι DlqCall DlqPublish fun _ => Unit

/-- Between the steps of the tasks, time passes, and other messages are made. -/
def Tick (s s' : DlqState) : Prop := ∃ now made, s' = { s with clock := now, made := made }

/-- No task has been called. -/
def DlqTasks.started (ι : Type) (clock : Int) : DlqTasks ι := ⟨DlqState.started clock, fun _ => .idle, []⟩

end Aqap
