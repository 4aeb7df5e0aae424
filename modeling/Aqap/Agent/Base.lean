import Aqap.Async.Co
import Aqap.Core.Dlq
import Aqap.Core.Security
import Aqap.Py.Dict

/-!
# The agent base class

`Agent` has the attributes that `__init__` sets and nothing changes, `AgentState` the ones that the
tasks of the agent share and change. `consume_one` is one iteration of `_consume_loop`; it returns
`false` where the loop breaks. The awaits are the calls of the transport, of `handle_message` and of
the semaphore (`Request`).

Times are in ticks of `second`: the floats that `time.time()` returns are multiples of it.
-/

namespace Aqap

open Py Aqap.Core Async

/-- The ticks of a second: a float of that size is a multiple of `2 ^ -22`. -/
def second : Int := 4194304

/-- What a `BaseAgent` is built with. -/
structure Agent where
  rt : Runtime
  cipher : PayloadCipher
  agent_id : String
  group : String := "aqap-default"
  max_retries : Int := 3
  idempotency_max_size : Nat := 10000
  idempotency_ttl : Int := 300 * second
  /-- There is a semaphore: `max_concurrency > 0`. -/
  sem : Bool := false

/-- The attributes of a `BaseAgent` that its methods read or write, and the counters of its runtime. -/
structure AgentState where
  running : Bool
  retry_counts : Dict String Nat
  current_message : Option Message
  last_topic : String
  last_group : String
  last_msg_id : Option TransportId
  processed_ids : Dict Key Int
  /-- `time.time()` -/
  clock : Int
  /-- How many messages and nonces were made. -/
  made : Nat

/-- The state of an agent that was started at the time `clock`. -/
def AgentState.started (clock : Int) : AgentState where
  running := true
  retry_counts := .empty
  current_message := none
  last_topic := ""
  last_group := ""
  last_msg_id := none
  processed_ids := .empty
  clock
  made := 0

/-- What the agent awaits. -/
inductive Request where
  | publish (topic : String) (message : Message)
  | ack (topic : String) (msg_id : TransportId) (group : String)
  | handle_message (message : Message)
  | acquire

/-- What an await returns. -/
@[reducible] def Request.Answer : Request → Type
  | publish _ _ => Unit
  | ack _ _ _ => Unit
  | handle_message _ => Option (List Message)
  | acquire => Unit

/-- An `async` method of the agent. -/
abbrev AgentCo (α : Type) := Co AgentState Request Request.Answer α

/-- An await of the agent that returned or raised. -/
abbrev AgentEvent := Event AgentState Request Request.Answer

/-- `await self._transport.publish(topic, message)` -/
def publish (topic : String) (message : Message) : AgentCo Unit := Co.call (Request.publish topic message)

/-- `await self._transport.ack(topic, msg_id, group)` -/
def ack (topic : String) (msg_id : TransportId) (group : String) : AgentCo Unit :=
  Co.call (Request.ack topic msg_id group)

/-- `await self.handle_message(message)`, of the subclass -/
def handle_message (message : Message) : AgentCo (Option (List Message)) :=
  Co.call (Request.handle_message message)

def acquire : AgentCo Unit := Co.call Request.acquire

namespace Agent

variable (self : Agent)

/-- The defaults of a new message. -/
def fresh : AgentCo Fresh := do
  let fresh ← Co.read fun s => self.rt.fresh s.made s.clock
  Co.update fun s => { s with made := s.made + 1 }
  pure fresh

/-- `str(v)` -/
def text (v : Json) : String := v.text self.rt.repr

/-- The key of `_retry_counts`: redeliveries of a message share it, and so do different messages with these fields. -/
def msg_key (message : Message) : String :=
  self.text message.source ++ ":" ++ self.text message.trace_id ++ ":" ++ message.type.value

/-- The topic of the next stage, by the topic of the message. -/
def topic_map : List (String × String) := [
  (Topic.AGENT_PROBE, Topic.AGENT_JUDGE),
  (Topic.AGENT_JUDGE, Topic.AGENT_REPORTER),
  (Topic.AGENT_REPORTER, Topic.BROADCAST)]

/-- The topic of a reply: the stage after the topic of the message, else the inbox of its source. The
lookup raises when the topic of the message is a list or a dict. -/
def determine_reply_topic (message : Message) : Except String String :=
  message.topic.key.map fun key =>
    let msg_topic := if message.topic.truthy then self.text message.topic else ""
    let exact := topic_map.find? fun e => key = .str e.1
    let by_prefix := topic_map.find? fun e => e.1.toList.isPrefixOf msg_topic.toList
    ((exact.or by_prefix).map Prod.snd).getD (Topic.agent_inbox (self.text message.source))

/-- `_transport.ack(topic, self._last_msg_id, self._last_group)`, if there is an id. -/
def ack_last (topic : String) : AgentCo Unit := do
  let msg_id ← Co.read (·.last_msg_id)
  let group ← Co.read (·.last_group)
  match msg_id.filter (·.truthy) with
  | some msg_id => ack topic msg_id group
  | none => pure ()

/-! ## Failures -/

/-- The message that carries the dead letter record of `message`. -/
def dlq_message (fresh : Fresh) (message : Message) (error : String) (retry_count : Nat)
    (failed_at : String) : Message :=
  let dlq_record := create_dlq_message failed_at message.to_dict error retry_count self.max_retries
    self.agent_id
  { Message.new fresh .ERROR (.str self.agent_id) dlq_record.to_dict with
    trace_id := message.trace_id }

/-- Publish the dead letter of a message, then acknowledge the message. -/
def dead_letter (message : Message) (error : String) (retry_count : Nat) (topic : String) :
    AgentCo Unit := do
  let failed_at ← Co.read fun s => self.rt.isoformat s.clock
  let fresh ← self.fresh
  publish DLQ_TOPIC (self.dlq_message fresh message error retry_count failed_at)
  Co.update fun s => { s with retry_counts := s.retry_counts.pop (self.msg_key message) }
  ack_last topic

/-- `self._retry_counts.get(msg_key, 0)` -/
def failures (message : Message) (s : AgentState) : Nat :=
  (s.retry_counts.get? (self.msg_key message)).getD 0

/-- `_handle_failure`: `true` when the message went to the dead letters, `false` when it will be
tried again. -/
def handle_failure (message : Message) (error topic : String) : AgentCo Bool := do
  let retry_count ← Co.read fun s => self.failures message s + 1
  Co.update fun s => { s with retry_counts := s.retry_counts.set (self.msg_key message) retry_count }
  if self.max_retries ≤ retry_count then do
    self.dead_letter message error retry_count topic
    pure true
  else
    pure false

/-! ## Processing -/

/-- The topic of a reply to `message`. -/
def reply_topic (message reply : Message) : Except String String :=
  if reply.target.truthy then .ok (Topic.agent_inbox (self.text reply.target))
  else self.determine_reply_topic message

/-- One turn of the loop over the replies: the payload is encrypted, unless there is no key. -/
def publish_reply (message reply : Message) : AgentCo Unit := do
  let topic_to_use ← Co.lift (self.reply_topic message reply)
  let payload ← Co.read fun s => self.cipher.encrypt_payload s.made reply.payload
  Co.update fun s => { s with made := s.made + 1 }
  let payload ← Co.lift payload
  publish topic_to_use { reply with payload }

/-- The loop over the replies, in their order. -/
def publish_replies (message : Message) : List Message → AgentCo Unit
  | [] => pure ()
  | reply :: replies => do
    self.publish_reply message reply
    publish_replies message replies

/-- The body of the `try` of `_process_one`. -/
def attempt (message : Message) : AgentCo Unit := do
  Co.update fun s => { s with current_message := some message }
  let replies ← handle_message message
  Co.update fun s => { s with current_message := none }
  self.publish_replies message (replies.getD [])
  Co.update fun s => { s with retry_counts := s.retry_counts.pop (self.msg_key message) }

/-- The `except` branch: the result, and the value it leaves in `should_ack`. -/
def recover (message : Message) (topic error : String) : AgentCo (Bool × Bool) := do
  Co.update fun s => { s with current_message := none }
  let ack_dlq ← self.handle_failure message error topic
  pure (ack_dlq, ack_dlq)

/-- `should_ack` is still true when the `try` statement ends with an exception. -/
def should_ack : Except Exc (Bool × Bool) → Bool
  | .ok (_, should_ack) => should_ack
  | .error _ => true

/-- `_process_one` without its `finally`. -/
def process (message : Message) (topic : String) : AgentCo (Bool × Bool) :=
  Co.tryExcept (do self.attempt message; pure (true, true)) (self.recover message topic)

/-- `_process_one`: the message is acknowledged in the `finally`, however the `try` ends. -/
def process_one (message : Message) (topic : String) : AgentCo Bool := do
  let result ← Co.tryFinally (self.process message topic) fun r =>
    if should_ack r then ack_last topic else pure ()
  pure result.1

/-! ## The consume loop -/

/-- The payload that is handled: the decrypted one, or the received one when decryption raises. -/
def opened (message : Message) : Message :=
  match self.cipher.decrypt_payload message.payload with
  | .ok payload => { message with payload }
  | .error _ => message

/-- `async with self._sem`, when there is one. -/
def with_sem {α : Type} (c : AgentCo α) : AgentCo α :=
  if self.sem then do
    acquire
    c
  else c

/-- Decrypt the payload and process the message. -/
def accept (topic : String) (message : Message) : AgentCo Bool := do
  let _ ← self.with_sem (self.process_one (self.opened message) topic)
  pure true

/-- The ERROR for a message of an unknown type; it goes back to the source of the message. -/
def unknown_type_error (fresh : Fresh) (message : Message) : Message :=
  let err := error_message fresh self.agent_id "UNKNOWN_TYPE" "不识别消息类型" message.trace_id
    message.message_id
  if message.source.truthy then { err with target := message.source } else err

/-- Answer a message of an unknown type with an ERROR. -/
def reject_unknown (message : Message) : AgentCo Bool := do
  let fresh ← self.fresh
  let err := self.unknown_type_error fresh message
  publish (if err.target.truthy then Topic.agent_inbox (self.text err.target) else Topic.BROADCAST) err
  pure true

/-- Validate the message, then process it or drop it. -/
def check (topic : String) (message : Message) : AgentCo Bool := do
  let errors ← Co.lift (validate_message message.to_dict)
  if errors ≠ [] then pure true
  else if message.type = .UNKNOWN then self.reject_unknown message
  else self.accept topic message

/-- The id was recorded less than the idempotency TTL ago. -/
def seen (ts : Option Int) (now : Int) : Bool :=
  match ts with
  | some ts => now - ts < self.idempotency_ttl
  | none => false

/-- Drop the message when its id was seen, else record the id. -/
def deduplicate (topic : String) (message : Message) : AgentCo Bool := do
  let msg_id ← Co.lift message.message_id.key
  let now ← Co.read (·.clock)
  let ts ← Co.read (·.processed_ids.get? msg_id)
  if self.seen ts now then pure true
  else do
    Co.update fun s => { s with processed_ids := s.processed_ids.set msg_id now }
    self.check topic message

/-- The attributes that the loop sets for the message that it received. -/
def receive (topic : String) (message : Message) (s : AgentState) : AgentState :=
  { s with last_topic := topic, last_group := self.group, last_msg_id := message.transport_msg_id }

/-- One iteration of `_consume_loop`. -/
def consume_one (topic : String) (message : Message) : AgentCo Bool := do
  let running ← Co.read (·.running)
  if !running then pure false
  else do
    Co.update (self.receive topic message)
    if message.source.eq_str self.agent_id then pure true
    else self.deduplicate topic message

/-! ## The cleanup loop -/

/-- One pass of `_idempotency_cleanup_loop`: remove the ids that are older than the TTL, and, if there
are still too many, the oldest ones. -/
def idempotency_cleanup (s : AgentState) : AgentState :=
  let cutoff := s.clock - self.idempotency_ttl
  let processed_ids := s.processed_ids.filter fun _ ts => cutoff ≤ ts
  let sorted_ids := processed_ids.items.mergeSort fun a b => a.2 ≤ b.2
  let overflow := sorted_ids.take (sorted_ids.length - self.idempotency_max_size / 2)
  if self.idempotency_max_size < processed_ids.size then
    { s with processed_ids := processed_ids.filter fun id _ => !(overflow.map Prod.fst).contains id }
  else { s with processed_ids }

end Agent

end Aqap
