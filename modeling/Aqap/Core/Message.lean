import Aqap.Py.Json
import Aqap.Py.Str

/-!
# The message envelope

`Message` with its types, topics and constructors. `from_dict` copies raw JSON values into the
fields, so a field of a received message may hold any JSON value; only the type is always a
`MessageType`.

* `of_value_value`: every message type is read back from its text.
* `from_dict_to_dict`: so is every message, up to its transport id.
-/

namespace Aqap.Core

open Py

/-! ## Message types and topics -/

inductive MessageType where
  | UNKNOWN
  | HEARTBEAT | REGISTER | SHUTDOWN
  | TASK_DISPATCH | TASK_RESULT
  | JUDGE_REQUEST | JUDGE_VERDICT
  | REPORT_REQUEST | REPORT_DELIVER
  | PLUGIN_EVENT
  | ERROR | LOG
  deriving DecidableEq, Repr

namespace MessageType

/-- The members in the order of the class. -/
def all : List MessageType :=
  [UNKNOWN, HEARTBEAT, REGISTER, SHUTDOWN, TASK_DISPATCH, TASK_RESULT, JUDGE_REQUEST, JUDGE_VERDICT,
    REPORT_REQUEST, REPORT_DELIVER, PLUGIN_EVENT, ERROR, LOG]

/-- `MessageType.X.value` -/
def value : MessageType → String
  | UNKNOWN => "UNKNOWN"
  | HEARTBEAT => "HEARTBEAT"
  | REGISTER => "REGISTER"
  | SHUTDOWN => "SHUTDOWN"
  | TASK_DISPATCH => "TASK_DISPATCH"
  | TASK_RESULT => "TASK_RESULT"
  | JUDGE_REQUEST => "JUDGE_REQUEST"
  | JUDGE_VERDICT => "JUDGE_VERDICT"
  | REPORT_REQUEST => "REPORT_REQUEST"
  | REPORT_DELIVER => "REPORT_DELIVER"
  | PLUGIN_EVENT => "PLUGIN_EVENT"
  | ERROR => "ERROR"
  | LOG => "LOG"

/-- `MessageType(value)`; `none` is its `ValueError`. -/
def of_value (value : String) : Option MessageType := all.find? fun t => t.value == value

theorem of_value_value (t : MessageType) : of_value t.value = some t := by
  cases t <;> decide

end MessageType

namespace Topic

def AGENT_PROBE : String := "aqap:agent:probe"
def AGENT_JUDGE : String := "aqap:agent:judge"
def AGENT_REPORTER : String := "aqap:agent:reporter"
def BROADCAST : String := "aqap:broadcast"
def SYSTEM_EVENTS : String := "aqap:system:events"

def agent_inbox (agent_id : String) : String := "aqap:inbox:" ++ agent_id

end Topic

/-! ## Messages -/

/-- The value that a transport attaches as `_transport_msg_id`: a stream id or a delivery tag. -/
inductive TransportId where
  | id (s : String)
  | tag (n : Int)
  deriving DecidableEq

def TransportId.truthy : TransportId → Bool
  | id s => s != ""
  | tag n => n != 0

/-- `Message`; what is not checked on the way in is any JSON value. -/
structure Message where
  type : MessageType
  source : Json
  payload : Json
  message_id : Json
  target : Json
  topic : Json
  trace_id : Json
  correlation_id : Json
  version : Json
  timestamp : Json
  transport_msg_id : Option TransportId

/-- What the default factories of one construction return. -/
structure Fresh where
  message_id : String
  trace_id : String
  timestamp : String

/-- The parts of the Python runtime that the agents use and the model does not compute. -/
structure Runtime where
  /-- `str(v)` of a float, a list or a dict. -/
  repr : Json → String
  /-- `uuid.uuid4().hex` at its `n`-th call. -/
  uuid4_hex : Nat → String
  /-- `datetime.now(timezone.utc).isoformat()` at a time of the clock. -/
  isoformat : Int → String

/-- The defaults of the `n`-th construction, at the time `now`. -/
def Runtime.fresh (rt : Runtime) (n : Nat) (now : Int) : Fresh where
  message_id := String.ofList ((rt.uuid4_hex (2 * n)).toList.take 16)
  trace_id := String.ofList ((rt.uuid4_hex (2 * n + 1)).toList.take 16)
  timestamp := rt.isoformat now

namespace Message

/-- `Message(type=.., source=.., payload=..)`. -/
def new (fresh : Fresh) (type : MessageType) (source : Json) (payload : List (String × Json)) :
    Message where
  type
  source
  payload := .obj payload
  message_id := .str fresh.message_id
  target := .str ""
  topic := .str ""
  trace_id := .str fresh.trace_id
  correlation_id := .str ""
  version := .str "1.0"
  timestamp := .str fresh.timestamp
  transport_msg_id := none

/-- `to_dict`: the id of the transport stays behind. -/
def to_dict (self : Message) : List (String × Json) := [
  ("type", .str self.type.value),
  ("message_id", self.message_id),
  ("source", self.source),
  ("target", self.target),
  ("topic", self.topic),
  ("trace_id", self.trace_id),
  ("correlation_id", self.correlation_id),
  ("version", self.version),
  ("payload", self.payload),
  ("timestamp", self.timestamp)]

/-- The type of a received message: an unknown name, also in upper case, and a value that is not a
string give `UNKNOWN`. -/
def parse_type : Json → MessageType
  | .str raw_type => ((MessageType.of_value raw_type).or (MessageType.of_value (upper raw_type))).getD
      .UNKNOWN
  | _ => .UNKNOWN

/-- `from_dict`: what is missing has a default, nothing is checked. -/
def from_dict (fresh : Fresh) (data : List (String × Json)) : Message where
  type := parse_type ((data.lookup "type").getD (.str ""))
  message_id := (data.lookup "message_id").getD (.str fresh.message_id)
  source := (data.lookup "source").getD (.str "")
  target := (data.lookup "target").getD (.str "")
  topic := (data.lookup "topic").getD (.str "")
  trace_id := (data.lookup "trace_id").getD (.str fresh.trace_id)
  correlation_id := (data.lookup "correlation_id").getD (.str "")
  version := (data.lookup "version").getD (.str "1.0")
  payload := (data.lookup "payload").getD (.obj [])
  timestamp := (data.lookup "timestamp").getD (.str fresh.timestamp)
  transport_msg_id := none

theorem parse_type_value (t : MessageType) : parse_type (.str t.value) = t := by
  show ((MessageType.of_value t.value).or _).getD _ = t
  rw [MessageType.of_value_value]
  rfl

/-- A message is read back from its wire form, up to its transport id. -/
theorem from_dict_to_dict (fresh : Fresh) (m : Message) :
    from_dict fresh m.to_dict = { m with transport_msg_id := none } := by
  have h : from_dict fresh m.to_dict =
      { m with type := parse_type (.str m.type.value), transport_msg_id := none } := rfl
  rw [h, parse_type_value]

/-- The reply to a message: its trace id and topic, and its id as the correlation id. -/
def reply (self : Message) (fresh : Fresh) (msg_type : MessageType) (payload : List (String × Json)) :
    Message :=
  { Message.new fresh msg_type (if self.target.truthy then self.target else self.source) payload with
    target := self.source
    topic := self.topic
    trace_id := self.trace_id
    correlation_id := self.message_id }

end Message

/-- A message with the fields of `msg`, as a transport delivers it: it has its own transport id. -/
def Delivered (msg m : Message) : Prop :=
  ∃ fresh tid, m = { Message.from_dict fresh msg.to_dict with transport_msg_id := tid }

/-- A transport changes nothing but the transport id. -/
theorem Delivered.eq {msg m : Message} (h : Delivered msg m) :
    m = { msg with transport_msg_id := m.transport_msg_id } := by
  obtain ⟨fresh, tid, rfl⟩ := h
  rw [Message.from_dict_to_dict]

theorem Delivered.refl (msg : Message) : Delivered msg msg :=
  ⟨⟨"", "", ""⟩, msg.transport_msg_id, by rw [Message.from_dict_to_dict]⟩

/-! ## Constructors -/

/-- A task is sent to the probe. -/
def task_dispatch (fresh : Fresh) (source : String) (payload : List (String × Json)) : Message :=
  { Message.new fresh .TASK_DISPATCH (.str source) payload with topic := .str Topic.AGENT_PROBE }

/-- A result is sent to the judge; its trace id is new. -/
def task_result (fresh : Fresh) (source : String) (payload : List (String × Json)) : Message :=
  { Message.new fresh .TASK_RESULT (.str source) payload with topic := .str Topic.AGENT_JUDGE }

/-- A verdict is sent to the reporter. -/
def judge_verdict (fresh : Fresh) (source : String) (payload : List (String × Json)) : Message :=
  { Message.new fresh .JUDGE_VERDICT (.str source) payload with topic := .str Topic.AGENT_REPORTER }

/-- The heartbeat of an agent. -/
def heartbeat (fresh : Fresh) (agent_id : String) : Message :=
  Message.new fresh .HEARTBEAT (.str agent_id) [("status", .obj [("alive", .bool true)])]

/-- A protocol-level ERROR message. -/
def error_message (fresh : Fresh) (source code message : String) (trace_id original_message_id : Json) :
    Message :=
  Message.new fresh .ERROR (.str source) [
    ("code", .str code),
    ("message", .str message),
    ("trace_id", trace_id),
    ("original_message_id", original_message_id)]

end Aqap.Core
