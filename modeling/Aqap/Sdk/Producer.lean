import Aqap.Sdk.Message

/-!
# The producer of the SDK

`StreamProducer` writes a message to the stream that its topic names. It does not look at the target of
the message.
-/

namespace Aqap.Sdk

open Py Aqap.Core

/-- The message of the core with the same envelope. -/
def AQAPMessage.core (self : AQAPMessage) : Message where
  type := self.type
  source := self.source
  payload := self.payload
  message_id := self.message_id
  target := self.target
  topic := self.topic
  trace_id := self.trace_id
  correlation_id := self.correlation_id
  version := self.version
  timestamp := self.timestamp
  transport_msg_id := none

/-- The producer; `encode` is what the Redis client makes of the name of a stream. -/
structure StreamProducer where
  encode : Json → Except String String

namespace StreamProducer

variable (self : StreamProducer)

/-- The stream that is written to, and the envelope that is written. -/
def publish (message : AQAPMessage) : Except String (String × List (String × Json)) := do
  let stream ← self.encode (or_default message.topic Topic.AGENT_PROBE)
  pure (stream, message.to_dict)

def send_to (fresh : Fresh) (msg_type : MessageType) (source target topic : String)
    (payload : List (String × Json)) (trace_id : String) :
    Except String (String × List (String × Json)) :=
  self.publish (.new fresh msg_type (.str source) (.obj payload) .null (.str target) (.str topic)
    (or_default (.str trace_id) fresh.trace_id) (.str "") (.str AQAPMessage.PROTOCOL_VERSION) .null)

end StreamProducer

end Aqap.Sdk
