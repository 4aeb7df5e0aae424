import Aqap.Core.Message

/-!
# Dead letter records
-/

namespace Aqap.Core

open Py

def DLQ_TOPIC : String := "aqap:dlq"

/-- The failed message with the reason of its failure. -/
structure DeadLetterRecord where
  original_message : List (String × Json)
  error : String
  retry_count : Nat
  max_retries : Int
  failed_at : String
  failed_by : String

/-- The payload of a dead letter. -/
def DeadLetterRecord.to_dict (self : DeadLetterRecord) : List (String × Json) := [
  ("type", .str "DLQ"),
  ("original_message", .obj self.original_message),
  ("error", .str self.error),
  ("retry_count", .int self.retry_count),
  ("max_retries", .int self.max_retries),
  ("failed_at", .str self.failed_at),
  ("failed_by", .str self.failed_by)]

/-- `failed_at` is the default of the field: the time of the construction. -/
def create_dlq_message (failed_at : String) (original : List (String × Json)) (error : String)
    (retry_count : Nat) (max_retries : Int) (failed_by : String) : DeadLetterRecord where
  original_message := original
  error
  retry_count
  max_retries
  failed_at
  failed_by

end Aqap.Core
