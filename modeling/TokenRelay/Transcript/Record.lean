/-
# Transcript records

Supplies the record of one turn, question and answer, and its JSON form.
-/

import TokenRelay.Event.Basic
import TokenRelay.Timestamp.Reading

namespace TokenRelay

/-- The record of one turn. -/
structure TranscriptRecord where
  userId : String
  conversationId : String
  requestId : String
  query : String
  response : String
  provider : Option String
  model : Option String
  metadata : TurnMetadata
  /-- The turn was cut short, and the response is only its beginning. -/
  interrupted : Bool
  timestamp : Timestamp

namespace TranscriptRecord

/-- The JSON form of a record. -/
def toJson (record : TranscriptRecord) : Json :=
  .object [("user_id", .string record.userId),
    ("conversation_id", .string record.conversationId),
    ("request_id", .string record.requestId), ("query", .string record.query),
    ("response", .string record.response), ("provider", .ofText? record.provider),
    ("model", .ofText? record.model), ("metadata", record.metadata.toJson),
    ("interrupted", .bool record.interrupted), ("timestamp", .string record.timestamp.text)]

/-- A transcript record as a record of fields. Provider and model may be absent. -/
def record : Record TranscriptRecord :=
  Record.pure TranscriptRecord.mk
    |>.and (.required "user_id" .string)
    |>.and (.required "conversation_id" .string)
    |>.and (.required "request_id" .string)
    |>.and (.required "query" .string)
    |>.and (.required "response" .string)
    |>.and (.optional "provider" .string)
    |>.and (.optional "model" .string)
    |>.and (.required "metadata" TurnMetadata.reader)
    |>.and (.required "interrupted" .bool)
    |>.and (.required "timestamp" (.refine .string Timestamp.ofText?))

/-- Reads a transcript record. -/
def reader : Reader TranscriptRecord := record.reader false

end TranscriptRecord

end TokenRelay
