/-
# Queries

Supplies the request that starts a streamed turn: its fields, how it is read, and the conditions
on it. The conditions are tested in a fixed order, so a request that breaks several of them is
always refused for the same one.
-/

import TokenRelay.Json.Reader
import TokenRelay.Text.Blank
import TokenRelay.Text.Uuid

namespace TokenRelay

/-- A request for a streamed turn. -/
structure Query where
  text : String
  conversationId : Option String
  provider : Option String
  model : Option String
  systemPrompt : Option String
  deriving DecidableEq, Repr

/-- Why a query is refused. -/
inductive QueryError where
  | blankText
  | improperConversation (id : String)
  | modelMissing
  | providerMissing
  deriving DecidableEq, Repr

/-- The text of a refusal. -/
def QueryError.message : QueryError → String
  | .blankText => "Query must not be empty"
  | .improperConversation id => "Improper conversation ID '" ++ id ++ "'"
  | .modelMissing => "Model must be specified if provider is specified"
  | .providerMissing => "Provider must be specified if model is specified"

namespace Query

/-- A query as a record; only its text must be there. -/
def record : Record Query :=
  Record.pure Query.mk
    |>.and (.required "query" .string)
    |>.and (.defaulted "conversation_id" none (.option .string))
    |>.and (.defaulted "provider" none (.option .string))
    |>.and (.defaulted "model" none (.option .string))
    |>.and (.defaulted "system_prompt" none (.option .string))

/-- Reads a query. -/
def reader : Reader Query := record.reader false

/-- A query has a text that is not blank, a proper conversation identifier or none, and names
provider and model together or not at all. -/
def validate (query : Query) : Except QueryError Unit :=
  if Text.isBlankText query.text then .error .blankText
  else
    match query.conversationId.filter fun id => (Uuid.ofText? id).isNone with
    | some id => .error (.improperConversation id)
    | none =>
      match query.provider, query.model with
      | some _, none => .error .modelMissing
      | none, some _ => .error .providerMissing
      | _, _ => .ok ()

end Query

end TokenRelay
