/-
# Events of a streamed turn

Supplies the three kinds of event that a turn consists of, the metadata that its end carries, and
the JSON form of that metadata. What nobody supplied is left out of the JSON form; the list of
referenced documents alone is always written.
-/

import TokenRelay.Json.Reader

namespace TokenRelay

/-- A document that an answer rests on. -/
structure ReferencedDocument where
  url : String
  title : String
  deriving DecidableEq, Repr

/-- What is known about a turn when it ends. -/
structure TurnMetadata where
  referencedDocuments : List ReferencedDocument := []
  toolCalls : List Json := []
  ragChunks : List Json := []
  truncated : Option Bool := none
  inputTokens : Option UInt64 := none
  outputTokens : Option UInt64 := none

/-- An event of a streamed turn. -/
inductive Event where
  | start (conversationId requestId : String)
  /-- A piece of the answer and its position in the turn, counted from zero. -/
  | token (id : UInt64) (text : String)
  | finish (metadata : TurnMetadata) (quotas : KeyMap UInt64)

/-- The name of an event in its frame. -/
def Event.name : Event → String
  | .start _ _ => "start"
  | .token _ _ => "token"
  | .finish _ _ => "end"

/-- A word as a JSON number. -/
def Json.ofWord (value : UInt64) : Json := .ofNat value.toNat

/-- The JSON form of a document. -/
def ReferencedDocument.toJson (document : ReferencedDocument) : Json :=
  .object [("doc_url", .string document.url), ("doc_title", .string document.title)]

/-- A document as a record. -/
def ReferencedDocument.record : Record ReferencedDocument :=
  Record.pure ReferencedDocument.mk
    |>.and (.required "doc_url" .string)
    |>.and (.required "doc_title" .string)

namespace TurnMetadata

/-- A member that is written only if there is a value for it. -/
def given {α : Type} (name : String) (write : α → Json) :
    Option α → List (String × Json)
  | none => []
  | some value => [(name, write value)]

/-- A list that is written only if it has items. -/
def nonempty (name : String) (items : List Json) : List (String × Json) :=
  if items.isEmpty then [] else [(name, .array items)]

/-- The JSON form of metadata. -/
def toJson (metadata : TurnMetadata) : Json :=
  .object
    (("referenced_documents", .array (metadata.referencedDocuments.map (·.toJson))) ::
      (nonempty "tool_calls" metadata.toolCalls ++ nonempty "rag_chunks" metadata.ragChunks ++
        given "truncated" .bool metadata.truncated ++
        given "input_tokens" .ofWord metadata.inputTokens ++
        given "output_tokens" .ofWord metadata.outputTokens))

/-- Metadata as a record; every field may be absent. -/
def record : Record TurnMetadata :=
  Record.pure TurnMetadata.mk
    |>.and (.defaulted "referenced_documents" []
      (.list (ReferencedDocument.record.reader false)))
    |>.and (.defaulted "tool_calls" [] (.list Reader.value))
    |>.and (.defaulted "rag_chunks" [] (.list Reader.value))
    |>.and (.defaulted "truncated" none (.option .bool))
    |>.and (.defaulted "input_tokens" none (.option .word))
    |>.and (.defaulted "output_tokens" none (.option .word))

/-- Reads metadata. -/
def reader : Reader TurnMetadata := record.reader false

/-- The metadata of a turn that was cut short: nothing is known but that. -/
def cutShort : TurnMetadata := { truncated := some true }

end TurnMetadata

end TokenRelay
