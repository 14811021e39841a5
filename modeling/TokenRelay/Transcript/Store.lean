/-
# The transcript store

Supplies where transcripts are kept and what is written there. A user is known by a pseudonym, the
digest of a secret and the normal form of the user's identifier; a conversation is known by what is
left of its identifier without the characters that could mean something in a path. Every record
becomes one file, two directories below the root.
-/

import TokenRelay.Digest.Sha256
import TokenRelay.Files.Tree
import TokenRelay.Json.Pretty
import TokenRelay.Source.Script
import TokenRelay.Text.Hex
import TokenRelay.Text.LowerCase.Basic
import TokenRelay.Text.Utf8
import TokenRelay.Text.Uuid
import TokenRelay.Transcript.Record

namespace TokenRelay

/-- Where transcripts are kept. -/
structure TranscriptStore where
  root : String
  /-- The secret that goes into every pseudonym. -/
  pepper : Option String := none
  /-- Whether turns that were cut short are kept as well. -/
  keepsPartial : Bool := false
  deriving DecidableEq, Repr

namespace TranscriptStore

/-- The normal form of a user identifier: trimmed and in lower case. -/
def normalUser (userId : String) : String :=
  Text.lower (Text.trim userId)

/-- The pseudonym of a user: 64 hexadecimal digits. -/
def pseudonym (store : TranscriptStore) (userId : String) : String :=
  let secret := (store.pepper.getD "").toList
  String.ofList (Text.Hex.encode
    (Digest.sha256 (Text.Utf8.encode (secret ++ (normalUser userId).toList))))

/-- Whether a character is kept in the name of a directory. -/
def isSafe (character : Char) : Bool :=
  character.isAlphanum || character == '-' || character == '_'

/-- The directory name of a conversation. -/
def conversationName (conversationId : String) : String :=
  let safe := conversationId.toList.filter isSafe
  if safe.isEmpty then "unknown" else String.ofList safe

/-- The directory of a conversation of a user. -/
def directory (store : TranscriptStore) (userId conversationId : String) : String :=
  Path.join (Path.join store.root (store.pseudonym userId)) (conversationName conversationId)

/-- The JSON form of a stored record. -/
def stored (store : TranscriptStore) (record : TranscriptRecord) : Json :=
  .object
    [("metadata", .object
      [("provider", .ofText? record.provider), ("model", .ofText? record.model),
        ("anonymous_user_id", .string (store.pseudonym record.userId)),
        ("conversation_id", .string record.conversationId),
        ("request_id", .string record.requestId),
        ("timestamp", .string record.timestamp.offsetText)]),
      ("query", .string record.query), ("llm_response", .string record.response),
      ("interrupted", .bool record.interrupted),
      ("truncated", .bool (record.metadata.truncated.getD false)),
      ("referenced_documents",
        .array (record.metadata.referencedDocuments.map (·.toJson))),
      ("rag_chunks", .array record.metadata.ragChunks),
      ("tool_calls", .array record.metadata.toolCalls)]

/-- Writes a record into the tree, as the file with the given name in the directory of its
conversation. -/
def store (store : TranscriptStore) (tree : FileTree) (name : Uuid) (record : TranscriptRecord) :
    FileTree × Option StreamError :=
  let directory := store.directory record.userId record.conversationId
  match tree.makeDirectories directory with
  | (tree, some error) =>
    (tree, some (.transcript ("Failed to create " ++ directory ++ ": " ++ error.message)))
  | (tree, none) =>
    let content := Text.Utf8.encode (store.stored record).pretty.toList
    let (tree, error?) := tree.write (Path.join directory (name.text ++ ".json")) content
    (tree, error?.map fun error => .io error.message)

end TranscriptStore

end TokenRelay
