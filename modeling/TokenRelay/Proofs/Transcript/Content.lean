/-
# What a stored transcript says

Supplies that a stored transcript reads back. The text in its file is JSON, in which the question,
the answer and everything else about the turn stand under their names as they are in the record; of
the user it knows only the pseudonym. The file is no JSON to its reader if something that others
supplied nests more deeply than readers go below the two levels that are put around it.
-/

import TokenRelay.Proofs.Event.Metadata
import TokenRelay.Proofs.Json.Pretty
import TokenRelay.Proofs.Text.Utf8
import TokenRelay.Proofs.Transcript.Directory

namespace TokenRelay

/-- The bytes of a text have its document. -/
theorem Document.ofUnits_encode (text : String) :
    ofUnits (Text.Utf8.units (Text.Utf8.encode text.toList)) = .ofText text := by
  rw [Text.Utf8.units_encode, ofText]

namespace Json

/-- What stands under keys of objects, the key of the outermost first. -/
def at? : List String → Json → Option Json
  | [], value => some value
  | key :: path, .object members => (members.lookup key).bind (at? path)
  | _ :: _, .null | _ :: _, .bool _ | _ :: _, .number _ | _ :: _, .string _ | _ :: _, .array _ =>
    none

/-- In a settled object everything stands where it stood. -/
theorem at?_resettle {members : List (String × Json)} (distinct : (members.map Prod.fst).Nodup)
    (key : String) (path : List String) :
    (Json.object members).resettle.at? (key :: path) =
      (members.lookup key).bind fun value => value.resettle.at? path := by
  rw [resettle, settle, at?, lookup_resettle distinct]
  cases members.lookup key <;> rfl

@[simp]
theorem resettle_ofText? (text : Option String) : (ofText? text).resettle = ofText? text := by
  cases text <;> rfl

@[simp]
theorem numbers_ofText? (text : Option String) : (ofText? text).numbers = [] := by
  cases text <;> rfl

@[simp]
theorem nesting_ofText? (text : Option String) : (ofText? text).nesting = 0 := by
  cases text <;> rfl

end Json

namespace TranscriptRecord

/-- The values in a record that others supplied. -/
def supplied (record : TranscriptRecord) : List Json :=
  record.metadata.toolCalls ++ record.metadata.ragChunks

/-- Supplied values are as they can be stored. -/
def Proper (record : TranscriptRecord) : Prop := ∀ value ∈ record.supplied, value.Proper

/-- The floating-point numbers in supplied values read back from their texts. -/
def FloatsReadBack (record : TranscriptRecord) : Prop :=
  ∀ value ∈ record.supplied, value.FloatsReadBack

end TranscriptRecord

namespace TranscriptStore

/-- What the JSON of a stored transcript says about its turn. -/
structure Tells (store : TranscriptStore) (record : TranscriptRecord) (value : Json) : Prop where
  query_eq : value.at? ["query"] = some (.string record.query)
  response_eq : value.at? ["llm_response"] = some (.string record.response)
  interrupted_eq : value.at? ["interrupted"] = some (.bool record.interrupted)
  /-- Whether the answer is complete may be unknown; it counts as complete then. -/
  truncated_eq : value.at? ["truncated"] = some (.bool (record.metadata.truncated.getD false))
  documents_eq : value.at? ["referenced_documents"] =
    some (.array (record.metadata.referencedDocuments.map fun document =>
      .object [("doc_title", .string document.title), ("doc_url", .string document.url)]))
  chunks_eq : value.at? ["rag_chunks"] = some (.array record.metadata.ragChunks)
  calls_eq : value.at? ["tool_calls"] = some (.array record.metadata.toolCalls)
  provider_eq : value.at? ["metadata", "provider"] = some (.ofText? record.provider)
  model_eq : value.at? ["metadata", "model"] = some (.ofText? record.model)
  user_eq : value.at? ["metadata", "anonymous_user_id"] =
    some (.string (store.pseudonym record.userId))
  conversation_eq : value.at? ["metadata", "conversation_id"] =
    some (.string record.conversationId)
  request_eq : value.at? ["metadata", "request_id"] = some (.string record.requestId)

variable (store : TranscriptStore) (record : TranscriptRecord)

/-- What is stored about a turn under one key. -/
def about : List (String × Json) :=
  [("provider", .ofText? record.provider), ("model", .ofText? record.model),
    ("anonymous_user_id", .string (store.pseudonym record.userId)),
    ("conversation_id", .string record.conversationId),
    ("request_id", .string record.requestId),
    ("timestamp", .string record.timestamp.offsetText)]

/-- The members of the JSON form of a stored record. -/
def members : List (String × Json) :=
  [("metadata", .object (store.about record)), ("query", .string record.query),
    ("llm_response", .string record.response), ("interrupted", .bool record.interrupted),
    ("truncated", .bool (record.metadata.truncated.getD false)),
    ("referenced_documents", .array (record.metadata.referencedDocuments.map (·.toJson))),
    ("rag_chunks", .array record.metadata.ragChunks),
    ("tool_calls", .array record.metadata.toolCalls)]

theorem stored_eq : store.stored record = .object (store.members record) := rfl

variable {store record}

theorem at?_stored {key : String} {value result : Json}
    (there : (store.members record).lookup key = some value) (settled : value.resettle = result) :
    (store.stored record).resettle.at? [key] = some result := by
  have distinct : ((store.members record).map Prod.fst).Nodup := by simp [members]
  rw [stored_eq, Json.at?_resettle distinct, there, Option.bind_some, settled, Json.at?]

theorem at?_about {key : String} {value result : Json}
    (there : (store.about record).lookup key = some value) (settled : value.resettle = result) :
    (store.stored record).resettle.at? ["metadata", key] = some result := by
  have distinct : ((store.members record).map Prod.fst).Nodup := by simp [members]
  have distinct' : ((store.about record).map Prod.fst).Nodup := by simp [about]
  have below : (store.members record).lookup "metadata" = some (.object (store.about record)) := rfl
  rw [stored_eq, Json.at?_resettle distinct, below, Option.bind_some,
    Json.at?_resettle distinct', there, Option.bind_some, settled, Json.at?]

/-- A document says the same with its keys sorted. -/
theorem resettle_document (document : ReferencedDocument) :
    document.toJson.resettle =
      .object [("doc_title", .string document.title), ("doc_url", .string document.url)] := by
  have before : "doc_title" < "doc_url" := by decide
  simp [ReferencedDocument.toJson, Json.resettle, Json.resettleMembers, Json.settle, KeyMap.ofList,
    KeyMap.insert, KeyMap.empty, insertEntry, before]

/-- The JSON form of a record, read back, says what it has to say. -/
theorem tells_stored (settled : ∀ value ∈ record.supplied, value.Settled) :
    store.Tells record (store.stored record).resettle := by
  rw [TranscriptRecord.supplied, List.forall_mem_append] at settled
  have calls := Json.resettleItems_of_settled _ ((Json.settledItems_iff _).2 settled.1)
  have chunks := Json.resettleItems_of_settled _ ((Json.settledItems_iff _).2 settled.2)
  have documents : Json.resettleItems (record.metadata.referencedDocuments.map (·.toJson)) =
      record.metadata.referencedDocuments.map fun document =>
        .object [("doc_title", .string document.title), ("doc_url", .string document.url)] := by
    rw [Json.resettleItems_eq_map, List.map_map]
    exact List.map_congr_left fun document _ => resettle_document document
  exact {
    query_eq := at?_stored rfl rfl
    response_eq := at?_stored rfl rfl
    interrupted_eq := at?_stored rfl rfl
    truncated_eq := at?_stored rfl rfl
    documents_eq := at?_stored rfl (congrArg Json.array documents)
    chunks_eq := at?_stored rfl (congrArg Json.array chunks)
    calls_eq := at?_stored rfl (congrArg Json.array calls)
    provider_eq := at?_about rfl (Json.resettle_ofText? _)
    model_eq := at?_about rfl (Json.resettle_ofText? _)
    user_eq := at?_about rfl rfl
    conversation_eq := at?_about rfl rfl
    request_eq := at?_about rfl rfl }

/-- Every number in a stored record was supplied by others. -/
theorem mem_numbers_stored {number : Number} :
    number ∈ (store.stored record).numbers ↔ ∃ value ∈ record.supplied, number ∈ value.numbers := by
  simp [stored_eq, members, about, Json.numbers, Json.memberNumbers,
    TurnMetadata.numbers_documents, Json.mem_itemNumbers, TranscriptRecord.supplied, or_and_right,
    exists_or, or_comm]

/-- Two levels of a stored record lie above what others supplied. -/
theorem nesting_stored_le_iff :
    (store.stored record).nesting ≤ Reader.depthLimit ↔
      ∀ value ∈ record.supplied, value.nesting ≤ 125 := by
  have documents :
      (Json.array (record.metadata.referencedDocuments.map (·.toJson))).nesting ≤ 126 := by
    rw [Json.nesting, Nat.add_le_add_iff_right, Json.itemNesting_le_iff]
    simp [ReferencedDocument.toJson, Json.nesting, Json.memberNesting]
  have listed (items : List Json) :
      (Json.array items).nesting ≤ 126 ↔ ∀ value ∈ items, value.nesting ≤ 125 := by
    rw [Json.nesting, Nat.add_le_add_iff_right, Json.itemNesting_le_iff]
  have flat : (Json.object (store.about record)).nesting ≤ 126 := by
    simp [about, Json.nesting, Json.memberNesting]
  have plain (text : String) : (Json.string text).nesting ≤ 126 := Nat.zero_le _
  have truth (value : Bool) : (Json.bool value).nesting ≤ 126 := Nat.zero_le _
  rw [stored_eq, Json.nesting, Reader.depthLimit, Nat.add_le_add_iff_right,
    Json.memberNesting_le_iff, TranscriptRecord.supplied, List.forall_mem_append, ← listed,
    ← listed]
  simp [members, flat, documents, plain, truth, and_comm]

variable (store record)

/-- What is read from the file of a record. -/
def readBack : Except Fault Json :=
  Reader.run Reader.value (.ofUnits (Text.Utf8.units (store.content record)))

/-- What is read is the JSON form of the record, unless it nests too deeply. -/
theorem readBack_eq (proper : record.Proper) (floats : record.FloatsReadBack) :
    store.readBack record =
      Reader.found (if ∀ value ∈ record.supplied, value.nesting ≤ 125 then
        some (store.stored record).resettle else none) := by
  have numbers : ∀ number ∈ (store.stored record).numbers, number.Proper ∧ number.ReadsBack := by
    intro number inside
    obtain ⟨value, there, within⟩ := mem_numbers_stored.1 inside
    exact ⟨(proper value there).2 number within,
      (proper value there).readsBack (floats value there) number within⟩
  have read := Reader.run_pretty (fun number inside => (numbers number inside).1)
    fun number inside => (numbers number inside).2
  rw [readBack, content, Document.ofUnits_encode, read]
  simp only [nesting_stored_le_iff]

/-- The file of a record that was stored reads back faithfully, as long as nothing in it nests more
deeply than readers go, and knows the user by pseudonym only: for another user with the same
pseudonym the directory and the text of the file are the same, and so is all that comes of storing
it. -/
theorem content_tells_record (proper : record.Proper) (floats : record.FloatsReadBack) :
    (∀ tree name after, store.store tree name record = (after, none) →
      ∃ directory,
        after.directoryAt? (store.directory record.userId record.conversationId) = some directory ∧
          after.content? (directory ++ [fileName name]) = some (store.content record)) ∧
    ((∀ value ∈ record.supplied, value.nesting ≤ 125) →
      ∃ value, store.readBack record = .ok value ∧ store.Tells record value) ∧
    ((∃ value ∈ record.supplied, 125 < value.nesting) →
      store.readBack record = .error .malformed) ∧
    ∀ other, store.pseudonym other = store.pseudonym record.userId →
      store.directory other record.conversationId =
          store.directory record.userId record.conversationId ∧
        store.content { record with userId := other } = store.content record ∧
        ∀ tree name,
          store.store tree name { record with userId := other } = store.store tree name record := by
  have read := store.readBack_eq record proper floats
  refine ⟨fun tree name after result => ?_, fun shallow => ?_, fun deep => ?_, fun other same => ?_⟩
  · obtain ⟨-, -, stored⟩ := stored_of_store result
    cases stored with
    | written directory within changed =>
        exact ⟨directory, within, by rw [changed, if_pos rfl]⟩
  · rw [if_pos shallow] at read
    exact ⟨_, read, tells_stored fun value inside => (proper value inside).1⟩
  · obtain ⟨value, there, below⟩ := deep
    rw [if_neg fun shallow => absurd (shallow value there) (Nat.not_le.2 below)] at read
    exact read
  · have directory : store.directory other record.conversationId =
        store.directory record.userId record.conversationId := by
      rw [TranscriptStore.directory, TranscriptStore.directory, same]
    have stored : store.stored { record with userId := other } = store.stored record := by
      simp only [TranscriptStore.stored, same]
    refine ⟨directory, ?_, fun tree name => ?_⟩
    · rw [content, content, stored]
    · unfold TranscriptStore.store
      dsimp only
      rw [directory, stored]

/-- The record of a turn in which a tool was called with nothing and with nested arguments. -/
def quotedTurn : TranscriptRecord where
  userId := "alice"
  conversationId := "c1"
  requestId := "r1"
  query := "say \"hi\"\n\ttwice\\"
  response := "hi \u007f\u0001 😀"
  provider := some "mock"
  model := none
  metadata := {
    referencedDocuments := [⟨"https://a", "A"⟩]
    toolCalls := [.object [], .object [("args", .array [.array [], .number (.int (-7)), .null])]] }
  interrupted := true
  timestamp := ⟨2024, 2, 29, 23, 59, 60, 5000000⟩

theorem quotedTurn_reads_back :
    let store : TranscriptStore := { root := "t", pepper := some "salt" }
    quotedTurn.Proper ∧ quotedTurn.FloatsReadBack ∧
      (∃ value, store.readBack quotedTurn = .ok value ∧ store.Tells quotedTurn value) ∧
      store.pseudonym " ALICE" = store.pseudonym quotedTurn.userId ∧
      store.content { quotedTurn with userId := " ALICE" } = store.content quotedTurn := by
  intro store
  have proper : quotedTurn.Proper := by
    have least : (Number.int (-7)).Proper := ⟨by decide, by decide⟩
    refine List.forall_mem_cons.2 ⟨⟨⟨List.Pairwise.nil, trivial⟩, List.forall_mem_nil _⟩, ?_⟩
    refine List.forall_mem_singleton.2 ⟨⟨List.pairwise_singleton _ _, ?_⟩, ?_⟩
    · exact ⟨⟨trivial, trivial, trivial, trivial⟩, trivial⟩
    · exact List.forall_mem_singleton.2 least
  have floats : quotedTurn.FloatsReadBack := Json.floatsReadBack_of_plain (by decide +kernel)
  have shallow : ∀ value ∈ quotedTurn.supplied, value.nesting ≤ 125 := by decide
  have same : store.pseudonym " ALICE" = store.pseudonym quotedTurn.userId := by
    have form : normalUser " ALICE" = normalUser quotedTurn.userId := by decide +kernel
    simp only [pseudonym, form]
  obtain ⟨-, reads, -, hides⟩ := store.content_tells_record quotedTurn proper floats
  exact ⟨proper, floats, reads shallow, same, (hides " ALICE" same).2.1⟩

end TranscriptStore

end TokenRelay
