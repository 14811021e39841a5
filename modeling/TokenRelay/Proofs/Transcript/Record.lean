/-
# Records in bodies

Supplies that a record which was read from any body is read from its own text too, so that a record
which is read and written again stays as it is from then on. A body may leave out who answered, may
be an array of the fields in order, and may give the time in any zone. Whatever it was, what others
supplied nests three levels less deep than readers go, which is what the writer puts around it, and
the time is a moment of the calendar, of which the writer leaves out nothing.
-/

import TokenRelay.Proofs.Timestamp.Text
import TokenRelay.Proofs.Transcript.Content

namespace TokenRelay

/-- A text that may be missing is read from what is written for it. -/
theorem Record.build_text? {members : List (String × Json)} {name : String} {text : Option String}
    (written : members.lookup name = some (.ofText? text)) (depth : Nat) :
    (Record.optional name .string).build depth (Json.content Json.tree members) = .ok text := by
  have content : Json.content Json.tree members name = some (Json.ofText? text).tree := by
    rw [Json.content, written, Option.map_some]
  simp only [Record.optional, content]
  cases text <;> rfl

namespace TranscriptRecord

/-- The record that a body holds. -/
def decode (body : List UInt8) : Except Fault TranscriptRecord :=
  reader.run (.ofUnits (Text.Utf8.units body))

/-- The body that is written for a record. -/
def encode (record : TranscriptRecord) : List UInt8 :=
  Text.Utf8.encode record.toJson.compact.toList

/-- What others supplied nests no deeper than readers go below the record, its metadata and their
list. -/
def Shallow (record : TranscriptRecord) : Prop := ∀ value ∈ record.supplied, value.nesting ≤ 124

/-! ### Writing -/

/-- The members of the JSON form of a record. -/
def members (record : TranscriptRecord) : List (String × Json) :=
  [("user_id", .string record.userId), ("conversation_id", .string record.conversationId),
    ("request_id", .string record.requestId), ("query", .string record.query),
    ("response", .string record.response), ("provider", .ofText? record.provider),
    ("model", .ofText? record.model), ("metadata", record.metadata.toJson),
    ("interrupted", .bool record.interrupted), ("timestamp", .string record.timestamp.text)]

theorem toJson_eq (record : TranscriptRecord) : record.toJson = .object record.members := rfl

/-- The numbers in a record are words and those in what others supplied. -/
theorem forall_numbers (record : TranscriptRecord) {holds : Number → Prop}
    (word : ∀ value : UInt64, holds (.int value.toNat))
    (supplied : ∀ value ∈ record.supplied, ∀ number ∈ value.numbers, holds number) :
    ∀ number ∈ record.toJson.numbers, holds number := by
  have within := record.metadata.forall_numbers word supplied
  simpa [toJson_eq, members, Json.numbers, Json.memberNumbers] using within

/-- Every field is read from what was written for it. -/
theorem build_members {record : TranscriptRecord} (settled : ∀ value ∈ record.supplied,
    value.Settled) (shallow : record.Shallow) (timestamp : record.timestamp.Proper) :
    TranscriptRecord.record.build 126 (Json.content Json.tree record.members) = .ok record := by
  have nothing : (Record.pure TranscriptRecord.mk).build 126
      (Json.content Json.tree record.members) = .ok TranscriptRecord.mk := rfl
  have metadata : (Record.required "metadata" TurnMetadata.reader).build 126
      (Json.content Json.tree record.members) = .ok record.metadata :=
    Record.build_required rfl
      (TurnMetadata.read Json.rendering_tree record.metadata settled shallow)
  have time : (Record.required "timestamp" (.refine .string Timestamp.ofText?)).build 126
      (Json.content Json.tree record.members) = .ok record.timestamp :=
    Record.build_required rfl (Reader.refine_eq_ok rfl (Timestamp.ofText?_text timestamp))
  have text {name text : String} (written : record.members.lookup name = some (.string text)) :
      (Record.required name .string).build 126 (Json.content Json.tree record.members) =
        .ok text := by
    have content : Json.content Json.tree record.members name = some (Json.string text).tree := by
      rw [Json.content, written, Option.map_some]
    exact Record.build_required content rfl
  have truth : (Record.required "interrupted" .bool).build 126
      (Json.content Json.tree record.members) = .ok record.interrupted :=
    Record.build_required rfl rfl
  exact Record.build_and (Record.build_and (Record.build_and (Record.build_and (Record.build_and
    (Record.build_and (Record.build_and (Record.build_and (Record.build_and (Record.build_and
      nothing (text rfl)) (text rfl)) (text rfl)) (text rfl)) (text rfl))
      (Record.build_text? rfl 126)) (Record.build_text? rfl 126)) metadata) truth) time

theorem checked_record : TranscriptRecord.record.Checked :=
  ((((((((((Record.checked_pure _).and (Record.checked_required _ _)).and
    (Record.checked_required _ _)).and (Record.checked_required _ _)).and
    (Record.checked_required _ _)).and (Record.checked_required _ _)).and
    (Record.checked_optional _ _)).and (Record.checked_optional _ _)).and
    (Record.checked_required _ _)).and (Record.checked_required _ _)).and
    (Record.checked_required _ _)

/-- A record at a moment of the calendar is read from its body, as long as its numbers read back and
nothing in it nests too deeply. -/
theorem decode_encode_of_proper {record : TranscriptRecord} (proper : record.Proper)
    (floats : record.FloatsReadBack) (shallow : record.Shallow)
    (timestamp : record.timestamp.Proper) : decode record.encode = .ok record := by
  have distinct : (record.members.map Prod.fst).Nodup := by simp [members]
  have numbers := record.forall_numbers Number.proper_word fun value inside =>
    (proper value inside).2
  have same := record.forall_numbers (fun word => Number.readsBack_int (Number.proper_word word))
    fun value inside => (proper value inside).readsBack (floats value inside)
  have read := Json.rendering_tree.read checked_record distinct
    (build_members (fun value inside => (proper value inside).1) shallow timestamp)
  have document : Document.ofText record.toJson.compact = ⟨record.toJson.tree, false⟩ := by
    rw [Document.ofText_compact record.toJson numbers, Json.treeWith_eq_tree _ same]
  rw [decode, encode, Document.ofUnits_encode, document, Reader.run_of_complete]
  exact read

/-! ### Reading -/

/-- What was read as a record is one that can be written. -/
theorem isMade_of_decode {body : List UInt8} {record : TranscriptRecord}
    (read : decode body = .ok record) :
    (∀ value ∈ record.supplied, value.IsMade Number.IsDenoted 124) ∧ record.timestamp.Proper := by
  -- The fields come off from the last to the first; only two of them are limited in what they hold.
  obtain ⟨_, find, ⟨⟩, built, below⟩ := Record.exists_build (Reader.of_run read)
  obtain ⟨_, _, ninth, time, rfl⟩ := Record.exists_of_build_and built
  obtain ⟨_, _, eighth, -, rfl⟩ := Record.exists_of_build_and ninth
  obtain ⟨_, _, seventh, metadata, rfl⟩ := Record.exists_of_build_and eighth
  obtain ⟨_, _, sixth, -, rfl⟩ := Record.exists_of_build_and seventh
  obtain ⟨_, _, fifth, -, rfl⟩ := Record.exists_of_build_and sixth
  obtain ⟨_, _, fourth, -, rfl⟩ := Record.exists_of_build_and fifth
  obtain ⟨_, _, third, -, rfl⟩ := Record.exists_of_build_and fourth
  obtain ⟨_, _, second, -, rfl⟩ := Record.exists_of_build_and third
  obtain ⟨_, _, first, -, rfl⟩ := Record.exists_of_build_and second
  obtain ⟨_, _, made, -, rfl⟩ := Record.exists_of_build_and first
  cases made
  obtain ⟨tree, present, found⟩ := Record.exists_of_build_required metadata
  obtain ⟨_, -, written⟩ := Record.exists_of_build_required time
  obtain ⟨text, -, moment⟩ := Reader.exists_of_refine written
  have denoted := Tree.numbers_of_part (Document.denoted_ofUnits (Text.Utf8.units body))
    (below _ _ present)
  exact ⟨TurnMetadata.isMade_of_read denoted found, Timestamp.proper_of_ofText? moment⟩

/-- A record that was read from any body is read from its own as well, if the floating-point numbers
in it read back from their texts; so writing it again changes nothing. -/
theorem rewriting_changes_nothing {body : List UInt8} {record : TranscriptRecord}
    (read : decode body = .ok record) (floats : record.FloatsReadBack) :
    decode record.encode = .ok record ∧ (decode record.encode).map encode = .ok record.encode := by
  obtain ⟨made, timestamp⟩ := isMade_of_decode read
  have proper : record.Proper :=
    fun value inside => (made value inside).proper (floats value inside)
  have shallow : record.Shallow := fun value inside => (made value inside).nesting_le
  have decoded := decode_encode_of_proper proper floats shallow timestamp
  exact ⟨decoded, by rw [decoded]; rfl⟩

/-- A body with blanks and escapes, its members in another order and one more, a model and no
provider given, metadata in an array that ends early, and a leap second in local time, which in
universal time is in the year before. -/
def looseText : List Char :=
  ["\x7b \"x\":[0],", "\"timestamp\":\"2024-1-1 00:29:60.1204500+0030\",", "\"model\":\"m\",",
    "\"metadata\":[[],", "[\x7b\"b\":2,\"a\":0,\"\\u0061\":1.50\x7d] ],", "\"interrupted\":true,",
    "\"response\":\"\\ud83d\\ude00\",", "\"query\":\"\\/\",", "\"request_id\":\"r\",",
    "\"conversation_id\":\"c\",", "\"user_id\":\"u\"\x7d\n"].flatMap String.toList

/-- The body of the same record. -/
def strictText : List Char :=
  ["\x7b\"user_id\":\"u\",", "\"conversation_id\":\"c\",", "\"request_id\":\"r\",",
    "\"query\":\"/\",", "\"response\":\"😀\",", "\"provider\":null,", "\"model\":\"m\",",
    "\"metadata\":\x7b\"referenced_documents\":[],",
    "\"tool_calls\":[\x7b\"a\":1.5,\"b\":2\x7d]\x7d,", "\"interrupted\":true,",
    "\"timestamp\":\"2023-12-31T23:59:60.120450Z\"\x7d"].flatMap String.toList

theorem rewriting_looseText :
    ∃ record, decode (Text.Utf8.encode looseText) = .ok record ∧ record.FloatsReadBack ∧
      record.encode = Text.Utf8.encode strictText ∧ decode record.encode = .ok record ∧
      (decode record.encode).map encode = .ok record.encode := by
  -- Records cannot be compared, so this one is told by its text.
  have known : (decode (Text.Utf8.encode looseText)).toOption.any (fun record =>
      decide (record.toJson.tokens.flatMap Token.text = strictText) &&
        record.supplied.all fun value => value.numbers.all Number.isPlain) = true := by
    decide +kernel
  cases read : decode (Text.Utf8.encode looseText) with
  | error fault =>
      rw [read] at known
      cases known
  | ok record =>
      simp only [read, Except.toOption, Option.any_some, Bool.and_eq_true, decide_eq_true_eq]
        at known
      obtain ⟨text, numbers⟩ := known
      have written : record.encode = Text.Utf8.encode strictText := by
        rw [encode, Json.compact, String.toList_ofList, text]
      have floats : record.FloatsReadBack := Json.floatsReadBack_of_plain numbers
      obtain ⟨again, fixed⟩ := rewriting_changes_nothing read floats
      exact ⟨record, rfl, floats, written, again, fixed⟩

end TranscriptRecord

end TokenRelay
