/-
# Events on the wire

Supplies that decoding undoes encoding. An event is read back from its frame with all its texts,
words, and optional fields, and with what others supplied, as long as the numbers in that can be
read back and nothing in it nests too deeply; if something does, the frame is no JSON to its reader.
-/

import TokenRelay.Event.Frame
import TokenRelay.Proofs.Event.Metadata

namespace TokenRelay

namespace Event

/-- The values in an event that others supplied. -/
def supplied : Event → List Json
  | .finish metadata _ => metadata.toolCalls ++ metadata.ragChunks
  | .start _ _ | .token _ _ => []

/-- Supplied values are as they can be stored: with sorted keys, and numbers that fit. -/
def Proper (event : Event) : Prop :=
  ∀ value ∈ event.supplied, value.Settled ∧ ∀ number ∈ value.numbers, number.Proper

/-- The floating-point numbers in supplied values read back from their texts. -/
def FloatsReadBack (event : Event) : Prop :=
  ∀ value ∈ event.supplied, ∀ float, .float float ∈ value.numbers →
    (Number.float float).ReadsBack

/-- No supplied value nests deeper than readers go below the frame, its data and their list. -/
def Shallow (event : Event) : Prop := ∀ value ∈ event.supplied, value.nesting ≤ 124

instance (event : Event) : Decidable event.Shallow :=
  inferInstanceAs (Decidable (∀ value ∈ event.supplied, value.nesting ≤ 124))

/-- The event with its numbers as they are read from their texts. -/
def reread : Event → Option Event
  | .start conversationId requestId => some (.start conversationId requestId)
  | .token id text => some (.token id text)
  | .finish metadata quotas => (metadata.renumber Number.reread).map (.finish · quotas)

/-- What comes of reading a frame that is no JSON unless it is an event. -/
def recovered : Option Event → Except FrameError Event
  | none => .error (.json .malformed)
  | some event => .ok event

/-- The data of an event in its JSON form. -/
def data : Event → Json
  | .start conversationId requestId =>
    .object [("conversation_id", .string conversationId), ("request_id", .string requestId)]
  | .token id text => .object [("id", .ofWord id), ("token", .string text)]
  | .finish metadata _ => metadata.toJson

/-- The quotas of an event, if it has any. -/
def quotas? : Event → Option (KeyMap UInt64)
  | .finish _ quotas => some quotas
  | .start _ _ | .token _ _ => none

theorem toJson_eq (event : Event) :
    event.toJson = .object (("event", .string event.name) :: ("data", event.data) ::
      (event.quotas?.map fun quotas => ("available_quotas", quotasToJson quotas)).toList) := by
  cases event <;> rfl

/-- Quotas are read as they were. -/
theorem read_quotas (depth : Nat) (quotas : KeyMap UInt64) :
    Reader.option (.dictionary .word) (depth + 1) ((quotasToJson quotas).treeWith Number.reread) =
      .ok (some quotas) := by
  have word (value : UInt64) :
      (Json.ofWord value).treeWith Number.reread = (Json.ofWord value).tree :=
    congrArg Tree.number (Number.readsBack_int (Number.proper_word value))
  have there : (quotasToJson quotas).treeWith Number.reread ≠ .null := nofun
  have read := @Reader.dictionary_map _ .word depth (fun value => (Json.ofWord value).tree) quotas
    fun entry _ => Reader.word_ofWord depth entry.2
  simp only [← word] at read
  rw [Reader.option_of_ne there, quotasToJson, Json.treeWith, Json.memberTreesWith_eq_map,
    List.map_map]
  exact congrArg (Except.map some) read

/-- The members of the tree of an event. -/
def parts (event : Event) : List (String × Tree) :=
  ("event", .string (some event.name)) :: ("data", event.data.treeWith Number.reread) ::
    (event.quotas?.map fun quotas =>
      ("available_quotas", (quotasToJson quotas).treeWith Number.reread)).toList

theorem treeWith_toJson (event : Event) :
    event.toJson.treeWith Number.reread = .object (Tree.members event.parts) .closed := by
  rw [toJson_eq, Json.treeWith, Json.memberTreesWith_eq_map, parts]
  cases event.quotas? <;> rfl

theorem nodup_parts (event : Event) : (event.parts.map Prod.fst).Nodup := by
  unfold parts
  cases event.quotas? <;> simp

/-- A frame is read as soon as its data are. -/
theorem read_raw (event : Event) :
    RawFrame.record.reader false 127 (event.toJson.treeWith Number.reread) =
      (Reader.value 126 (event.data.treeWith Number.reread)).map
        (⟨event.name, ·, event.quotas?⟩) := by
  rw [treeWith_toJson]
  cases read : Reader.value 126 (event.data.treeWith Number.reread) with
  | error fault =>
      simp [parts, Record.reader, RawFrame.record, Record.and, Record.required, Record.defaulted,
        Record.pure, Record.checkMembers, Record.accepts, Reader.string, read, Except.map]
  | ok data =>
      have checked : RawFrame.record.Checked :=
        (((Record.checked_pure _).and (Record.checked_required _ _)).and
          (Record.checked_required _ _)).and (Record.checked_defaulted _ _ _)
      have nothing : (Record.pure RawFrame.mk).build 126 (event.parts.lookup ·) =
        .ok RawFrame.mk := rfl
      have quotas : (Record.defaulted "available_quotas" none
          (.option (.dictionary .word))).build 126 (event.parts.lookup ·) =
            .ok event.quotas? := by
        unfold parts
        cases event.quotas? with
        | none => exact Record.build_absent rfl
        | some quotas => exact Record.build_present rfl (read_quotas 125 quotas)
      exact checked.reader_eq event.nodup_parts (Record.build_and (Record.build_and
        (Record.build_and nothing (Record.build_required rfl rfl))
        (Record.build_required rfl read)) quotas)

theorem nesting_data_le_iff (event : Event) : event.data.nesting ≤ 126 ↔ event.Shallow := by
  cases event with
  | start conversationId requestId =>
      exact iff_of_true (Nat.le_of_ble_eq_true rfl) (List.forall_mem_nil _)
  | token id text =>
      exact iff_of_true (Nat.le_of_ble_eq_true rfl) (List.forall_mem_nil _)
  | finish metadata quotas => exact metadata.nesting_toJson_le_iff

theorem renumber_data (event : Event) :
    event.data.renumber Number.reread = event.reread.map data := by
  cases event with
  | start => rfl
  | token id text =>
      simp [data, Json.renumber, Json.renumberMembers, Json.renumber_ofWord, reread]
  | finish metadata quotas =>
      rw [data, metadata.renumber_toJson, reread, Option.map_map]
      rfl

/-- The data of a start event are read from any members with its content. -/
theorem build_startRecord {content : String → Option Tree} {conversationId requestId : String}
    (conversation : content "conversation_id" = some (.string (some conversationId)))
    (request : content "request_id" = some (.string (some requestId))) :
    startRecord.build 126 content = .ok (.start conversationId requestId) := by
  have nothing : (Record.pure Event.start).build 126 content = .ok Event.start := rfl
  exact Record.build_and (Record.build_and nothing (Record.build_required conversation rfl))
    (Record.build_present request rfl)

/-- The data of a token event are read from any members with its content. -/
theorem build_tokenRecord {content : String → Option Tree} {id : UInt64} {text : String}
    (place : content "id" = some (Json.ofWord id).tree)
    (token : content "token" = some (.string (some text))) :
    tokenRecord.build 126 content = .ok (.token id text) := by
  have nothing : (Record.pure Event.token).build 126 content = .ok Event.token := rfl
  have word := Record.build_required place (Reader.word_ofWord 126 id)
  exact Record.build_and (Record.build_and nothing word) (Record.build_required token rfl)

theorem read_start (conversationId requestId : String) :
    startRecord.reader false 127 (data (.start conversationId requestId)).resettle.tree =
      .ok (.start conversationId requestId) := by
  have checked : startRecord.Checked :=
    ((Record.checked_pure _).and (Record.checked_required _ _)).and
      (Record.checked_defaulted _ _ _)
  exact Json.rendering_resettle.read checked (by simp) (build_startRecord rfl rfl)

theorem read_token (id : UInt64) (text : String) :
    tokenRecord.reader false 127 (data (.token id text)).resettle.tree = .ok (.token id text) := by
  have checked : tokenRecord.Checked :=
    ((Record.checked_pure _).and (Record.checked_required _ _)).and (Record.checked_required _ _)
  exact Json.rendering_resettle.read checked (by simp) (build_tokenRecord rfl rfl)

theorem ofRawFrame_start {source : Json} {event : Event}
    (read : startRecord.reader false 127 source.tree = .ok event)
    (quotas : Option (KeyMap UInt64)) : ofRawFrame ⟨"start", source, quotas⟩ = .ok event := by
  simp only [ofRawFrame, Reader.ofJson_of_read read]
  rfl

theorem ofRawFrame_token {source : Json} {event : Event}
    (read : tokenRecord.reader false 127 source.tree = .ok event)
    (quotas : Option (KeyMap UInt64)) : ofRawFrame ⟨"token", source, quotas⟩ = .ok event := by
  simp only [ofRawFrame, Reader.ofJson_of_read read]
  rfl

theorem ofRawFrame_finish {source : Json} {metadata : TurnMetadata}
    (read : TurnMetadata.reader 127 source.tree = .ok metadata) (quotas : KeyMap UInt64) :
    ofRawFrame ⟨"end", source, some quotas⟩ = .ok (.finish metadata quotas) := by
  simp only [ofRawFrame, Reader.ofJson_of_read read, Option.getD_some]

/-- The event is found in its data. -/
theorem ofRawFrame_eq {event : Event} (settled : ∀ value ∈ event.supplied, value.Settled)
    (shallow : event.Shallow) :
    ofRawFrame ⟨event.name, event.data.resettle, event.quotas?⟩ = .ok event := by
  cases event with
  | start conversationId requestId => exact ofRawFrame_start (read_start _ _) none
  | token id text => exact ofRawFrame_token (read_token id text) none
  | finish metadata quotas =>
      have read := TurnMetadata.read Json.rendering_resettle metadata settled fun value inside =>
        Nat.le_succ_of_le (shallow value inside)
      exact ofRawFrame_finish read quotas

/-- Reading its numbers again changes neither what an event is nor the shape of what others
supplied. -/
theorem shape_reread {event after : Event} (changed : event.reread = some after) :
    after.name = event.name ∧ after.quotas? = event.quotas? ∧
      (event.Shallow → after.Shallow) ∧
      ((∀ value ∈ event.supplied, value.Settled) → ∀ value ∈ after.supplied, value.Settled) := by
  cases event with
  | start | token =>
      cases changed
      exact ⟨rfl, rfl, id, id⟩
  | finish metadata quotas =>
      obtain ⟨_, renumbered, rfl⟩ := Option.map_eq_some_iff.1 changed
      obtain ⟨toolCalls, calls, remaining⟩ := Option.bind_eq_some_iff.1 renumbered
      obtain ⟨ragChunks, chunks, rfl⟩ := Option.map_eq_some_iff.1 remaining
      obtain ⟨nesting, settled⟩ := Json.shape_renumberItems _ calls
      obtain ⟨nesting', settled'⟩ := Json.shape_renumberItems _ chunks
      refine ⟨rfl, rfl, ?_, ?_⟩
      · simp only [Shallow, supplied, List.forall_mem_append, ← Json.itemNesting_le_iff, nesting,
          nesting']
        exact id
      · simp only [supplied, List.forall_mem_append, ← Json.settledItems_iff]
        exact And.imp settled settled'

/-- An event stays as it is exactly if all numbers in what others supplied do. -/
theorem reread_eq_self_iff (event : Event) :
    event.reread = some event ↔
      ∀ value ∈ event.supplied, ∀ number ∈ value.numbers, number.ReadsBack := by
  cases event with
  | start | token => simp [reread, supplied]
  | finish metadata quotas =>
      have items (values : List Json) :
          Json.renumberItems Number.reread values = some values ↔
            ∀ value ∈ values, ∀ number ∈ value.numbers, number.ReadsBack := by
        rw [Json.renumberItems_eq_self_iff]
        simp only [Json.mem_itemNumbers, Number.ReadsBack]
        grind
      rw [supplied, List.forall_mem_append, ← items, ← items]
      obtain ⟨documents, toolCalls, ragChunks, truncated, inputTokens, outputTokens⟩ := metadata
      simp [reread, TurnMetadata.renumber, Option.bind_eq_some_iff]

theorem Proper.settled {event : Event} (proper : event.Proper) :
    ∀ value ∈ event.supplied, value.Settled :=
  fun value inside => (proper value inside).1

/-- Exact numbers read back anyway. -/
theorem Proper.reread_eq_self_iff {event : Event} (proper : event.Proper) :
    event.reread = some event ↔ event.FloatsReadBack := by
  rw [event.reread_eq_self_iff]
  constructor
  · exact fun all value inside float within => all value inside _ within
  · exact fun floats value inside =>
      Json.Proper.readsBack (proper value inside) (floats value inside)

/-- The frame of an event holds words and the numbers in what others supplied. -/
theorem Proper.numbers {event : Event} (proper : event.Proper) :
    ∀ number ∈ event.toJson.numbers, number.Proper := by
  cases event with
  | start => exact List.forall_mem_nil _
  | token id text => simpa [toJson, Json.numbers, Json.memberNumbers] using Json.proper_ofWord id
  | finish metadata quotas =>
      have supplied := metadata.forall_numbers Number.proper_word fun value inside =>
        (proper value inside).2
      have counted : ∀ number ∈ (quotasToJson quotas).numbers, number.Proper := by
        intro number inside
        obtain ⟨member, there, within⟩ := (Json.mem_memberNumbers _).1 inside
        obtain ⟨entry, -, rfl⟩ := List.mem_map.1 there
        exact Json.proper_ofWord entry.2 number within
      simpa [toJson, Json.numbers, Json.memberNumbers]
        using fun number inside => Or.elim inside (supplied number) (counted number)

theorem dropLabel?_append (start rest : List Char) :
    dropLabel? start (start ++ rest) = some rest := by
  have starts : start.isPrefixOf (start ++ rest) = true :=
    List.isPrefixOf_iff_prefix.2 (List.prefix_append start rest)
  rw [dropLabel?, if_pos starts, List.drop_left]

theorem dropTerminator?_append (ending text : List Char) :
    dropTerminator? ending (text ++ ending) = some text := by
  rw [dropTerminator?, List.reverse_append, dropLabel?_append, Option.map_some,
    List.reverse_reverse]

theorem toList_encode (event : Event) :
    event.encode.toList = label ++ (event.toJson.compact.toList ++ terminator) := by
  simp [encode]

/-- Between label and terminator a frame is read as JSON. -/
theorem decode_encode_eq (event : Event) :
    decode event.encode =
      match (RawFrame.record.reader false).run (.ofText event.toJson.compact) with
      | .error fault => .error (.json fault)
      | .ok raw => ofRawFrame raw := by
  rw [decode, decodeChars, toList_encode]
  simp only [dropLabel?_append, dropTerminator?_append]
  rfl

/-- What is read from a frame: the event with its numbers as they are read, or that the frame is no
JSON. -/
theorem Proper.decode_frame {event : Event} (proper : event.Proper) :
    decode event.encode = recovered (if event.Shallow then event.reread else none) := by
  have read : (RawFrame.record.reader false).run (.ofText event.toJson.compact) =
      (Reader.found (if event.Shallow then event.reread.map (·.data.resettle) else none)).map
        (⟨event.name, ·, event.quotas?⟩) := by
    rw [Document.ofText_compact _ proper.numbers, Reader.run_of_complete, Reader.depthLimit,
      read_raw, Reader.value_treeWith, event.renumber_data, Option.map_map]
    simp only [nesting_data_le_iff]
    rfl
  rw [decode_encode_eq, read]
  by_cases shallow : event.Shallow
  · cases changed : event.reread with
    | none => simp [shallow, Except.map, recovered]
    | some after =>
        obtain ⟨name, quotas, shallow', settled⟩ := shape_reread changed
        have found := ofRawFrame_eq (settled proper.settled) (shallow' shallow)
        rw [name, quotas] at found
        simp [shallow, Except.map, recovered, found]
  · simp [shallow, Except.map, recovered]

/-- Decoding undoes encoding, up to the nesting that readers go. -/
theorem decode_encode {event : Event} (proper : event.Proper) (floats : event.FloatsReadBack) :
    decode event.encode = if event.Shallow then .ok event else .error (.json .malformed) := by
  rw [proper.decode_frame, proper.reread_eq_self_iff.2 floats]
  split <;> rfl

/-- The end of a turn in which a tool was called. -/
def calculated : Event :=
  .finish
    { referencedDocuments := [⟨"https://sums", "A \"sum\""⟩]
      toolCalls := [.object [("args", .array [.number (.int (-9223372036854775808)),
        .number (.float 1.5)]), ("name", .string "add")]]
      truncated := some false
      inputTokens := some 18446744073709551615 }
    (.ofList [("tokens", 100)])

theorem proper_calculated : calculated.Proper := by
  intro value inside
  cases List.mem_singleton.1 inside
  have least : (Number.int (-9223372036854775808)).Proper := ⟨by decide, by decide⟩
  have finite : (Number.float 1.5).Proper := ⟨rfl, rfl⟩
  have sorted : ["args", "name"].Pairwise (· < ·) := List.pairwise_pair.2 (by decide)
  refine ⟨⟨sorted, ⟨trivial, trivial, trivial⟩, trivial, trivial⟩, ?_⟩
  exact List.forall_mem_cons.2 ⟨least, List.forall_mem_singleton.2 finite⟩

theorem floatsReadBack_calculated : calculated.FloatsReadBack :=
  Json.floatsReadBack_of_plain (by decide +kernel)

theorem decode_encode_calculated :
    calculated.Proper ∧ calculated.FloatsReadBack ∧
      decode calculated.encode = .ok calculated := by
  have decoded := decode_encode proper_calculated floatsReadBack_calculated
  have shallow : calculated.Shallow := by decide
  rw [if_pos shallow] at decoded
  exact ⟨proper_calculated, floatsReadBack_calculated, decoded⟩

end Event

end TokenRelay
