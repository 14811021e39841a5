/-
# Metadata on the wire

Supplies what is read from the JSON form of metadata. What was left out of it has its default when
it is read, and what was written is found under its own key, also if the keys have been sorted in
between. So metadata is read as it was written, up to the numbers in what others supplied. And from
whatever metadata was read, the values that others supplied stand two levels below it.
-/

import TokenRelay.Event.Basic
import TokenRelay.Proofs.Json.Contents

namespace TokenRelay

/-- A word is an exact number. -/
theorem Number.proper_word (word : UInt64) : (Number.int word.toNat).Proper := by
  have bound := word.toNat_lt_size
  exact ⟨by omega, by omega⟩

theorem Json.proper_ofWord (word : UInt64) :
    ∀ number ∈ (Json.ofWord word).numbers, number.Proper := by
  intro number inside
  cases List.mem_singleton.1 inside
  exact Number.proper_word word

/-- A word reads back from its JSON form. -/
theorem Json.renumber_ofWord (word : UInt64) :
    (Json.ofWord word).renumber Number.reread = some (.ofWord word) := by
  have back : (Number.int word.toNat).reread = some (.int word.toNat) :=
    Number.readsBack_int (Number.proper_word word)
  rw [Json.ofWord, Json.ofNat, Json.renumber, back, Option.map_some]

theorem Reader.word_ofWord (depth : Nat) (word : UInt64) :
    Reader.word depth (Json.ofWord word).tree = .ok word := by
  have bound : (0 : Int) ≤ word.toNat ∧ (word.toNat : Int) < UInt64.size :=
    ⟨by omega, by exact_mod_cast word.toNat_lt⟩
  simp only [Json.ofWord, Json.ofNat, Json.tree, Reader.word, if_pos bound, Int.toNat_natCast,
    UInt64.ofNat_toNat]

section Rendered

variable {render : Json → Tree}

theorem Json.Rendering.read_ofWord (rendering : Json.Rendering render) (depth : Nat)
    (word : UInt64) : Reader.option .word depth (render (.ofWord word)) = .ok (some word) := by
  have there : (Json.ofWord word).tree ≠ .null := nofun
  rw [rendering.settled (.ofWord word) trivial, Reader.option_of_ne there, Reader.word_ofWord]
  rfl

theorem Json.Rendering.read_bool (rendering : Json.Rendering render) (depth : Nat) (value : Bool) :
    Reader.option .bool depth (render (.bool value)) = .ok (some value) := by
  rw [rendering.settled (.bool value) trivial]
  rfl

/-- A document is read as it was, whatever order its keys have. -/
theorem ReferencedDocument.read (rendering : Json.Rendering render) (depth : Nat)
    (document : ReferencedDocument) :
    ReferencedDocument.record.reader false (depth + 1) (render document.toJson) =
      .ok document := by
  have checked : ReferencedDocument.record.Checked :=
    ((Record.checked_pure _).and (Record.checked_required _ _)).and (Record.checked_required _ _)
  refine rendering.read checked (by simp) ?_
  let members : List (String × Json) :=
    [("doc_url", .string document.url), ("doc_title", .string document.title)]
  have nothing : (Record.pure ReferencedDocument.mk).build depth (Json.content render members) =
      .ok ReferencedDocument.mk := rfl
  have text (text : String) : Reader.string depth (render (.string text)) = .ok text := by
    rw [rendering.settled (.string text) trivial]
    rfl
  exact Record.build_and (Record.build_and nothing (Record.build_required rfl (text _)))
    (Record.build_required rfl (text _))

end Rendered

namespace TurnMetadata

/-- The members of the JSON form of metadata. -/
def members (metadata : TurnMetadata) : List (String × Json) :=
  ("referenced_documents", .array (metadata.referencedDocuments.map (·.toJson))) ::
    (nonempty "tool_calls" metadata.toolCalls ++ nonempty "rag_chunks" metadata.ragChunks ++
      given "truncated" .bool metadata.truncated ++
      given "input_tokens" .ofWord metadata.inputTokens ++
      given "output_tokens" .ofWord metadata.outputTokens)

theorem toJson_eq (metadata : TurnMetadata) : metadata.toJson = .object metadata.members := rfl

theorem lookup_nonempty (name key : String) (items : List Json) :
    (nonempty name items).lookup key =
      if key = name ∧ items ≠ [] then some (.array items) else none := by
  unfold nonempty
  cases items <;> simp [lookup_entry]

theorem lookup_given {α : Type} (name key : String) (write : α → Json) (value : Option α) :
    (given name write value).lookup key = if key = name then value.map write else none := by
  cases value <;> simp [given, lookup_entry]

/-- What stands under a key. -/
theorem lookup_members (metadata : TurnMetadata) (key : String) :
    metadata.members.lookup key =
      if key = "referenced_documents" then
        some (.array (metadata.referencedDocuments.map (·.toJson)))
      else
        ((((if key = "tool_calls" ∧ metadata.toolCalls ≠ [] then
              some (Json.array metadata.toolCalls) else none).or
          (if key = "rag_chunks" ∧ metadata.ragChunks ≠ [] then
              some (.array metadata.ragChunks) else none)).or
          (if key = "truncated" then metadata.truncated.map .bool else none)).or
          (if key = "input_tokens" then metadata.inputTokens.map .ofWord else none)).or
          (if key = "output_tokens" then metadata.outputTokens.map .ofWord else none) := by
  simp only [members, lookup_entry, List.lookup_append, lookup_nonempty, lookup_given]

/-- No key comes twice. -/
theorem nodup_members (metadata : TurnMetadata) : (metadata.members.map Prod.fst).Nodup := by
  have all : ["referenced_documents", "tool_calls", "rag_chunks", "truncated", "input_tokens",
      "output_tokens"].Nodup := by decide
  have listed (name : String) (items : List Json) :
      ((nonempty name items).map Prod.fst).Sublist [name] := by
    unfold nonempty
    split <;> simp
  have single {α : Type} (name : String) (write : α → Json) (value : Option α) :
      ((given name write value).map Prod.fst).Sublist [name] := by
    cases value <;> simp [given]
  refine all.sublist ?_
  simp only [members, List.map_cons, List.map_append]
  refine List.Sublist.cons_cons _ ?_
  exact ((((listed _ _).append (listed _ _)).append (single _ _ _)).append
    (single _ _ _)).append (single _ _ _)

section Rendered

variable {render : Json → Tree} (rendering : Json.Rendering render)

include rendering

/-- A list is read from what was written for it, or for the lack of it. -/
theorem build_nonempty {members : List (String × Json)} {name : String} {items : List Json}
    (written : members.lookup name = if items ≠ [] then some (.array items) else none)
    (settled : ∀ value ∈ items, value.Settled) {depth : Nat}
    (shallow : ∀ value ∈ items, value.nesting ≤ depth) :
    (Record.defaulted name [] (.list Reader.value)).build (depth + 1)
      (Json.content render members) = .ok items := by
  cases items with
  | nil => exact Record.build_absent (by rw [Json.content, written]; rfl)
  | cons first rest =>
      have present : Json.content render members name = some (render (.array (first :: rest))) := by
        rw [Json.content, written]
        rfl
      have reads : ∀ value ∈ first :: rest,
          Reader.value depth (render (id value)) = .ok value := by
        intro value here
        rw [id, rendering.settled value (settled value here)]
        exact Reader.value_tree (settled value here) (shallow value here)
      have read := rendering.read_list reads
      rw [List.map_id] at read
      exact Record.build_present present read

omit rendering in
/-- A value is read from what was written for it, or for the lack of it. -/
theorem build_given {α : Type} {members : List (String × Json)} {name : String} {depth : Nat}
    {reader : Reader α} {write : α → Json} {value : Option α}
    (written : members.lookup name = value.map write)
    (reads : ∀ value, Reader.option reader depth (render (write value)) = .ok (some value)) :
    (Record.defaulted name none (.option reader)).build depth (Json.content render members) =
      .ok value := by
  cases value with
  | none => exact Record.build_absent (by rw [Json.content, written]; rfl)
  | some value =>
      exact Record.build_present (by rw [Json.content, written]; rfl) (reads value)

/-- Every field is read from what was written for it. -/
theorem build_members (metadata : TurnMetadata) {depth : Nat}
    (settled : ∀ value ∈ metadata.toolCalls ++ metadata.ragChunks, value.Settled)
    (shallow : ∀ value ∈ metadata.toolCalls ++ metadata.ragChunks, value.nesting ≤ depth + 1) :
    record.build (depth + 2) (Json.content render metadata.members) = .ok metadata := by
  rw [List.forall_mem_append] at settled shallow
  have nothing : (Record.pure TurnMetadata.mk).build (depth + 2)
      (Json.content render metadata.members) = .ok TurnMetadata.mk := rfl
  have documents : (Record.defaulted "referenced_documents" []
      (.list (ReferencedDocument.record.reader false))).build (depth + 2)
        (Json.content render metadata.members) = .ok metadata.referencedDocuments := by
    have content : Json.content render metadata.members "referenced_documents" =
        some (render (.array (metadata.referencedDocuments.map (·.toJson)))) := by
      simp [Json.content, lookup_members]
    exact Record.build_present content
      (rendering.read_list fun document _ => ReferencedDocument.read rendering depth document)
  have calls : metadata.members.lookup "tool_calls" =
      if metadata.toolCalls ≠ [] then some (.array metadata.toolCalls) else none := by
    simp [lookup_members]
  have chunks : metadata.members.lookup "rag_chunks" =
      if metadata.ragChunks ≠ [] then some (.array metadata.ragChunks) else none := by
    simp [lookup_members]
  have truncated : metadata.members.lookup "truncated" = metadata.truncated.map .bool := by
    simp [lookup_members]
  have input : metadata.members.lookup "input_tokens" = metadata.inputTokens.map .ofWord := by
    simp [lookup_members]
  have output : metadata.members.lookup "output_tokens" = metadata.outputTokens.map .ofWord := by
    simp [lookup_members]
  exact Record.build_and (Record.build_and (Record.build_and (Record.build_and
    (Record.build_and (Record.build_and nothing documents)
      (build_nonempty rendering calls settled.1 shallow.1))
      (build_nonempty rendering chunks settled.2 shallow.2))
      (build_given truncated (rendering.read_bool _)))
      (build_given input (rendering.read_ofWord _)))
      (build_given output (rendering.read_ofWord _))

/-- Metadata is read from its JSON form, two levels above what others supplied. -/
theorem read (metadata : TurnMetadata) {depth : Nat}
    (settled : ∀ value ∈ metadata.toolCalls ++ metadata.ragChunks, value.Settled)
    (shallow : ∀ value ∈ metadata.toolCalls ++ metadata.ragChunks, value.nesting ≤ depth + 1) :
    reader (depth + 3) (render metadata.toJson) = .ok metadata := by
  have checked : record.Checked :=
    ((((((Record.checked_pure _).and (Record.checked_defaulted _ _ _)).and
      (Record.checked_defaulted _ _ _)).and (Record.checked_defaulted _ _ _)).and
      (Record.checked_defaulted _ _ _)).and (Record.checked_defaulted _ _ _)).and
      (Record.checked_defaulted _ _ _)
  exact rendering.read checked metadata.nodup_members
    (build_members rendering metadata settled shallow)

end Rendered

/-- Metadata with something else in place of the numbers in what others supplied. -/
def renumber (change : Number → Option Number) (metadata : TurnMetadata) : Option TurnMetadata :=
  (Json.renumberItems change metadata.toolCalls).bind fun toolCalls =>
    (Json.renumberItems change metadata.ragChunks).map fun ragChunks =>
      { metadata with toolCalls, ragChunks }

theorem renumber_nonempty (change : Number → Option Number) (name : String) (items : List Json) :
    Json.renumberMembers change (nonempty name items) =
      (Json.renumberItems change items).map (nonempty name) := by
  cases items with
  | nil => rfl
  | cons first rest =>
      cases changed : first.renumber change with
      | none => simp [nonempty, Json.renumberMembers, Json.renumber, Json.renumberItems, changed]
      | some first =>
          cases others : Json.renumberItems change rest <;>
            simp [nonempty, Json.renumberMembers, Json.renumber, Json.renumberItems, changed,
              others]

theorem renumber_given {α : Type} {change : Number → Option Number} (name : String)
    {write : α → Json} (same : ∀ value, (write value).renumber change = some (write value))
    (value : Option α) :
    Json.renumberMembers change (given name write value) = some (given name write value) := by
  cases value <;> simp [given, Json.renumberMembers, same]

/-- Documents hold no numbers. -/
theorem numbers_documents (documents : List ReferencedDocument) :
    Json.itemNumbers (documents.map (·.toJson)) = [] := by
  induction documents with
  | nil => rfl
  | cons document rest ih =>
      rw [List.map_cons, Json.itemNumbers, ih]
      rfl

/-- Nothing else in metadata changes. -/
theorem renumber_toJson (metadata : TurnMetadata) :
    metadata.toJson.renumber Number.reread = (metadata.renumber Number.reread).map toJson := by
  have documents : Json.renumberItems Number.reread
      (metadata.referencedDocuments.map (·.toJson)) =
        some (metadata.referencedDocuments.map (·.toJson)) := by
    rw [Json.renumberItems_eq_self_iff, numbers_documents]
    exact List.forall_mem_nil _
  have truncated := renumber_given "truncated"
    (fun _ => rfl : ∀ value, (Json.bool value).renumber Number.reread = some (.bool value))
    metadata.truncated
  have words (name : String) := renumber_given name Json.renumber_ofWord
  simp only [toJson_eq, members, Json.renumber, Json.renumberMembers, documents,
    Json.renumberMembers_append, renumber_nonempty, truncated, words, renumber]
  cases Json.renumberItems Number.reread metadata.toolCalls with
  | none => rfl
  | some toolCalls => cases Json.renumberItems Number.reread metadata.ragChunks <;> rfl

/-- What every member of the JSON form has, everything that others supplied has in its array. -/
theorem forall_members_iff (metadata : TurnMetadata) (holds : Json → Prop)
    (documents : holds (.array (metadata.referencedDocuments.map (·.toJson))))
    (truth : ∀ value, holds (.bool value)) (word : ∀ value, holds (.ofWord value)) :
    (∀ member ∈ metadata.members, holds member.2) ↔
      (metadata.toolCalls ≠ [] → holds (.array metadata.toolCalls)) ∧
      (metadata.ragChunks ≠ [] → holds (.array metadata.ragChunks)) := by
  have listed (name : String) (items : List Json) :
      (∀ member ∈ nonempty name items, holds member.2) ↔ (items ≠ [] → holds (.array items)) := by
    cases items <;> simp [nonempty]
  have single {α : Type} (name : String) {write : α → Json} (all : ∀ value, holds (write value))
      (value : Option α) : ∀ member ∈ given name write value, holds member.2 := by
    cases value <;> simp [given, all]
  simp only [members, List.forall_mem_cons, List.forall_mem_append, listed]
  constructor
  · rintro ⟨-, ⟨⟨⟨calls, chunks⟩, -⟩, -⟩, -⟩
    exact ⟨calls, chunks⟩
  · rintro ⟨calls, chunks⟩
    exact ⟨documents, ⟨⟨⟨calls, chunks⟩, single _ truth _⟩, single _ word _⟩, single _ word _⟩

/-- Two levels of the JSON form lie above what others supplied. -/
theorem nesting_toJson_le_iff (metadata : TurnMetadata) :
    metadata.toJson.nesting ≤ 126 ↔
      ∀ value ∈ metadata.toolCalls ++ metadata.ragChunks, value.nesting ≤ 124 := by
  have documents :
      (Json.array (metadata.referencedDocuments.map (·.toJson))).nesting ≤ 125 := by
    rw [Json.nesting, Nat.add_le_add_iff_right, Json.itemNesting_le_iff]
    simp [ReferencedDocument.toJson, Json.nesting, Json.memberNesting]
  have listed (items : List Json) : (items ≠ [] → (Json.array items).nesting ≤ 125) ↔
      ∀ value ∈ items, value.nesting ≤ 124 := by
    rw [Json.nesting, Nat.add_le_add_iff_right, Json.itemNesting_le_iff]
    cases items <;> simp
  rw [toJson_eq, Json.nesting, Nat.add_le_add_iff_right, Json.memberNesting_le_iff,
    metadata.forall_members_iff (·.nesting ≤ 125) documents (fun _ => Nat.zero_le _)
      fun _ => Nat.zero_le _]
  rw [listed, listed, List.forall_mem_append]

/-- The numbers in the JSON form are words and those in what others supplied. -/
theorem forall_numbers (metadata : TurnMetadata) {holds : Number → Prop}
    (word : ∀ value : UInt64, holds (.int value.toNat))
    (supplied : ∀ value ∈ metadata.toolCalls ++ metadata.ragChunks,
      ∀ number ∈ value.numbers, holds number) :
    ∀ number ∈ metadata.toJson.numbers, holds number := by
  have documents : ∀ number ∈
      (Json.array (metadata.referencedDocuments.map (·.toJson))).numbers, holds number := by
    rw [Json.numbers, numbers_documents]
    exact List.forall_mem_nil _
  have listed {items : List Json} (all : ∀ value ∈ items, ∀ number ∈ value.numbers, holds number) :
      ∀ number ∈ (Json.array items).numbers, holds number := by
    intro number inside
    obtain ⟨value, there, within⟩ := (Json.mem_itemNumbers items).1 inside
    exact all value there number within
  have every : ∀ member ∈ metadata.members, ∀ number ∈ member.2.numbers, holds number := by
    rw [metadata.forall_members_iff (fun value => ∀ number ∈ value.numbers, holds number)
      documents (fun _ => nofun)]
    · rw [List.forall_mem_append] at supplied
      exact ⟨fun _ => listed supplied.1, fun _ => listed supplied.2⟩
    · exact fun value => List.forall_mem_singleton.2 (word value)
  intro number inside
  obtain ⟨member, there, within⟩ := (Json.mem_memberNumbers metadata.members).1 inside
  exact every member there number within

/-! ### What metadata is read from -/

/-- What others supplied in metadata that is read is what lists right below the metadata hold. -/
theorem forall_supplied_of_read {depth : Nat} {tree : Tree} {metadata : TurnMetadata}
    (read : reader (depth + 1) tree = .ok metadata) {holds : Json → Prop}
    (listed : ∀ part ∈ tree.parts, ∀ items, Reader.list Reader.value depth part = .ok items →
      ∀ item ∈ items, holds item) :
    ∀ value ∈ metadata.toolCalls ++ metadata.ragChunks, holds value := by
  obtain ⟨_, find, ⟨⟩, built, below⟩ := Record.exists_build read
  have supplied {name : String} {items : List Json}
      (built : (Record.defaulted name [] (.list Reader.value)).build depth find = .ok items) :
      ∀ item ∈ items, holds item := by
    rcases Record.eq_or_exists_of_build_defaulted built with rfl | ⟨part, content, found⟩
    · exact List.forall_mem_nil _
    · exact listed part (below name part content) items found
  obtain ⟨_, _, fifth, -, rfl⟩ := Record.exists_of_build_and built
  obtain ⟨_, _, fourth, -, rfl⟩ := Record.exists_of_build_and fifth
  obtain ⟨_, _, third, -, rfl⟩ := Record.exists_of_build_and fourth
  obtain ⟨_, ragChunks, second, chunks, rfl⟩ := Record.exists_of_build_and third
  obtain ⟨_, toolCalls, first, calls, rfl⟩ := Record.exists_of_build_and second
  obtain ⟨_, _, made, -, rfl⟩ := Record.exists_of_build_and first
  cases made
  exact List.forall_mem_append.2 ⟨supplied calls, supplied chunks⟩

/-- What others supplied nests two levels less deep than the reader of the metadata goes. -/
theorem isMade_of_read {holds : Number → Prop} {depth : Nat} {tree : Tree}
    (all : ∀ number ∈ tree.numbers, holds number) {metadata : TurnMetadata}
    (read : reader (depth + 2) tree = .ok metadata) :
    ∀ value ∈ metadata.toolCalls ++ metadata.ragChunks, value.IsMade holds depth :=
  forall_supplied_of_read read fun _ inside _ found =>
    Reader.isMade_list (Tree.numbers_of_part all inside) found

end TurnMetadata

end TokenRelay
