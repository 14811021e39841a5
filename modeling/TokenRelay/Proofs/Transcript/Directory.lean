/-
# Where transcripts lie

Supplies that transcripts stay below the root of their store, whatever users and conversations are
called. The directory of a conversation is the root with two names behind it, neither of which can
mean anything else in a path: the pseudonym of the user, which is made of hexadecimal digits, and
what is left of the identifier of the conversation, which is made of letters, digits, hyphens and
underscores. To store a record either writes one file there, as far as there is room for it, or
changes no file at all.
-/

import TokenRelay.Proofs.Digest
import TokenRelay.Proofs.Files.Tree
import TokenRelay.Proofs.Text.Uuid
import TokenRelay.Transcript.Store

namespace TokenRelay

namespace TranscriptStore

/-- An ASCII letter, a digit, a hyphen or an underscore. -/
def IsPlain (character : Char) : Prop :=
  ('A' ≤ character ∧ character ≤ 'Z') ∨ ('a' ≤ character ∧ character ≤ 'z') ∨
    ('0' ≤ character ∧ character ≤ '9') ∨ character = '-' ∨ character = '_'

theorem isSafe_iff (character : Char) : isSafe character = true ↔ IsPlain character := by
  have upper : character.isUpper = decide ('A' ≤ character ∧ character ≤ 'Z') := rfl
  have lower : character.isLower = (decide ('a' ≤ character) && decide (character ≤ 'z')) := rfl
  have digit : character.isDigit = (decide ('0' ≤ character) && decide (character ≤ '9')) := rfl
  have either : character.isAlphanum =
    (character.isUpper || character.isLower || character.isDigit) := rfl
  simp only [isSafe, IsPlain, either, upper, lower, digit, Bool.or_eq_true, Bool.and_eq_true,
    decide_eq_true_eq, beq_iff_eq, or_assoc]

/-- Plain characters mean nothing in a path. -/
theorem IsPlain.ne {character : Char} (plain : IsPlain character) :
    character ≠ '/' ∧ character ≠ '.' := by
  constructor <;> rintro rfl <;> revert plain <;> unfold IsPlain <;> decide

theorem isPlain_of_isLower {character : Char} (digit : Text.Hex.IsLower character) :
    IsPlain character := by
  rcases digit with ⟨low, high⟩ | ⟨low, high⟩
  · exact .inr (.inr (.inl ⟨low, high⟩))
  · exact .inr (.inl ⟨low, Char.le_trans high (by decide)⟩)

/-- A pseudonym is made of 64 hexadecimal digits. -/
theorem length_pseudonym (store : TranscriptStore) (userId : String) :
    (store.pseudonym userId).length = 64 := by
  rw [pseudonym, String.length_ofList, Text.Hex.length_encode, Digest.length_sha256]

theorem isLower_of_mem_pseudonym {store : TranscriptStore} {userId : String} {character : Char}
    (inside : character ∈ (store.pseudonym userId).toList) : Text.Hex.IsLower character := by
  rw [pseudonym, String.toList_ofList] at inside
  exact Text.Hex.isLower_of_mem_encode inside

theorem isName_pseudonym (store : TranscriptStore) (userId : String) :
    Path.IsName (store.pseudonym userId) := by
  refine .of_forall (fun empty => ?_) fun character inside =>
    (isPlain_of_isLower (isLower_of_mem_pseudonym inside)).ne
  have length := store.length_pseudonym userId
  rw [empty] at length
  cases length

theorem conversationName_ne_empty (conversationId : String) :
    conversationName conversationId ≠ "" := by
  unfold conversationName
  dsimp only
  split
  · decide
  · next filled =>
    rw [Ne, ← String.toList_inj, String.toList_ofList]
    simpa using filled

theorem isPlain_of_mem_conversationName {conversationId : String} {character : Char}
    (inside : character ∈ (conversationName conversationId).toList) : IsPlain character := by
  unfold conversationName at inside
  dsimp only at inside
  split at inside
  · have all : ∀ character ∈ "unknown".toList, isSafe character = true :=
      List.all_eq_true.1 rfl
    exact (isSafe_iff character).1 (all character inside)
  · rw [String.toList_ofList] at inside
    exact (isSafe_iff character).1 (List.mem_filter.1 inside).2

theorem isName_conversationName (conversationId : String) :
    Path.IsName (conversationName conversationId) :=
  .of_forall (conversationName_ne_empty conversationId) fun _ inside =>
    (isPlain_of_mem_conversationName inside).ne

/-- The name of the file of a record. -/
def fileName (name : Uuid) : String := name.text ++ ".json"

theorem isName_fileName (name : Uuid) : Path.IsName (fileName name) := by
  have long : 5 ≤ (fileName name).length := by
    rw [fileName, String.length_append]
    exact Nat.le_add_left 5 _
  refine ⟨fun inside => ?_, ?_, ?_, ?_⟩
  · rw [fileName, String.toList_append, List.mem_append] at inside
    rcases inside with inside | inside
    · rcases Uuid.mem_text inside with dash | ⟨digit, small, same⟩
      · cases dash
      · exact (isPlain_of_isLower (Text.Hex.isLower_digit digit small)).ne.1 same.symm
    · revert inside
      decide
  all_goals
    intro same
    rw [same] at long
    revert long
    decide

/-- What is written into the file of a record. -/
def content (store : TranscriptStore) (record : TranscriptRecord) : List UInt8 :=
  Text.Utf8.encode (store.stored record).pretty.toList

/-- What it comes to when a record is stored: it is refused, and all files are as they were, or it
is written to a file in the directory of its conversation, and all other files are as they were. If
there is not enough room for it, only the beginning of the file is written, and that is an error. -/
inductive Stored (store : TranscriptStore) (tree : FileTree) (name : Uuid)
    (record : TranscriptRecord) (after : FileTree) : Option StreamError → Prop
  | refused (error : StreamError) (kept : ∀ place, after.content? place = tree.content? place) :
      Stored store tree name record after (some error)
  | written (directory : List String)
      (within : after.directoryAt? (store.directory record.userId record.conversationId) =
        some directory)
      (changed : ∀ place, after.content? place =
        if place = directory ++ [fileName name] then some (store.content record)
        else tree.content? place) :
      Stored store tree name record after none
  | cut (directory : List String)
      (within : after.directoryAt? (store.directory record.userId record.conversationId) =
        some directory)
      (beginning : List UInt8) (part : beginning <+: store.content record)
      (shorter : beginning.length < (store.content record).length)
      (lacks : ¬ tree.HasRoomFor (store.content record).length)
      (changed : ∀ place, after.content? place =
        if place = directory ++ [fileName name] then some beginning else tree.content? place) :
      Stored store tree name record after (some (.io FileError.full.message))

section Store

variable {store : TranscriptStore} {tree after : FileTree} {name : Uuid}
  {record : TranscriptRecord} {outcome : Option StreamError}

theorem directory_ne_empty (store : TranscriptStore) (userId conversationId : String) :
    store.directory userId conversationId ≠ "" :=
  (isName_conversationName conversationId).join_ne_empty _

/-- What it comes to when the directory of the conversation has been made and the file is
written. -/
theorem stored_of_writes {made : FileTree} {error? : Option FileError}
    (grown : tree.MakesDirectories made) (kept : made.Extends after)
    (writes : made.Writes (store.directory record.userId record.conversationId) (fileName name)
      (store.content record) after error?) :
    Stored store tree name record after (error?.map (.io ·.message)) := by
  have lies {directory : List String}
      (base : made.baseAt? (store.directory record.userId record.conversationId) =
        some directory) :
      after.directoryAt? (store.directory record.userId record.conversationId) =
        some directory := by
    rw [FileTree.baseAt?, if_neg (directory_ne_empty store _ _)] at base
    exact kept.directoryAt? base
  cases writes with
  | refused error same => exact .refused _ fun place => same ▸ grown.content?_eq place
  | whole directory base changed =>
      refine .written directory (lies base) fun place => ?_
      rw [changed, grown.content?_eq]
  | cut directory base beginning part shorter lacks changed =>
      refine .cut directory (lies base) beginning part shorter (fun room => ?_) fun place => ?_
      · refine lacks fun quota bounded => ?_
        rw [grown.size_eq]
        exact room quota (grown.quota_eq.symm.trans bounded)
      · rw [changed, grown.content?_eq]

/-- When the directory of the conversation has been made, the content is written behind it. -/
theorem store_of_makeDirectories {made : FileTree}
    (done : tree.makeDirectories (store.directory record.userId record.conversationId) =
      (made, none)) :
    store.store tree name record =
      let written := made.write
        (Path.join (store.directory record.userId record.conversationId) (fileName name))
        (store.content record)
      (written.1, written.2.map (.io ·.message)) := by
  unfold TranscriptStore.store
  dsimp only
  rw [done]
  dsimp only [fileName, content]

/-- To store a record makes directories and writes at most one file. -/
theorem stored_of_store (result : store.store tree name record = (after, outcome)) :
    tree.Extends after ∧ after.size ≤ tree.size + (store.content record).length ∧
      Stored store tree name record after outcome := by
  have grown := tree.makeDirectories_makesDirectories
    (store.directory record.userId record.conversationId)
  generalize directories :
    tree.makeDirectories (store.directory record.userId record.conversationId) = made at grown
  obtain ⟨made, _ | error⟩ := made
  · rw [store_of_makeDirectories directories] at result
    generalize file : made.write _ (store.content record) = written at result
    obtain ⟨_, error?⟩ := written
    obtain ⟨rfl, rfl⟩ := Prod.mk.inj result
    obtain ⟨kept, size_le, writes⟩ := made.writes_of_write (isName_fileName name) file
    rw [grown.size_eq] at size_le
    exact ⟨grown.toExtends.trans kept, size_le, stored_of_writes grown kept writes⟩
  · unfold TranscriptStore.store at result
    dsimp only at result
    rw [directories] at result
    obtain ⟨rfl, rfl⟩ := Prod.mk.inj result
    refine ⟨grown.toExtends, ?_, .refused _ grown.content?_eq⟩
    exact Nat.le_trans (Nat.le_of_eq grown.size_eq) (Nat.le_add_right _ _)

/-- The directory of a conversation lies two directories below the root. -/
theorem exists_base {userId conversationId : String} {directory : List String}
    (there : tree.directoryAt? (store.directory userId conversationId) = some directory) :
    ∃ base, tree.baseAt? store.root = some base ∧
      directory = base ++ [store.pseudonym userId, conversationName conversationId] := by
  have own := store.isName_pseudonym userId
  obtain ⟨above, between, rfl⟩ :=
    FileTree.directoryAt?_join (isName_conversationName conversationId) there
  rw [FileTree.baseAt?, if_neg (own.join_ne_empty _)] at between
  obtain ⟨base, found, rfl⟩ := FileTree.directoryAt?_join own between
  exact ⟨base, found, List.append_assoc ..⟩

end Store

/-- Transcripts stay below the root of their store. The directory of a conversation is the root with
two names behind it, 64 hexadecimal digits and a text of plain characters that is not empty. So the
path begins with the root and starts where the root does, and it has the names of the root and these
two. And to store a record changes no file, or one file, which lies in two directories of these
names below the root. It holds the content of the record, or a beginning of it if that is all there
is room for. -/
theorem transcripts_stay_below_root (store : TranscriptStore) :
    (∀ userId conversationId,
      let directory := store.directory userId conversationId
      let user := store.pseudonym userId
      let conversation := conversationName conversationId
      directory = Path.join (Path.join store.root user) conversation ∧
      (user.length = 64 ∧ ∀ character ∈ user.toList, Text.Hex.IsLower character) ∧
      (conversation ≠ "" ∧ ∀ character ∈ conversation.toList, IsPlain character) ∧
      (∀ name ∈ [user, conversation], Path.isAbsolute name = false ∧ name ≠ "." ∧ name ≠ "..") ∧
      (∃ added, directory = store.root ++ added) ∧
      Path.isAbsolute directory = Path.isAbsolute store.root ∧
      Path.names directory = Path.names store.root ++ [user, conversation]) ∧
    ∀ tree name record,
      let result := store.store tree name record
      (∃ error, result.2 = some error ∧
        ∀ place, result.1.content? place = tree.content? place) ∨
      ∃ base written, result.1.baseAt? store.root = some base ∧
        written <+: store.content record ∧
        (result.2 = none ↔ written = store.content record) ∧
        ∀ place, result.1.content? place =
          if place = base ++ [store.pseudonym record.userId,
              conversationName record.conversationId, fileName name]
          then some written else tree.content? place := by
  refine ⟨fun userId conversationId => ?_, fun tree name record => ?_⟩
  · have own := store.isName_pseudonym userId
    have own' := isName_conversationName conversationId
    refine ⟨rfl, ⟨store.length_pseudonym userId, fun _ => isLower_of_mem_pseudonym⟩,
      ⟨own'.filled, fun _ => isPlain_of_mem_conversationName⟩, ?_, ?_, ?_, ?_⟩
    · intro name inside
      simp only [List.mem_cons, List.not_mem_nil, or_false] at inside
      rcases inside with rfl | rfl
      · exact ⟨own.isAbsolute_eq, own.notHere, own.notAbove⟩
      · exact ⟨own'.isAbsolute_eq, own'.notHere, own'.notAbove⟩
    · obtain ⟨first, one⟩ := own.exists_join_eq store.root
      obtain ⟨second, other⟩ := own'.exists_join_eq (Path.join store.root (store.pseudonym userId))
      exact ⟨first ++ second, by rw [directory, other, one, String.append_assoc]⟩
    · rw [directory, own'.isAbsolute_join, own.isAbsolute_join]
    · rw [directory, own'.names_join, own.names_join, List.append_assoc, List.singleton_append]
  · generalize same : store.store tree name record = result
    obtain ⟨after, outcome⟩ := result
    obtain ⟨-, -, stored⟩ := stored_of_store same
    cases stored with
    | refused error kept => exact .inl ⟨error, rfl, kept⟩
    | written directory within changed =>
        obtain ⟨base, found, rfl⟩ := exists_base within
        refine .inr ⟨base, _, found, List.prefix_rfl, iff_of_true rfl rfl, fun place => ?_⟩
        rw [changed, List.append_assoc]
        rfl
    | cut directory within beginning part shorter lacks changed =>
        obtain ⟨base, found, rfl⟩ := exists_base within
        refine .inr ⟨base, beginning, found, part, iff_of_false nofun ?_, fun place => ?_⟩
        · rintro rfl
          exact Nat.lt_irrefl _ shorter
        · rw [changed, List.append_assoc]
          rfl

/-- A conversation that is called like a path that leads up still lies below the root. -/
theorem leading_up_stays_below :
    let store : TranscriptStore := { root := "/data/t" }
    let directory := store.directory "/" "../../etc/passwd"
    Path.names directory = ["data", "t", store.pseudonym "/", "etcpasswd"] ∧
      Path.isAbsolute directory = true ∧ (store.pseudonym "/").length = 64 := by
  intro store directory
  obtain ⟨paths, -⟩ := transcripts_stay_below_root store
  obtain ⟨-, ⟨length, -⟩, -, -, -, absolute, names⟩ := paths "/" "../../etc/passwd"
  have safe : conversationName "../../etc/passwd" = "etcpasswd" := by decide
  have root : Path.names store.root = ["data", "t"] := by decide
  rw [root, safe] at names
  exact ⟨names, absolute.trans (by decide), length⟩

end TranscriptStore

end TokenRelay
