/-
# Reading values

Supplies what is read from the tree of a value: the value itself, with its numbers read from their
texts and its objects settled, or nothing if it nests too deeply or has a number that cannot be
read. A settled value whose numbers read back is read as it was.
-/

import TokenRelay.Json.Reader
import TokenRelay.Proofs.Json.Growth
import TokenRelay.Proofs.KeyMap

namespace TokenRelay

mutual

/-- The value with something else in place of its numbers, if there is something for all of them. -/
def Json.renumber (change : Number → Option Number) : Json → Option Json
  | .null => some .null
  | .bool value => some (.bool value)
  | .number value => (change value).map .number
  | .string value => some (.string value)
  | .array items => (Json.renumberItems change items).map .array
  | .object members => (Json.renumberMembers change members).map .object
termination_by structural value => value

/-- The items of an array with something else in place of their numbers. -/
def Json.renumberItems (change : Number → Option Number) : List Json → Option (List Json)
  | [] => some []
  | item :: rest =>
    (item.renumber change).bind fun item => (Json.renumberItems change rest).map (item :: ·)
termination_by structural items => items

/-- The members of an object with something else in place of their numbers. -/
def Json.renumberMembers (change : Number → Option Number) :
    List (String × Json) → Option (List (String × Json))
  | [] => some []
  | (key, value) :: rest =>
    (value.renumber change).bind fun value =>
      (Json.renumberMembers change rest).map ((key, value) :: ·)
termination_by structural members => members

end

mutual

/-- The value with its objects settled, the inner ones first. -/
def Json.resettle : Json → Json
  | .null => .null
  | .bool value => .bool value
  | .number value => .number value
  | .string value => .string value
  | .array items => .array (Json.resettleItems items)
  | .object members => Json.settle (Json.resettleMembers members)
termination_by structural value => value

/-- The items of an array with their objects settled. -/
def Json.resettleItems : List Json → List Json
  | [] => []
  | item :: rest => item.resettle :: Json.resettleItems rest
termination_by structural items => items

/-- The members of an object with the objects inside them settled. -/
def Json.resettleMembers : List (String × Json) → List (String × Json)
  | [] => []
  | (key, value) :: rest => (key, value.resettle) :: Json.resettleMembers rest
termination_by structural members => members

end

namespace Reader

/-- What comes of reading what is malformed unless it is something. -/
def found {α : Type} : Option α → Except Fault α
  | none => .error .malformed
  | some value => .ok value

@[simp]
theorem found_none {α : Type} : found (none : Option α) = .error .malformed := rfl

@[simp]
theorem found_some {α : Type} (value : α) : found (some value) = .ok value := rfl

end Reader

section Reading

variable (change : Number → Option Number)

mutual

/-- Reading any value counts its nesting, reads its numbers and settles its objects. -/
theorem Reader.value_treeWith : (value : Json) → (depth : Nat) →
    Reader.value depth (value.treeWith change) =
      Reader.found
        (if value.nesting ≤ depth then (value.renumber change).map Json.resettle else none)
  | .null, _ => rfl
  | .bool _, _ => rfl
  | .number value, depth => by
    simp only [Json.treeWith, Json.renumber, Json.nesting, Nat.zero_le, if_true]
    cases change value <;> rfl
  | .string _, _ => rfl
  | .array _, 0 => by simp [Json.treeWith, Reader.value, Json.nesting]
  | .array items, depth + 1 => by
    have inside := Reader.valuesFrom_itemTreesWith items depth []
    rw [Json.treeWith, Reader.value, inside, Json.nesting, Json.renumber]
    simp only [Nat.add_le_add_iff_right]
    by_cases shallow : Json.itemNesting items ≤ depth
    · cases Json.renumberItems change items <;> simp [shallow, Reader.ending, Json.resettle]
    · simp [shallow]
  | .object _, 0 => by simp [Json.treeWith, Reader.value, Json.nesting]
  | .object members, depth + 1 => by
    have inside := Reader.memberValuesFrom_memberTreesWith members depth []
    rw [Json.treeWith, Reader.value, inside, Json.nesting, Json.renumber]
    simp only [Nat.add_le_add_iff_right]
    by_cases shallow : Json.memberNesting members ≤ depth
    · cases Json.renumberMembers change members <;> simp [shallow, Reader.ending, Json.resettle]
    · simp [shallow]
termination_by structural value => value

theorem Reader.valuesFrom_itemTreesWith : (items : List Json) → (depth : Nat) →
    (earlier : List Json) →
    Reader.valuesFrom depth earlier (Json.itemTreesWith change items) =
      Reader.found (if Json.itemNesting items ≤ depth then
        (Json.renumberItems change items).map (earlier.reverse ++ Json.resettleItems ·) else none)
  | [], depth, earlier => by
    simp [Json.itemTreesWith, Reader.valuesFrom, Json.itemNesting, Json.renumberItems,
      Json.resettleItems]
  | item :: rest, depth, earlier => by
    have first := Reader.value_treeWith item depth
    have others := fun read => Reader.valuesFrom_itemTreesWith rest depth (read :: earlier)
    rw [Json.itemTreesWith, Reader.valuesFrom, first, Json.itemNesting, Json.renumberItems]
    simp only [Nat.max_le]
    by_cases shallow : item.nesting ≤ depth
    · cases item.renumber change with
      | none => simp
      | some item => simp [shallow, others, Function.comp_def, Json.resettleItems]
    · simp [shallow]
termination_by structural items => items

theorem Reader.memberValuesFrom_memberTreesWith : (members : List (String × Json)) →
    (depth : Nat) → (earlier : List (String × Json)) →
    Reader.memberValuesFrom depth earlier (Json.memberTreesWith change members) =
      Reader.found (if Json.memberNesting members ≤ depth then
        (Json.renumberMembers change members).map (earlier.reverse ++ Json.resettleMembers ·)
        else none)
  | [], depth, earlier => by
    simp [Json.memberTreesWith, Reader.memberValuesFrom, Json.memberNesting, Json.renumberMembers,
      Json.resettleMembers]
  | (key, value) :: rest, depth, earlier => by
    have first := Reader.value_treeWith value depth
    have others := fun read =>
      Reader.memberValuesFrom_memberTreesWith rest depth ((key, read) :: earlier)
    rw [Json.memberTreesWith, Reader.memberValuesFrom, first, Json.memberNesting,
      Json.renumberMembers]
    simp only [Nat.max_le]
    by_cases shallow : value.nesting ≤ depth
    · cases value.renumber change with
      | none => simp
      | some value => simp [shallow, others, Function.comp_def, Json.resettleMembers]
    · simp [shallow]
termination_by structural members => members

end

end Reading

section Trees

variable {change : Number → Option Number}

mutual

/-- If its numbers stay as they are, a value has its own tree. -/
theorem Json.treeWith_eq_tree : (value : Json) →
    (∀ number ∈ value.numbers, change number = some number) → value.treeWith change = value.tree
  | .null, _ | .bool _, _ | .string _, _ => rfl
  | .number _, same => by rw [Json.treeWith, Json.tree, same _ List.mem_cons_self]
  | .array items, same => by rw [Json.treeWith, Json.tree, Json.itemTreesWith_eq items same]
  | .object members, same => by rw [Json.treeWith, Json.tree, Json.memberTreesWith_eq members same]
termination_by structural value => value

theorem Json.itemTreesWith_eq : (items : List Json) →
    (∀ number ∈ Json.itemNumbers items, change number = some number) →
    Json.itemTreesWith change items = Json.itemTrees items
  | [], _ => rfl
  | item :: rest, same => by
    rw [Json.itemNumbers, List.forall_mem_append] at same
    rw [Json.itemTreesWith, Json.itemTrees, Json.treeWith_eq_tree item same.1,
      Json.itemTreesWith_eq rest same.2]
termination_by structural items => items

theorem Json.memberTreesWith_eq : (members : List (String × Json)) →
    (∀ number ∈ Json.memberNumbers members, change number = some number) →
    Json.memberTreesWith change members = Json.memberTrees members
  | [], _ => rfl
  | (key, value) :: rest, same => by
    rw [Json.memberNumbers, List.forall_mem_append] at same
    rw [Json.memberTreesWith, Json.memberTrees, Json.treeWith_eq_tree value same.1,
      Json.memberTreesWith_eq rest same.2]
termination_by structural members => members

end

end Trees

mutual

/-- Of a settled value nothing is moved. -/
theorem Json.resettle_of_settled : (value : Json) → value.Settled → value.resettle = value
  | .null, _ | .bool _, _ | .number _, _ | .string _, _ => rfl
  | .array items, settled => by rw [Json.resettle, Json.resettleItems_of_settled items settled]
  | .object members, settled => by
    rw [Json.resettle, Json.resettleMembers_of_settled members settled.2, Json.settle,
      KeyMap.entries_ofList settled.1]
termination_by structural value => value

theorem Json.resettleItems_of_settled : (items : List Json) → Json.SettledItems items →
    Json.resettleItems items = items
  | [], _ => rfl
  | item :: rest, settled => by
    rw [Json.resettleItems, Json.resettle_of_settled item settled.1,
      Json.resettleItems_of_settled rest settled.2]
termination_by structural items => items

theorem Json.resettleMembers_of_settled : (members : List (String × Json)) →
    Json.SettledMembers members → Json.resettleMembers members = members
  | [], _ => rfl
  | (_, value) :: rest, settled => by
    rw [Json.resettleMembers, Json.resettle_of_settled value settled.1,
      Json.resettleMembers_of_settled rest settled.2]
termination_by structural members => members

end

section Renumbering

variable {change : Number → Option Number}

mutual

/-- A value keeps its shape when its numbers change. -/
theorem Json.shape_renumber : (value : Json) → {after : Json} →
    value.renumber change = some after →
    after.nesting = value.nesting ∧ (value.Settled → after.Settled)
  | .null, _, changed | .bool _, _, changed | .string _, _, changed => by
    cases changed
    exact ⟨rfl, id⟩
  | .number _, _, changed => by
    obtain ⟨_, -, rfl⟩ := Option.map_eq_some_iff.1 changed
    exact ⟨rfl, id⟩
  | .array items, _, changed => by
    obtain ⟨_, others, rfl⟩ := Option.map_eq_some_iff.1 changed
    obtain ⟨nesting, settled⟩ := Json.shape_renumberItems items others
    exact ⟨congrArg (· + 1) nesting, settled⟩
  | .object members, _, changed => by
    obtain ⟨_, others, rfl⟩ := Option.map_eq_some_iff.1 changed
    obtain ⟨keys, nesting, settled⟩ := Json.shape_renumberMembers members others
    refine ⟨congrArg (· + 1) nesting, fun before => ⟨?_, settled before.2⟩⟩
    rw [keys]
    exact before.1
termination_by structural value => value

theorem Json.shape_renumberItems : (items : List Json) → {after : List Json} →
    Json.renumberItems change items = some after →
    Json.itemNesting after = Json.itemNesting items ∧
      (Json.SettledItems items → Json.SettledItems after)
  | [], _, changed => by
    cases changed
    exact ⟨rfl, id⟩
  | item :: rest, _, changed => by
    obtain ⟨_, first, remaining⟩ := Option.bind_eq_some_iff.1 changed
    obtain ⟨_, others, rfl⟩ := Option.map_eq_some_iff.1 remaining
    obtain ⟨nesting, settled⟩ := Json.shape_renumber item first
    obtain ⟨nesting', settled'⟩ := Json.shape_renumberItems rest others
    exact ⟨by rw [Json.itemNesting, Json.itemNesting, nesting, nesting'],
      fun before => ⟨settled before.1, settled' before.2⟩⟩
termination_by structural items => items

theorem Json.shape_renumberMembers : (members : List (String × Json)) →
    {after : List (String × Json)} → Json.renumberMembers change members = some after →
    after.map Prod.fst = members.map Prod.fst ∧
      Json.memberNesting after = Json.memberNesting members ∧
      (Json.SettledMembers members → Json.SettledMembers after)
  | [], _, changed => by
    cases changed
    exact ⟨rfl, rfl, id⟩
  | (key, value) :: rest, _, changed => by
    obtain ⟨_, first, remaining⟩ := Option.bind_eq_some_iff.1 changed
    obtain ⟨_, others, rfl⟩ := Option.map_eq_some_iff.1 remaining
    obtain ⟨nesting, settled⟩ := Json.shape_renumber value first
    obtain ⟨keys, nesting', settled'⟩ := Json.shape_renumberMembers rest others
    exact ⟨by rw [List.map_cons, List.map_cons, keys],
      by rw [Json.memberNesting, Json.memberNesting, nesting, nesting'],
      fun before => ⟨settled before.1, settled' before.2⟩⟩
termination_by structural members => members

end

mutual

/-- A value stays as it is exactly if all its numbers do. -/
theorem Json.renumber_eq_self_iff : (value : Json) →
    (value.renumber change = some value ↔ ∀ number ∈ value.numbers, change number = some number)
  | .null | .bool _ | .string _ => by simp [Json.renumber, Json.numbers]
  | .number value => by simp [Json.renumber, Json.numbers]
  | .array items => by
    simpa [Json.renumber, Json.numbers] using Json.renumberItems_eq_self_iff items
  | .object members => by
    simpa [Json.renumber, Json.numbers] using Json.renumberMembers_eq_self_iff members
termination_by structural value => value

theorem Json.renumberItems_eq_self_iff : (items : List Json) →
    (Json.renumberItems change items = some items ↔
      ∀ number ∈ Json.itemNumbers items, change number = some number)
  | [] => by simp [Json.renumberItems, Json.itemNumbers]
  | item :: rest => by
    have first := Json.renumber_eq_self_iff item
    have others := Json.renumberItems_eq_self_iff rest
    simp only [Json.renumberItems, Json.itemNumbers, List.forall_mem_append, ← first, ← others]
    simp [Option.bind_eq_some_iff]
termination_by structural items => items

theorem Json.renumberMembers_eq_self_iff : (members : List (String × Json)) →
    (Json.renumberMembers change members = some members ↔
      ∀ number ∈ Json.memberNumbers members, change number = some number)
  | [] => by simp [Json.renumberMembers, Json.memberNumbers]
  | (key, value) :: rest => by
    have first := Json.renumber_eq_self_iff value
    have others := Json.renumberMembers_eq_self_iff rest
    simp only [Json.renumberMembers, Json.memberNumbers, List.forall_mem_append, ← first, ← others]
    simp [Option.bind_eq_some_iff]
termination_by structural members => members

end

end Renumbering

theorem Json.mem_itemNumbers {number : Number} (items : List Json) :
    number ∈ Json.itemNumbers items ↔ ∃ item ∈ items, number ∈ item.numbers := by
  induction items with
  | nil => simp [Json.itemNumbers]
  | cons item rest ih => simp [Json.itemNumbers, ih]

theorem Json.mem_memberNumbers {number : Number} (members : List (String × Json)) :
    number ∈ Json.memberNumbers members ↔ ∃ member ∈ members, number ∈ member.2.numbers := by
  induction members with
  | nil => simp [Json.memberNumbers]
  | cons member rest ih => simp [Json.memberNumbers, ih]

theorem Json.itemNesting_le_iff {depth : Nat} (items : List Json) :
    Json.itemNesting items ≤ depth ↔ ∀ item ∈ items, item.nesting ≤ depth := by
  induction items with
  | nil => simp [Json.itemNesting]
  | cons item rest ih => rw [Json.itemNesting, Nat.max_le, ih, List.forall_mem_cons]

theorem Json.memberNesting_le_iff {depth : Nat} (members : List (String × Json)) :
    Json.memberNesting members ≤ depth ↔ ∀ member ∈ members, member.2.nesting ≤ depth := by
  induction members with
  | nil => simp [Json.memberNesting]
  | cons member rest ih => rw [Json.memberNesting, Nat.max_le, ih, List.forall_mem_cons]

theorem Json.settledItems_iff (items : List Json) :
    Json.SettledItems items ↔ ∀ item ∈ items, item.Settled := by
  induction items with
  | nil => simp [Json.SettledItems]
  | cons item rest ih => simp [Json.SettledItems, ih]

/-- A value as it can be stored: with sorted keys, and numbers that fit. -/
def Json.Proper (value : Json) : Prop :=
  value.Settled ∧ ∀ number ∈ value.numbers, number.Proper

/-- The floating-point numbers in a value read back from their texts. -/
def Json.FloatsReadBack (value : Json) : Prop :=
  ∀ float, .float float ∈ value.numbers → (Number.float float).ReadsBack

theorem Json.floatsReadBack_of_plain {values : List Json}
    (plain : values.all fun value => value.numbers.all Number.isPlain) :
    ∀ value ∈ values, value.FloatsReadBack := by
  intro value inside float within
  have numbers := List.all_eq_true.1 plain value inside
  have same : float = 1.5 := of_decide_eq_true (List.all_eq_true.1 numbers _ within)
  exact same ▸ Number.readsBack_oneAndHalf

/-- Exact numbers read back anyway. -/
theorem Json.Proper.readsBack {value : Json} (proper : value.Proper)
    (floats : value.FloatsReadBack) : ∀ number ∈ value.numbers, number.ReadsBack := by
  intro number within
  cases number with
  | int exact => exact Number.readsBack_int (proper.2 _ within)
  | float float => exact floats float within

theorem Json.renumberMembers_append (change : Number → Option Number)
    (first second : List (String × Json)) :
    Json.renumberMembers change (first ++ second) =
      (Json.renumberMembers change first).bind fun first =>
        (Json.renumberMembers change second).map (first ++ ·) := by
  induction first with
  | nil => simp [Json.renumberMembers]
  | cons member rest ih =>
      simp [Json.renumberMembers, ih, Option.bind_assoc, Option.map_bind, Option.bind_map,
        Function.comp_def]

/-- A settled value is read from its own tree as it is. -/
theorem Reader.value_tree {value : Json} (settled : value.Settled) {depth : Nat}
    (shallow : value.nesting ≤ depth) : Reader.value depth value.tree = .ok value := by
  have same : value.renumber some = some value :=
    value.renumber_eq_self_iff.2 fun _ _ => rfl
  have tree : value.treeWith some = value.tree := value.treeWith_eq_tree fun _ _ => rfl
  rw [← tree, Reader.value_treeWith, if_pos shallow, same, Option.map_some,
    value.resettle_of_settled settled, Reader.found_some]

/-- A value that has been read before is read from its tree. -/
theorem Reader.ofJson_of_read {α : Type} {reader : Reader α} {source : Json} {value : α}
    (read : reader Reader.depthLimit source.tree = .ok value) :
    reader.ofJson source = .ok value := by
  rw [Reader.ofJson, read]

theorem Reader.of_ofJson {α : Type} {reader : Reader α} {source : Json} {value : α}
    (read : reader.ofJson source = .ok value) : reader depthLimit source.tree = .ok value := by
  unfold ofJson at read
  split at read
  · cases read
  · next found =>
    cases read
    exact found

theorem Reader.of_run {α : Type} {reader : Reader α} {document : Document} {value : α}
    (read : reader.run document = .ok value) : reader depthLimit document.tree = .ok value := by
  unfold run at read
  split at read
  · cases read
  · next found =>
    split at read
    · cases read
    · cases read
      exact found

/-- Behind a whole text nothing is left that could spoil it. -/
theorem Reader.run_of_complete {α : Type} (reader : Reader α) (tree : Tree) :
    reader.run ⟨tree, false⟩ = reader Reader.depthLimit tree := by
  rw [Reader.run]
  cases reader Reader.depthLimit tree <;> rfl

end TokenRelay
