/-
# What read values are made of

Supplies that whatever text a value is read from, the value is as the writer wants it: its numbers
are those that numerals denote, so the exact ones fit a word, its objects list their keys by
increasing key, and it nests no deeper than the reader went. So a value that was read can be written
and read again.
-/

import TokenRelay.Proofs.Json.Record

namespace TokenRelay

namespace Number

/-- Some numeral denotes the number. -/
def IsDenoted (number : Number) : Prop := ∃ numeral, ofNumeral? numeral = some number

theorem takeDigits_lt {significand : Nat} (small : significand < UInt64.size) (used : Nat)
    (digits : List Nat) : (takeDigits significand used digits).1 < UInt64.size := by
  induction digits generalizing significand used with
  | nil => exact small
  | cons digit rest ih =>
      simp only [takeDigits]
      split
      · next fits => exact ih fits _
      · exact small

/-- The exact numbers that numerals denote fit a word, with a sign or without. -/
theorem IsDenoted.proper_int {value : Int} (denoted : (int value).IsDenoted) :
    (int value).Proper := by
  obtain ⟨numeral, denotes⟩ := denoted
  have small := takeDigits_lt (by decide : 0 < UInt64.size) 0 numeral.whole.reverse
  simp only [UInt64.size] at small
  simp only [ofNumeral?, UInt64.size] at denotes
  split at denotes
  · split at denotes
    · split at denotes
      · next bounds =>
        cases denotes
        constructor <;> simp only [UInt64.size] <;> omega
      · cases denotes
    · cases denotes
      constructor <;> simp only [UInt64.size] <;> omega
  · -- A number with a point or an exponent is never exact.
    split at denotes
    · obtain ⟨_, -, same⟩ := Option.map_eq_some_iff.1 denotes
      cases same
    · split at denotes
      · split at denotes <;> cases denotes
      · obtain ⟨_, -, same⟩ := Option.map_eq_some_iff.1 denotes
        cases same

/-- What is neither finite nor infinite and what is infinite is written as a word, and no number is
read from that. -/
theorem ReadsBack.proper_float {value : Float} (reads : (float value).ReadsBack) :
    (float value).Proper := by
  by_cases odd : (value.isNaN || value.isInf) = true
  · have written : (float value).text = "null" := by simp only [text, floatText, if_pos odd]
    have word : Token.numeral? "null".toList = none := rfl
    rw [ReadsBack, reread, written, word] at reads
    cases reads
  · simpa [Proper] using odd

end Number

namespace Token

/-- If the token is a number, some numeral denotes it. -/
def IsDenoted : Token → Prop
  | .number (some value) => value.IsDenoted
  | _ => True

theorem isDenoted_number (numeral : Number.Numeral) :
    (Token.number (Number.ofNumeral? numeral)).IsDenoted := by
  cases denotes : Number.ofNumeral? numeral with
  | none => trivial
  | some value => exact ⟨numeral, denotes⟩

/-- So it is with the token that a word will be. -/
def Mode.IsDenoted : Mode → Prop
  | .word _ token => token.IsDenoted
  | .between | .quoted _ | .escaped _ | .unit _ _ _ | .number _ _ | .stuck => True

/-- All numbers found so far are denoted by numerals. -/
structure Walk.IsDenoted (walk : Walk) : Prop where
  tokens : ∀ token ∈ walk.tokens, token.IsDenoted
  mode : walk.mode.IsDenoted

theorem isDenoted_beginToken {tokens : List Token} (found : ∀ token ∈ tokens, token.IsDenoted)
    (character : Char) : (beginToken tokens character).IsDenoted := by
  unfold beginToken halt
  split
  case h_16 =>
    split <;> exact ⟨by simpa [IsDenoted] using found, trivial⟩
  all_goals
    exact ⟨by simpa [IsDenoted] using found, trivial⟩

theorem isDenoted_escapedStep {tokens : List Token} (found : ∀ token ∈ tokens, token.IsDenoted)
    (text : Quoted) (character : Char) : (escapedStep tokens text character).IsDenoted := by
  unfold escapedStep halt
  split <;> exact ⟨by simpa [IsDenoted] using found, trivial⟩

/-- One more unit finds no other numbers. -/
theorem Walk.IsDenoted.step {walk : Walk} (denoted : walk.IsDenoted) (next : Option Char) :
    (walk.step next).IsDenoted := by
  obtain ⟨tokens, mode⟩ := walk
  obtain ⟨found, reading⟩ := denoted
  have behind (token : Token) (same : token.IsDenoted) :
      ∀ other ∈ token :: tokens, other.IsDenoted := List.forall_mem_cons.2 ⟨same, found⟩
  have stops : (halt tokens).IsDenoted := ⟨behind .stop trivial, trivial⟩
  cases mode with
  | between =>
      cases next with
      | none => exact stops
      | some character => exact isDenoted_beginToken found character
  | word owed token =>
      have same : token.IsDenoted := reading
      cases next with
      | none => exact stops
      | some character =>
          simp only [Walk.step]
          split
          · exact stops
          · split
            · exact stops
            · split
              · exact ⟨behind token same, trivial⟩
              · exact ⟨found, same⟩
  | quoted text =>
      cases next with
      | none => exact ⟨found, trivial⟩
      | some character =>
          simp only [Walk.step]
          split
          · refine ⟨behind _ ?_, trivial⟩
            cases text.close <;> trivial
          · split
            · exact ⟨found, trivial⟩
            · split
              · exact stops
              · exact ⟨found, trivial⟩
  | escaped text =>
      cases next with
      | none => exact stops
      | some character => exact isDenoted_escapedStep found text character
  | unit text owed value =>
      cases next with
      | none => exact stops
      | some character =>
          simp only [Walk.step]
          split
          · exact stops
          · split <;> exact ⟨found, trivial⟩
  | number place numeral =>
      have closed := behind _ (isDenoted_number numeral)
      cases next with
      | none =>
          simp only [Walk.step]
          split
          · exact ⟨List.forall_mem_cons.2 ⟨trivial, closed⟩, trivial⟩
          · exact stops
      | some character =>
          simp only [Walk.step]
          split
          · exact ⟨found, trivial⟩
          · exact stops
          · exact isDenoted_beginToken closed character
  | stuck => exact ⟨found, trivial⟩

/-- Every number among the tokens of a text is denoted by a numeral. -/
theorem isDenoted_scan (text : List (Option Char)) : ∀ token ∈ scan text, token.IsDenoted := by
  have walked (walk : Walk) (denoted : walk.IsDenoted) :
      (text.foldl Walk.step walk).IsDenoted := by
    induction text generalizing walk with
    | nil => exact denoted
    | cons next rest ih => exact ih _ (denoted.step next)
  have found := (walked .start ⟨List.forall_mem_nil _, trivial⟩).tokens
  have behind (token : Token) (same : token.IsDenoted) :
      ∀ other ∈ (token :: (text.foldl Walk.step .start).tokens).reverse, other.IsDenoted :=
    fun other inside =>
      List.forall_mem_cons.2 ⟨same, found⟩ other (List.mem_reverse.1 inside)
  unfold scan Walk.finish
  split
  · exact fun other inside => found other (List.mem_reverse.1 inside)
  · exact fun other inside => found other (List.mem_reverse.1 inside)
  · split
    · exact behind _ (isDenoted_number _)
    · exact behind .stop trivial
  all_goals exact behind .stop trivial

end Token

mutual

/-- The numbers in a tree, as far as they have a value. -/
def Tree.numbers : Tree → List Number
  | .number (some value) => [value]
  | .array items _ => Tree.itemNumbers items
  | .object members _ => Tree.memberNumbers members
  | .null | .bool _ | .number none | .string _ | .broken => []
termination_by structural tree => tree

/-- The numbers in the items of an array. -/
def Tree.itemNumbers : List Tree → List Number
  | [] => []
  | item :: rest => item.numbers ++ Tree.itemNumbers rest
termination_by structural items => items

/-- The numbers in the values of an object. -/
def Tree.memberNumbers : List (Option String × Tree) → List Number
  | [] => []
  | (_, value) :: rest => value.numbers ++ Tree.memberNumbers rest
termination_by structural members => members

end

namespace Tree

variable {holds : Number → Prop}

theorem forall_itemNumbers_iff (items : List Tree) :
    (∀ number ∈ itemNumbers items, holds number) ↔
      ∀ item ∈ items, ∀ number ∈ item.numbers, holds number := by
  induction items with
  | nil => simp [itemNumbers]
  | cons item rest ih => simp only [itemNumbers, List.forall_mem_append, List.forall_mem_cons, ih]

theorem forall_memberNumbers_iff (members : List (Option String × Tree)) :
    (∀ number ∈ memberNumbers members, holds number) ↔
      ∀ member ∈ members, ∀ number ∈ member.2.numbers, holds number := by
  induction members with
  | nil => simp [memberNumbers]
  | cons member rest ih =>
      simp only [memberNumbers, List.forall_mem_append, List.forall_mem_cons, ih]

/-- What the numbers of its parts are, the numbers of a tree are. -/
theorem inherited_numbers (holds : Number → Prop) :
    Inherited (fun tree => ∀ number ∈ tree.numbers, holds number)
      (fun tree => ∀ number ∈ tree.numbers, holds number) where
  part_of_whole _ all := all
  broken := List.forall_mem_nil _
  array items _ := (forall_itemNumbers_iff items).2
  object members _ := (forall_memberNumbers_iff members).2

/-- The numbers right below a tree are among its own. -/
theorem numbers_of_part {tree part : Tree} (all : ∀ number ∈ tree.numbers, holds number)
    (inside : part ∈ tree.parts) : ∀ number ∈ part.numbers, holds number := by
  cases tree with
  | array items ending => exact (forall_itemNumbers_iff items).1 all part inside
  | object members ending =>
      obtain ⟨member, there, rfl⟩ := List.mem_map.1 inside
      exact (forall_memberNumbers_iff members).1 all member there
  | null | bool | number | string | broken => cases inside

end Tree

/-- Every number in the tree of a text is denoted by a numeral. -/
theorem Document.denoted_ofUnits (text : List (Option Char)) :
    ∀ number ∈ (ofUnits text).tree.numbers, number.IsDenoted := by
  refine whole_ofTokens (Tree.inherited_numbers _) fun token inside => ?_
  have denoted := Token.isDenoted_scan text token inside
  cases token with
  | number value =>
      cases value with
      | none => exact List.forall_mem_nil _
      | some value => exact List.forall_mem_singleton.2 denoted
  | null | bool | string => exact List.forall_mem_nil _
  | openObject | closeObject | openArray | closeArray | colon | comma | stop => trivial

/-- A value as it is read: it nests no deeper than the reader goes, its objects are settled, and its
numbers are of one kind. -/
structure Json.IsMade (holds : Number → Prop) (depth : Nat) (value : Json) : Prop where
  nesting_le : value.nesting ≤ depth
  settled : value.Settled
  numbers : ∀ number ∈ value.numbers, holds number

section Reading

variable {holds : Number → Prop}

theorem Json.settledMembers_iff (members : List (String × Json)) :
    Json.SettledMembers members ↔ ∀ member ∈ members, member.2.Settled := by
  induction members with
  | nil => simp [SettledMembers]
  | cons member rest ih => simp [SettledMembers, ih]

theorem Json.isMade_array {depth : Nat} {items : List Json}
    (made : ∀ item ∈ items, item.IsMade holds depth) :
    (Json.array items).IsMade holds (depth + 1) where
  nesting_le := by
    rw [nesting, Nat.add_le_add_iff_right, itemNesting_le_iff]
    exact fun item inside => (made item inside).nesting_le
  settled := (settledItems_iff items).2 fun item inside => (made item inside).settled
  numbers number inside := by
    obtain ⟨item, there, within⟩ := (mem_itemNumbers items).1 inside
    exact (made item there).numbers number within

/-- An object is settled when its members have been read. -/
theorem Json.isMade_settle {depth : Nat} {members : List (String × Json)}
    (made : ∀ member ∈ members, member.2.IsMade holds depth) :
    (Json.settle members).IsMade holds (depth + 1) := by
  have entries : ∀ member ∈ (KeyMap.ofList members).entries, member.2.IsMade holds depth :=
    fun member inside => made member (KeyMap.mem_of_mem_ofList inside)
  exact {
    nesting_le := by
      rw [settle, nesting, Nat.add_le_add_iff_right, memberNesting_le_iff]
      exact fun member inside => (entries member inside).nesting_le
    settled := ⟨(KeyMap.ofList members).sorted,
      (settledMembers_iff _).2 fun member inside => (entries member inside).settled⟩
    numbers := by
      intro number inside
      obtain ⟨member, there, within⟩ := (mem_memberNumbers _).1 inside
      exact (entries member there).numbers number within }

mutual

/-- Whatever tree it comes from, a value that is read is made of what is in there. -/
theorem Reader.isMade_value : (tree : Tree) → (∀ number ∈ tree.numbers, holds number) →
    {depth : Nat} → {value : Json} → Reader.value depth tree = .ok value →
    value.IsMade holds depth
  | .null, _, _, _, read | .bool _, _, _, _, read | .string (some _), _, _, _, read => by
    cases read
    exact ⟨Nat.zero_le _, trivial, List.forall_mem_nil _⟩
  | .number (some _), all, _, _, read => by
    cases read
    exact ⟨Nat.zero_le _, trivial, all⟩
  | .array _ _, _, 0, _, read | .object _ _, _, 0, _, read => by
    simp [Reader.value] at read
  | .array items ending, all, depth + 1, _, read => by
    simp only [Reader.value] at read
    split at read
    · cases read
    · next values inside =>
      cases ending <;> cases read
      exact Json.isMade_array (Reader.isMade_valuesFrom items all (List.forall_mem_nil _) inside)
  | .object members ending, all, depth + 1, _, read => by
    simp only [Reader.value] at read
    split at read
    · cases read
    · next values inside =>
      cases ending <;> cases read
      exact Json.isMade_settle
        (Reader.isMade_memberValuesFrom members all (List.forall_mem_nil _) inside)
  | .number none, _, _, _, read | .string none, _, _, _, read | .broken, _, _, _, read => by
    simp [Reader.value] at read
termination_by structural tree => tree

theorem Reader.isMade_valuesFrom : (items : List Tree) →
    (∀ number ∈ Tree.itemNumbers items, holds number) → {depth : Nat} →
    {earlier values : List Json} → (∀ value ∈ earlier, value.IsMade holds depth) →
    Reader.valuesFrom depth earlier items = .ok values →
    ∀ value ∈ values, value.IsMade holds depth
  | [], _, _, _, _, made, read => by
    cases read
    exact fun value inside => made value (List.mem_reverse.1 inside)
  | item :: rest, all, depth, _, _, made, read => by
    rw [Tree.itemNumbers, List.forall_mem_append] at all
    simp only [Reader.valuesFrom] at read
    split at read
    · cases read
    · next value first =>
      have head := Reader.isMade_value item all.1 first
      exact Reader.isMade_valuesFrom rest all.2 (List.forall_mem_cons.2 ⟨head, made⟩) read
termination_by structural items => items

theorem Reader.isMade_memberValuesFrom : (members : List (Option String × Tree)) →
    (∀ number ∈ Tree.memberNumbers members, holds number) → {depth : Nat} →
    {earlier values : List (String × Json)} →
    (∀ member ∈ earlier, member.2.IsMade holds depth) →
    Reader.memberValuesFrom depth earlier members = .ok values →
    ∀ member ∈ values, member.2.IsMade holds depth
  | [], _, _, _, _, made, read => by
    cases read
    exact fun member inside => made member (List.mem_reverse.1 inside)
  | (none, _) :: _, _, _, _, _, _, read => by simp [Reader.memberValuesFrom] at read
  | (some key, value) :: rest, all, depth, _, _, made, read => by
    rw [Tree.memberNumbers, List.forall_mem_append] at all
    simp only [Reader.memberValuesFrom] at read
    split at read
    · cases read
    · next json first =>
      have head := Reader.isMade_value value all.1 first
      exact Reader.isMade_memberValuesFrom rest all.2 (List.forall_mem_cons.2 ⟨head, made⟩) read
termination_by structural members => members

end

/-- The values right below a value. -/
def Json.parts : Json → List Json
  | .array items => items
  | .object members => members.map Prod.snd
  | .null | .bool _ | .number _ | .string _ => []

theorem Json.parts_tree (value : Json) : value.tree.parts = value.parts.map Json.tree := by
  cases value with
  | array items => rw [tree, itemTrees_eq_map]; rfl
  | object members =>
      rw [tree, memberTrees_eq_map]
      simp [Tree.parts, Tree.members, parts, Function.comp_def]
  | null | bool | number | string => rfl

/-- What is right below a value nests one level less deep. -/
theorem Json.IsMade.part {depth : Nat} {value part : Json}
    (made : value.IsMade holds (depth + 1)) (inside : part ∈ value.parts) :
    part.IsMade holds depth := by
  obtain ⟨nesting, settled, numbers⟩ := made
  cases value with
  | array items =>
      rw [Json.nesting, Nat.add_le_add_iff_right, itemNesting_le_iff] at nesting
      exact {
        nesting_le := nesting part inside
        settled := (settledItems_iff items).1 settled part inside
        numbers := fun number within =>
          numbers number ((mem_itemNumbers items).2 ⟨part, inside, within⟩) }
  | object members =>
      obtain ⟨member, there, rfl⟩ := List.mem_map.1 inside
      rw [Json.nesting, Nat.add_le_add_iff_right, memberNesting_le_iff] at nesting
      exact {
        nesting_le := nesting member there
        settled := (settledMembers_iff members).1 settled.2 member there
        numbers := fun number within =>
          numbers number ((mem_memberNumbers members).2 ⟨member, there, within⟩) }
  | null | bool | number | string => cases inside

/-- Any values are read one by one as the items of an array of any values are. -/
theorem Reader.itemsFrom_value (depth : Nat) (found : List Json) (items : List Tree) :
    itemsFrom value depth found items = valuesFrom depth found items := by
  induction items generalizing found with
  | nil => rfl
  | cons item rest ih =>
      simp only [itemsFrom, valuesFrom]
      cases value depth item with
      | error fault => rfl
      | ok read => exact ih (read :: found)

/-- A list of values is read where the array of them is. -/
theorem Reader.value_of_list {depth : Nat} {tree : Tree} {values : List Json}
    (read : list value depth tree = .ok values) : value depth tree = .ok (.array values) := by
  unfold list at read
  split at read
  · cases read
  · next depth items ending =>
    rw [itemsFrom_value] at read
    rw [value]
    split at read
    · cases read
    · next inside =>
      rw [inside]
      cases ending <;> cases read
      rfl
  · cases read

/-- What is read as a list of values are values as they are read. -/
theorem Reader.isMade_list {depth : Nat} {tree : Tree} {values : List Json}
    (all : ∀ number ∈ tree.numbers, holds number)
    (read : list value (depth + 1) tree = .ok values) :
    ∀ value ∈ values, value.IsMade holds depth :=
  fun _ inside => (isMade_value tree all (value_of_list read)).part inside

/-- A list of values is read from the array of them only. -/
theorem Reader.eq_array_of_list {depth : Nat} {source : Json} {values : List Json}
    (made : source.IsMade holds depth) (read : list value depth source.tree = .ok values) :
    source = .array values :=
  Except.ok.inj ((value_tree made.settled made.nesting_le).symm.trans (value_of_list read))

/-- A value that was read can be stored, if the floating-point numbers in it can. -/
theorem Json.IsMade.proper {depth : Nat} {value : Json}
    (made : value.IsMade Number.IsDenoted depth) (floats : value.FloatsReadBack) :
    value.Proper := by
  refine ⟨made.settled, fun number within => ?_⟩
  cases number with
  | int exact => exact (made.numbers _ within).proper_int
  | float float => exact (floats float within).proper_float

end Reading

end TokenRelay
