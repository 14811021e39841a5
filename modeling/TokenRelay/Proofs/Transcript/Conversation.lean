/-
# Conversations with different identifiers

Supplies that two conversations that the server admits never share a directory. What is left of an
identifier without the characters that could mean something in a path, and without its hyphens, ends
in its 32 digits in whichever of the four ways it is spelled. So the directory tells the identifier.
-/

import TokenRelay.Proofs.Transcript.Directory
import TokenRelay.Query

namespace TokenRelay

namespace Uuid

/-- The number that hexadecimal digits stand for, behind those of another number. -/
def number (value : Nat) (digits : List Char) : Nat :=
  digits.foldl (fun value digit => value * 16 + (Text.Hex.value? digit).getD 0) value

/-- The characters of an identifier that count: neither hyphens nor what is left out of names. -/
def core (text : List Char) : List Char :=
  text.filter fun character => character != '-' && TranscriptStore.isSafe character

theorem core_append (first second : List Char) :
    core (first ++ second) = core first ++ core second :=
  List.filter_append ..

theorem isSafe_of_value? {digit : Char} (known : (Text.Hex.value? digit).isSome) :
    TranscriptStore.isSafe digit = true ∧ digit ≠ '-' := by
  have apart : digit ≠ '-' := by
    rintro rfl
    revert known
    decide
  refine ⟨(TranscriptStore.isSafe_iff digit).2 ?_, apart⟩
  unfold Text.Hex.value? at known
  split at known
  · next decimal => exact .inr (.inr (.inl decimal))
  · split at known
    · next lower => exact .inr (.inl ⟨lower.1, Char.le_trans lower.2 (by decide)⟩)
    · split at known
      · next upper => exact .inl ⟨upper.1, Char.le_trans upper.2 (by decide)⟩
      · cases known

/-- Hexadecimal digits all count. -/
theorem core_of_digits {digits : List Char}
    (all : ∀ digit ∈ digits, (Text.Hex.value? digit).isSome) : core digits = digits := by
  refine List.filter_eq_self.2 fun digit inside => ?_
  obtain ⟨safe, apart⟩ := isSafe_of_value? (all digit inside)
  simp [safe, apart]

/-- Digits that are read stand at the beginning of the text, and their number is what is read. -/
theorem digits?_eq_some {count value result : Nat} {text rest : List Char}
    (read : digits? count value text = some (result, rest)) :
    ∃ digits, text = digits ++ rest ∧ digits.length = count ∧ core digits = digits ∧
      result = number value digits := by
  suffices found : ∃ digits, text = digits ++ rest ∧ digits.length = count ∧
      (∀ digit ∈ digits, (Text.Hex.value? digit).isSome) ∧ result = number value digits by
    obtain ⟨digits, whole, length, all, same⟩ := found
    exact ⟨digits, whole, length, core_of_digits all, same⟩
  fun_induction digits? count value text with
  | case1 value text =>
      obtain ⟨rfl, rfl⟩ := Prod.mk.inj (Option.some.inj read)
      exact ⟨[], rfl, rfl, by simp, rfl⟩
  | case2 value count character text digit known ih =>
      obtain ⟨digits, rfl, length, all, same⟩ := ih read
      refine ⟨character :: digits, rfl, by rw [List.length_cons, length], ?_, ?_⟩
      · simpa [known] using all
      · simpa [number, known] using same
  | case3 => cases read
  | case4 => cases read

theorem group?_eq_some {count result : Nat} {before : Nat × List Char} {rest : List Char}
    (read : group? count before = some (result, rest)) :
    ∃ digits, before.2 = '-' :: (digits ++ rest) ∧ digits.length = count ∧ core digits = digits ∧
      result = number before.1 digits := by
  unfold group? at read
  split at read
  · obtain ⟨digits, rfl, found⟩ := digits?_eq_some read
    exact ⟨digits, rfl, found⟩
  · cases read

/-- The grouped form holds 32 digits. -/
theorem grouped?_eq_some {result : Nat} {text rest : List Char}
    (read : grouped? text = some (result, rest)) :
    ∃ body digits, text = body ++ rest ∧ core body = digits ∧ digits.length = 32 ∧
      result = number 0 digits := by
  simp only [grouped?, Option.bind_eq_bind, Option.bind_eq_some_iff] at read
  obtain ⟨⟨_, _⟩, first, ⟨_, _⟩, second, ⟨_, _⟩, third, ⟨_, _⟩, fourth, fifth⟩ := read
  obtain ⟨one, rfl, length1, core1, rfl⟩ := digits?_eq_some first
  obtain ⟨two, rfl, length2, core2, rfl⟩ := group?_eq_some second
  obtain ⟨three, rfl, length3, core3, rfl⟩ := group?_eq_some third
  obtain ⟨four, rfl, length4, core4, rfl⟩ := group?_eq_some fourth
  obtain ⟨five, rfl, length5, core5, rfl⟩ := group?_eq_some fifth
  have hyphen (text : List Char) : core ('-' :: text) = core text := rfl
  refine ⟨one ++ '-' :: (two ++ '-' :: (three ++ '-' :: (four ++ '-' :: five))),
    one ++ (two ++ (three ++ (four ++ five))), by simp, ?_, ?_, ?_⟩
  · simp only [core_append, hyphen, core1, core2, core3, core4, core5]
  · simp only [List.length_append, length1, length2, length3, length4, length5]
  · simp only [number, List.foldl_append]

/-- Whichever way an identifier is spelled, what counts of the text ends in its 32 digits. -/
theorem ofChars?_eq_some {text : List Char} {uuid : Uuid} (read : ofChars? text = some uuid) :
    ∃ label digits, core text = label ++ digits ∧ digits.length = 32 ∧
      uuid.value = number 0 digits := by
  have ended {ending : List Char} {result : Option (Nat × List Char)}
      (read : upTo ending result = some uuid) : result = some (uuid.value, ending) := by
    unfold upTo at read
    split at read
    · split at read
      · next same =>
        obtain rfl := Option.some.inj read
        rw [same]
      · cases read
    · cases read
  unfold ofChars? at read
  split at read
  · obtain ⟨digits, rfl, length, all, same⟩ := digits?_eq_some (ended read)
    exact ⟨[], digits, by rw [List.append_nil, all, List.nil_append], length, same⟩
  · split at read
    · next rest =>
      obtain ⟨body, digits, rfl, counted, length, same⟩ := grouped?_eq_some (ended read)
      refine ⟨[], digits, ?_, length, same⟩
      -- Neither of the braces counts.
      have braces : core ('\x7b' :: (body ++ ['\x7d'])) = core body ++ core ['\x7d'] :=
        core_append body _
      rw [braces, counted]
      exact List.append_nil digits
    · split at read
      -- What counts of the label stands before the digits, whichever case its letters have.
      · obtain ⟨body, digits, whole, counted, length, same⟩ := grouped?_eq_some (ended read)
        refine ⟨core (text.take urn.length), digits, ?_, length, same⟩
        rw [← counted, ← core_append, ← body.append_nil, ← whole, List.take_append_drop]
      · obtain ⟨body, digits, rfl, counted, length, same⟩ := grouped?_eq_some (ended read)
        exact ⟨[], digits, by rw [List.append_nil, counted, List.nil_append], length, same⟩

end Uuid

/-- A query that is accepted has no conversation or one with a proper identifier. -/
theorem Query.exists_uuid_of_validate {query : Query} {id : String}
    (accepted : query.validate = .ok ()) (given : query.conversationId = some id) :
    ∃ uuid, Uuid.ofText? id = some uuid := by
  unfold validate at accepted
  split at accepted
  · cases accepted
  · split at accepted
    · cases accepted
    · next proper =>
      rw [given, Option.filter_some] at proper
      refine Option.isSome_iff_exists.1 (Option.isSome_iff_ne_none.2 fun none => ?_)
      simp [none] at proper

namespace TranscriptStore

/-- The directory name of a conversation tells the identifier that its text spells. -/
theorem uuid_eq_of_conversationName {first second : String} {one other : Uuid}
    (read : Uuid.ofText? first = some one) (read' : Uuid.ofText? second = some other)
    (same : conversationName first = conversationName second) : one = other := by
  have named {text : String} {uuid : Uuid} (read : Uuid.ofText? text = some uuid) :
      ∃ label digits, (conversationName text).toList.filter (· != '-') = label ++ digits ∧
        digits.length = 32 ∧ uuid.value = Uuid.number 0 digits := by
    obtain ⟨label, digits, counted, length, value⟩ := Uuid.ofChars?_eq_some read
    rw [Uuid.core, ← List.filter_filter] at counted
    have kept : ¬ (text.toList.filter isSafe).isEmpty = true := by
      intro none
      have counts := congrArg List.length counted
      rw [List.isEmpty_iff.1 none, List.length_append, length] at counts
      cases counts
    refine ⟨label, digits, ?_, length, value⟩
    rw [conversationName, if_neg kept, String.toList_ofList, counted]
  obtain ⟨label, digits, whole, length, value⟩ := named read
  obtain ⟨label', digits', whole', length', value'⟩ := named read'
  rw [same, whole'] at whole
  obtain ⟨-, rfl⟩ := List.append_inj' whole (length'.trans length.symm)
  cases one
  cases other
  exact congrArg Uuid.mk (value.trans value'.symm)

/-- Conversations that are admitted under different identifiers never share a directory, in
whichever ways the identifiers are spelled. -/
theorem conversations_stay_apart (store : TranscriptStore) (userId : String) {first second : Query}
    (accepted : first.validate = .ok ()) (accepted' : second.validate = .ok ())
    {firstId secondId : String} (given : first.conversationId = some firstId)
    (given' : second.conversationId = some secondId) :
    ∃ one other, Uuid.ofText? firstId = some one ∧ Uuid.ofText? secondId = some other ∧
      (one ≠ other → store.directory userId firstId ≠ store.directory userId secondId) := by
  obtain ⟨one, read⟩ := Query.exists_uuid_of_validate accepted given
  obtain ⟨other, read'⟩ := Query.exists_uuid_of_validate accepted' given'
  refine ⟨one, other, read, read', fun different shared => different ?_⟩
  have same : conversationName firstId = conversationName secondId :=
    (isName_conversationName firstId).join_inj (isName_conversationName secondId) shared
  exact uuid_eq_of_conversationName read read' same

/-- A conversation that is spelled in braces and one that is spelled as a name lie apart. -/
theorem braced_and_named_stay_apart :
    let braced := "\x7b00000000-0000-4000-8000-00000000000A\x7d"
    let named := "URN:uuid:00000000-0000-4000-8000-00000000000b"
    let ask (id : String) : Query := ⟨"hello", some id, none, none, none⟩
    let store : TranscriptStore := { root := "t", pepper := some "secret" }
    (ask braced).validate = .ok () ∧ (ask named).validate = .ok () ∧
      store.directory "alice" braced ≠ store.directory "alice" named := by
  intro braced named ask store
  have accepted {id : String} (proper : (Uuid.ofText? id).isSome = true) :
      (ask id).validate = .ok () := by
    have spoken : Text.isBlankText "hello" = false := by decide
    have fits : (some id).filter (fun id => (Uuid.ofText? id).isNone) = none := by
      rw [Option.filter_some, if_neg (by simpa using Option.isSome_iff_ne_none.1 proper)]
    simp only [ask, Query.validate, spoken, fits, Bool.false_eq_true, if_false]
  have first := @accepted braced (by decide +kernel)
  have second := @accepted named (by decide +kernel)
  obtain ⟨one, other, read, read', apart⟩ :=
    conversations_stay_apart store "alice" first second rfl rfl
  refine ⟨first, second, apart ?_⟩
  rintro rfl
  have different : Uuid.ofText? braced ≠ Uuid.ofText? named := by decide +kernel
  exact different (read.trans read'.symm)

end TranscriptStore

end TokenRelay
