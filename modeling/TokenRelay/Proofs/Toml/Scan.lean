/-
# Scanning written TOML tokens

Supplies the written form of the tokens of TOML, and that scanning undoes writing. Strings are
written on one line between quotation marks, with escapes where a character cannot stand for itself.
A word or a run of blanks is known to be over only when the next token begins, and so is the empty
string, which might be the beginning of a long one; so the walk behind a token may still stand
inside it.
-/

import TokenRelay.Toml.Token

namespace TokenRelay.Toml.Token

/-- One character inside a string between quotation marks. -/
def escape (character : Char) : List Char :=
  if character = '"' ∨ character = '\\' then ['\\', character]
  else if isPlain character then [character]
  else
    let code := character.toNat
    ['\\', 'u', '0', '0', Text.Hex.digit (code / 16), Text.Hex.digit (code % 16)]

/-- The written form of a token. Strings are written on one line. -/
def text : Token → List Char
  | .dot => ['.']
  | .equals => ['=']
  | .comma => [',']
  | .openBracket => ['[']
  | .closeBracket => [']']
  | .openBrace => ['\x7b']
  | .closeBrace => ['\x7d']
  | .newline => ['\n']
  | .blank characters | .word characters => characters
  | .string text _ => '"' :: (text.toList.flatMap escape ++ ['"'])

/-- Tokens whose written form is theirs alone. -/
def IsWritten : Token → Prop
  | .blank characters =>
    characters ≠ [] ∧ ∀ character ∈ characters, character = ' ' ∨ character = '\t'
  | .word characters => characters ≠ [] ∧ ∀ character ∈ characters, isWord character = true
  | .string _ long => long = false
  | _ => True

/-- The written forms of the tokens cannot be told apart when one follows the other. -/
def blurs : Token → Token → Bool
  | .blank _, .blank _ | .word _, .word _ | .string _ _, .string _ _ => true
  | _, _ => false

/-- Written tokens that can be told apart from each other, and from the one before them. -/
inductive Apart : Option Token → List Token → Prop
  | nil (last : Option Token) : Apart last []
  | cons {last : Option Token} {token : Token} {rest : List Token}
      (clear : ∀ before ∈ last, blurs before token = false) (written : token.IsWritten)
      (apart : Apart (some token) rest) : Apart last (token :: rest)

/-- The walk right behind the written forms of tokens, given with the latest first. -/
def Walk.behind : List Token → Walk
  | .blank characters :: rest => ⟨rest, .blank characters.reverse⟩
  | .word characters :: rest => ⟨rest, .word characters.reverse⟩
  | .string "" false :: rest => ⟨rest, .quoted ⟨true, false⟩ (.opening 2) []⟩
  | tokens => ⟨tokens, .between⟩

theorem finish_behind (tokens : List Token) :
    (Walk.behind tokens).finish = some tokens.reverse := by
  unfold Walk.behind
  split
  · simp [Walk.finish]
  · simp [Walk.finish]
  · simp [Walk.finish, finished]
  · rfl

/-- The walk over more characters. -/
def Walk.over? (walk : Walk) (text : List Char) : Option Walk := text.foldlM Walk.step walk

@[simp]
theorem Walk.over?_nil (walk : Walk) : walk.over? [] = some walk := rfl

@[simp]
theorem Walk.over?_cons (walk : Walk) (character : Char) (text : List Char) :
    walk.over? (character :: text) = (walk.step character).bind (·.over? text) := rfl

theorem Walk.over?_append (walk : Walk) (first second : List Char) :
    walk.over? (first ++ second) = (walk.over? first).bind (·.over? second) :=
  List.foldlM_append

/-- The character does not go on with the token. -/
def isBehind : Token → Char → Bool
  | .blank _, next => next ≠ ' ' && next ≠ '\t'
  | .word _, next => !isWord next
  | .string _ _, next => next ≠ '"'
  | _, _ => true

/-- A character that does not go on with the latest token begins another one. -/
theorem step_behind {tokens : List Token} {next : Char}
    (behind : ∀ last ∈ tokens.head?, isBehind last next = true) :
    (Walk.behind tokens).step next = some (beginToken tokens next) := by
  unfold Walk.behind
  split
  · next characters rest =>
    have other := behind _ rfl
    simp only [isBehind, Bool.and_eq_true, decide_eq_true_eq] at other
    simp [Walk.step, other]
  · next characters rest =>
    have other := behind _ rfl
    simp only [isBehind, Bool.not_eq_true'] at other
    simp [Walk.step, other]
  · next rest =>
    have other := behind _ rfl
    simp only [isBehind, decide_eq_true_eq] at other
    simp [Walk.step, quotedStep, Form.mark, other, finished]
  · rfl

/-- A character that can be part of a word has no meaning of its own. -/
theorem beginToken_of_isWord {character : Char} (word : isWord character = true)
    (tokens : List Token) : beginToken tokens character = ⟨tokens, .word [character]⟩ := by
  unfold beginToken
  split
  case h_15 => rfl
  all_goals exact absurd word (by decide)

theorem over?_word (tokens : List Token) {more : List Char}
    (word : ∀ character ∈ more, isWord character = true) (found : List Char) :
    Walk.over? ⟨tokens, .word found⟩ more = some ⟨tokens, .word (more.reverse ++ found)⟩ := by
  induction more generalizing found with
  | nil => rfl
  | cons character rest ih =>
      rw [List.forall_mem_cons] at word
      simp [Walk.step, word.1, ih word.2]

theorem over?_blank (tokens : List Token) {more : List Char}
    (blank : ∀ character ∈ more, character = ' ' ∨ character = '\t') (found : List Char) :
    Walk.over? ⟨tokens, .blank found⟩ more = some ⟨tokens, .blank (more.reverse ++ found)⟩ := by
  induction more generalizing found with
  | nil => rfl
  | cons character rest ih =>
      rw [List.forall_mem_cons] at blank
      simp [Walk.step, blank.1, ih blank.2]

/-- A string between quotation marks. -/
def basic : Form := ⟨true, false⟩

/-- Where the string has been read up to some characters, the latest first. -/
def reading (characters : List Char) : Phase :=
  if characters.isEmpty then .opening 1 else .inside

theorem character?_toNat (character : Char) : character? character.toNat = some character := by
  have valid : character.toNat.isValidChar := character.valid
  rw [character?, dif_pos valid]
  exact congrArg some (Char.ext (UInt32.toNat_inj.1 rfl))

/-- The first character of a string is read like the others, unless it ends the string. -/
theorem step_reading (tokens : List Token) (characters : List Char) {next : Char}
    (other : next ≠ '"') :
    Walk.step ⟨tokens, .quoted basic (reading characters) characters⟩ next =
      insideStep tokens basic characters next := by
  cases characters <;> simp [Walk.step, quotedStep, reading, basic, Form.mark, other]

/-- What is no plain character has a code of two hexadecimal digits. -/
theorem toNat_lt_of_not_isPlain {character : Char} (special : isPlain character = false) :
    character.toNat < 0x80 := by
  simp only [isPlain, Bool.or_eq_false_iff, Bool.and_eq_false_iff, decide_eq_false_iff_not]
    at special
  omega

/-- One more digit of an escape with hexadecimal digits. -/
theorem step_unit (tokens : List Token) (characters : List Char) {next : Char} {digit : Nat}
    (read : Text.Hex.value? next = some digit) (owed value : Nat) :
    Walk.step ⟨tokens, .quoted basic (.unit (owed + 2) value) characters⟩ next =
      some ⟨tokens, .quoted basic (.unit (owed + 1) (value * 16 + digit)) characters⟩ := by
  simp [Walk.step, quotedStep, read]

/-- The last digit of an escape with hexadecimal digits. -/
theorem step_lastUnit (tokens : List Token) (characters : List Char) {next : Char} {digit : Nat}
    (read : Text.Hex.value? next = some digit) {value : Nat} {character : Char}
    (whole : value * 16 + digit = character.toNat) :
    Walk.step ⟨tokens, .quoted basic (.unit 1 value) characters⟩ next =
      some ⟨tokens, .quoted basic .inside (character :: characters)⟩ := by
  simp [Walk.step, quotedStep, read, whole, character?_toNat]

/-- An escaped character is read as itself. -/
theorem over?_escape (tokens : List Token) (characters : List Char) (character : Char) :
    Walk.over? ⟨tokens, .quoted basic (reading characters) characters⟩ (escape character) =
      some ⟨tokens, .quoted basic .inside (character :: characters)⟩ := by
  have escapes : Walk.step ⟨tokens, .quoted basic (reading characters) characters⟩ '\\' =
      some ⟨tokens, .quoted basic .escape characters⟩ := by
    rw [step_reading _ _ (by decide)]
    simp [insideStep, basic, Form.mark]
  by_cases marked : character = '"' ∨ character = '\\'
  · rw [escape, if_pos marked, Walk.over?_cons, escapes, Option.bind_some]
    rcases marked with rfl | rfl <;> rfl
  · obtain ⟨noMark, noBackslash⟩ := not_or.1 marked
    rw [escape, if_neg marked]
    by_cases plain : isPlain character = true
    · rw [if_pos plain]
      have step := step_reading tokens characters noMark
      simp only [Walk.over?_cons, Walk.over?_nil, step]
      simp [insideStep, basic, Form.mark, noMark, noBackslash, plain]
    · rw [if_neg plain]
      have small := toNat_lt_of_not_isPlain (by simpa using plain)
      have high := Text.Hex.value?_digit (character.toNat / 16) (by omega)
      have low := Text.Hex.value?_digit (character.toNat % 16) (by omega)
      have zero : Text.Hex.value? '0' = some 0 := by decide
      have whole : (((0 * 16 + 0) * 16 + 0) * 16 + character.toNat / 16) * 16 +
          character.toNat % 16 = character.toNat := by omega
      have unit : Walk.step ⟨tokens, .quoted basic .escape characters⟩ 'u' =
          some ⟨tokens, .quoted basic (.unit 4 0) characters⟩ := rfl
      simp only [Walk.over?_cons, escapes, unit, Option.bind_some, step_unit _ _ zero,
        step_unit _ _ high, Nat.zero_add, step_lastUnit _ _ low whole, Walk.over?_nil]

/-- So is a sequence of escaped characters. -/
theorem over?_escapes (tokens : List Token) (more characters : List Char) :
    Walk.over? ⟨tokens, .quoted basic (reading characters) characters⟩ (more.flatMap escape) =
      some ⟨tokens, .quoted basic (reading (more.reverse ++ characters))
        (more.reverse ++ characters)⟩ := by
  induction more generalizing characters with
  | nil => rfl
  | cons character rest ih =>
      rw [List.flatMap_cons, Walk.over?_append, over?_escape]
      have next := ih (character :: characters)
      simpa [reading] using next

/-- Behind the written form of a string the walk is behind its token. -/
theorem over?_string (tokens : List Token) (content : String) :
    (beginToken tokens '"').over? (content.toList.flatMap escape ++ ['"']) =
      some (Walk.behind (.string content false :: tokens)) := by
  have opened : beginToken tokens '"' = ⟨tokens, .quoted basic (reading []) []⟩ := rfl
  rw [opened, Walk.over?_append, over?_escapes, Option.bind_some, List.append_nil]
  by_cases empty : content = ""
  · subst empty
    rfl
  · have behind : Walk.behind (.string content false :: tokens) =
        ⟨.string content false :: tokens, .between⟩ := by
      unfold Walk.behind
      split
      case h_1 same => cases same
      case h_2 same => cases same
      case h_3 same => exact absurd (by cases same; rfl) empty
      case h_4 => rfl
    have some_read : content.toList ≠ [] := fun none => empty (String.toList_eq_nil_iff.1 none)
    rw [behind]
    simp [Walk.step, quotedStep, insideStep, reading, some_read, finished, basic, Form.mark]

/-- What can be told apart from a token does not go on with it. -/
theorem isBehind_of_blurs {before token : Token} (clear : blurs before token = false)
    (written : token.IsWritten) {first : Char} {rest : List Char}
    (starts : token.text = first :: rest) : isBehind before first = true := by
  cases token with
  | blank characters =>
      obtain rfl : characters = first :: rest := starts
      have blank := written.2 first List.mem_cons_self
      cases before with
      | blank _ => cases clear
      | _ => rcases blank with rfl | rfl <;> rfl
  | word characters =>
      obtain rfl : characters = first :: rest := starts
      have word := written.2 first List.mem_cons_self
      cases before with
      | word _ => cases clear
      | blank _ =>
          simp only [isBehind, Bool.and_eq_true, decide_eq_true_eq]
          constructor <;> rintro rfl <;> cases word
      | string _ _ =>
          simp only [isBehind, decide_eq_true_eq]
          rintro rfl
          cases word
      | _ => rfl
  | string _ _ =>
      obtain ⟨rfl, rfl⟩ := List.cons.inj starts
      cases before with
      | string _ _ => cases clear
      | _ => rfl
  | _ =>
      obtain ⟨rfl, rfl⟩ := List.cons.inj starts
      cases before <;> rfl

/-- Over the written form of a token the walk takes it up. -/
theorem over?_token {tokens : List Token} {token : Token}
    (clear : ∀ before ∈ tokens.head?, blurs before token = false) (written : token.IsWritten) :
    (Walk.behind tokens).over? token.text = some (Walk.behind (token :: tokens)) := by
  have begun {first : Char} {rest : List Char} (starts : token.text = first :: rest) :
      (Walk.behind tokens).over? token.text = (beginToken tokens first).over? rest := by
    have behind : ∀ before ∈ tokens.head?, isBehind before first = true :=
      fun before latest => isBehind_of_blurs (clear before latest) written starts
    rw [starts, Walk.over?_cons, step_behind behind, Option.bind_some]
  cases token with
  | blank characters =>
      obtain ⟨ne_nil, blank⟩ := written
      obtain ⟨first, rest, rfl⟩ := List.exists_cons_of_ne_nil ne_nil
      rw [List.forall_mem_cons] at blank
      have begin : beginToken tokens first = ⟨tokens, .blank [first]⟩ := by
        rcases blank.1 with rfl | rfl <;> rfl
      rw [begun rfl, begin, over?_blank tokens blank.2, ← List.reverse_cons]
      rfl
  | word characters =>
      obtain ⟨ne_nil, word⟩ := written
      obtain ⟨first, rest, rfl⟩ := List.exists_cons_of_ne_nil ne_nil
      rw [List.forall_mem_cons] at word
      rw [begun rfl, beginToken_of_isWord word.1, over?_word tokens word.2, ← List.reverse_cons]
      rfl
  | string content long =>
      obtain rfl : long = false := written
      rw [begun rfl, over?_string]
  | _ =>
      rw [begun rfl]
      rfl

/-- Over the written forms of tokens that can be told apart the walk takes up all of them. -/
theorem over?_tokens {tokens more : List Token} (apart : Apart tokens.head? more) :
    (Walk.behind tokens).over? (more.flatMap text) =
      some (Walk.behind (more.reverse ++ tokens)) := by
  induction more generalizing tokens with
  | nil => rfl
  | cons token rest ih =>
      cases apart with
      | cons clear written apart =>
          have others : (Walk.behind (token :: tokens)).over? (rest.flatMap text) =
              some (Walk.behind (rest.reverse ++ token :: tokens)) := ih apart
          rw [List.flatMap_cons, Walk.over?_append, over?_token clear written, Option.bind_some,
            others, List.reverse_cons, List.append_assoc, List.singleton_append]

/-- A text without a byte order mark is walked over from its start. -/
theorem scan_of_unmarked {characters : List Char} (unmarked : characters.head? ≠ some '\uFEFF') :
    scan characters = (Walk.start.over? characters).bind Walk.finish := by
  unfold scan Walk.over?
  split
  · exact absurd rfl unmarked
  · dsimp only
    cases characters.foldlM Walk.step .start <;> rfl

/-- Written tokens that can be told apart are read back. -/
theorem scan_text {tokens : List Token} (apart : Apart none tokens)
    (unmarked : (tokens.flatMap text).head? ≠ some '\uFEFF') :
    scan (tokens.flatMap text) = some tokens := by
  have start : Walk.start = Walk.behind [] := rfl
  have walked : (Walk.behind []).over? (tokens.flatMap text) =
      some (Walk.behind (tokens.reverse ++ [])) := over?_tokens apart
  rw [scan_of_unmarked unmarked, start, walked, Option.bind_some, finish_behind, List.append_nil,
    List.reverse_reverse]

end TokenRelay.Toml.Token
