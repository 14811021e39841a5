/-
# Scanning written tokens

Supplies that the walk over a text finds the tokens that the text was written with. Every token but
a number ends with its own last character; a number is known to be over when the next token or line
begins, and what is read of it is what its own text says. So texts that spell tokens can be put one
behind the other.
-/

import TokenRelay.Proofs.Json.Numeral

namespace TokenRelay

namespace Token

/-- The walk behind a text. -/
def Walk.over (walk : Walk) (text : List Char) : Walk := (text.map some).foldl Walk.step walk

@[simp]
theorem Walk.over_nil (walk : Walk) : walk.over [] = walk := rfl

@[simp]
theorem Walk.over_cons (walk : Walk) (character : Char) (text : List Char) :
    walk.over (character :: text) = (walk.step (some character)).over text := rfl

theorem Walk.over_append (walk : Walk) (first second : List Char) :
    walk.over (first ++ second) = (walk.over first).over second := by
  rw [Walk.over, List.map_append, List.foldl_append]
  rfl

/-- A walk that stands inside a number goes on with it. -/
theorem Walk.over_number {state state' : Place × Number.Numeral} {text : List Char}
    (read : text.foldlM grow state = some state') (tokens : List Token) :
    Walk.over ⟨tokens, .number state.1 state.2⟩ text = ⟨tokens, .number state'.1 state'.2⟩ := by
  induction text generalizing state with
  | nil =>
      cases read
      rfl
  | cons character rest ih =>
      rw [List.foldlM_cons] at read
      obtain ⟨next, grows, others⟩ := Option.bind_eq_some_iff.1 read
      rw [← ih others, Walk.over_cons]
      congr 1
      unfold grow at grows
      simp only [Walk.step]
      split at grows
      · next place numeral extended =>
        cases grows
        rw [extended]
      · cases grows
      · cases grows

/-- Where a value may begin, a digit begins a number. -/
theorem beginToken_of_grow {character : Char} {state : Place × Number.Numeral}
    (grows : grow (unread false) character = some state) (tokens : List Token) :
    beginToken tokens character = ⟨tokens, .number state.1 state.2⟩ := by
  cases value : digit? character with
  | none => simp [grow, unread, extend, value] at grows
  | some digit =>
      have bounds : '0' ≤ character ∧ character ≤ '9' :=
        (Option.ite_none_right_eq_some.1 value).1
      have other (mark : Char) (outside : mark < '0' ∨ '9' < mark) : character ≠ mark := by
        rintro rfl
        rcases outside with before | behind
        · exact absurd before (Char.not_lt.2 bounds.1)
        · exact absurd behind (Char.not_lt.2 bounds.2)
      unfold beginToken
      split
      all_goals try exact absurd rfl (other _ (by decide))
      simp only [value]
      simp only [grow, unread, extend, value] at grows
      cases digit <;> cases grows <;> rfl

/-- A walk that comes to a number stands inside it at its end. -/
theorem Walk.over_reading {text : List Char} {state : Place × Number.Numeral}
    (read : reading? text = some state) (ne_nil : text ≠ []) (tokens : List Token) :
    Walk.over ⟨tokens, .between⟩ text = ⟨tokens, .number state.1 state.2⟩ := by
  cases text with
  | nil => exact absurd rfl ne_nil
  | cons character rest =>
      unfold reading? at read
      split at read
      · next same =>
        cases same
        exact Walk.over_number read tokens
      · rw [List.foldlM_cons] at read
        obtain ⟨next, grows, others⟩ := Option.bind_eq_some_iff.1 read
        have begun : Walk.step ⟨tokens, .between⟩ (some character) =
            ⟨tokens, .number next.1 next.2⟩ := beginToken_of_grow grows tokens
        rw [Walk.over_cons, begun]
        exact Walk.over_number others tokens

/-- A walk that has found some tokens, the latest first. The last of them may be a number that goes
on as long as nothing else begins. -/
inductive Walk.Behind : List Token → Walk → Prop where
  | between (tokens : List Token) : Behind tokens ⟨tokens, .between⟩
  | number (tokens : List Token) {place : Place} {numeral : Number.Numeral}
      (complete : place.complete = true) :
      Behind (.number (Number.ofNumeral? numeral) :: tokens) ⟨tokens, .number place numeral⟩

/-- Characters that end a number. -/
def isDelimiter (character : Char) : Bool :=
  character = ',' || character = ']' || character = '\x7d' || character = '\n'

/-- Behind a delimiter the walk is where it would be without the number. -/
theorem Walk.Behind.step {tokens : List Token} {walk : Walk} (behind : Walk.Behind tokens walk)
    {character : Char} (delimits : isDelimiter character = true) :
    walk.step (some character) = beginToken tokens character := by
  cases behind with
  | between => rfl
  | @number tokens place numeral complete =>
      have closed : extend place numeral character = .closed := by
        simp only [isDelimiter, Bool.or_eq_true, decide_eq_true_eq] at delimits
        rcases delimits with ((rfl | rfl) | rfl) | rfl <;> cases place <;>
          first | rfl | cases complete
      simp only [Walk.step, closed]

/-- The end of the text ends a number as well. -/
theorem Walk.Behind.finish {tokens : List Token} {walk : Walk}
    (behind : Walk.Behind tokens walk) : walk.finish = tokens.reverse := by
  cases behind with
  | between => rfl
  | number tokens complete => simp only [Walk.finish, complete, if_true]

/-- Behind the text of a number the walk has found what the text says. -/
theorem Walk.behind_number {number : Number} (proper : number.Proper) (tokens : List Token) :
    Walk.Behind (.number number.reread :: tokens)
      (Walk.over ⟨tokens, .between⟩ number.text.toList) := by
  obtain ⟨numeral, read⟩ := Number.exists_numeral_text proper
  have ne_nil : number.text.toList ≠ [] := by
    intro empty
    rw [empty] at read
    cases read
  obtain ⟨⟨place, same⟩, reading, rfl⟩ := Option.map_eq_some_iff.1 read
  obtain ⟨reading, complete⟩ := Option.filter_eq_some_iff.1 reading
  rw [Walk.over_reading reading ne_nil, Number.reread, read]
  exact .number tokens complete

/-- Four hexadecimal digits spell a control character. -/
theorem Walk.over_unit (tokens : List Token) (characters : List Char) {code : Nat}
    (small : code < 0x20) :
    Walk.over ⟨tokens, .escaped ⟨characters, true, none⟩⟩
        ['u', '0', '0', Text.Hex.digit (code / 16), Text.Hex.digit (code % 16)] =
      ⟨tokens, .quoted ⟨Char.ofNat code :: characters, true, none⟩⟩ := by
  have zero : Text.Hex.value? '0' = some 0 := rfl
  have high := Text.Hex.value?_digit (code / 16) (by omega)
  have low := Text.Hex.value?_digit (code % 16) (by omega)
  have whole : code / 16 * 16 + code % 16 = code := by omega
  have plain : ¬ (0xD800 ≤ code ∧ code < 0xDC00) ∧ ¬ (0xDC00 ≤ code ∧ code < 0xE000) := by omega
  simp [Walk.step, escapedStep, zero, high, low, whole, Quoted.pushUnit, plain.1, plain.2]

/-- Inside a string an escaped character is appended as it is. -/
theorem Walk.over_escape (tokens : List Token) (characters : List Char) (character : Char) :
    Walk.over ⟨tokens, .quoted ⟨characters, true, none⟩⟩ (escape character) =
      ⟨tokens, .quoted ⟨character :: characters, true, none⟩⟩ := by
  unfold escape
  split
  · next same =>
    subst same
    rfl
  · next plain =>
    split
    · next same =>
      subst same
      rfl
    · next unescaped =>
      split
      · next control =>
        -- Five control characters are escaped by a letter, the others by their code.
        have same (code : Nat) (known : character.toNat = code) : character = Char.ofNat code := by
          rw [← known, Char.ofNat_toNat]
        split
        case h_6 =>
          have spelled := Walk.over_unit tokens characters control
          rw [Char.ofNat_toNat] at spelled
          exact spelled
        all_goals
          next known =>
          rw [same _ known]
          rfl
      · next printable => simp [Walk.step, plain, unescaped, printable, Quoted.push]

theorem Walk.over_quote (tokens : List Token) (text : String) :
    Walk.over ⟨tokens, .between⟩ (quote text) = ⟨.string (some text) :: tokens, .between⟩ := by
  have inside (rest characters : List Char) :
      Walk.over ⟨tokens, .quoted ⟨characters, true, none⟩⟩ (rest.flatMap escape) =
        ⟨tokens, .quoted ⟨rest.reverse ++ characters, true, none⟩⟩ := by
    induction rest generalizing characters with
    | nil => rfl
    | cons character rest ih =>
        rw [List.flatMap_cons, Walk.over_append, Walk.over_escape, ih]
        simp
  have opened : Walk.step ⟨tokens, .between⟩ (some '"') = ⟨tokens, .quoted .empty⟩ := rfl
  rw [quote, Walk.over_cons, opened, Walk.over_append, Quoted.empty, inside]
  simp [Walk.step, Quoted.close]

/-- What the walk finds of a token that was written. -/
def reread : Token → Token
  | .number (some value) => .number value.reread
  | token => token

/-- A text spells tokens: where a value or a key may begin, the walk over the text finds them. -/
def Spells (tokens : List Token) (text : List Char) : Prop :=
  ∀ earlier, Walk.Behind ((tokens.map reread).reverse ++ earlier)
    (Walk.over ⟨earlier, .between⟩ text)

/-- A text spells tokens behind a value as well, even behind a number that could go on. -/
def SpellsBehind (tokens : List Token) (text : List Char) : Prop :=
  ∀ ⦃earlier walk⦄, Walk.Behind earlier walk →
    Walk.Behind ((tokens.map reread).reverse ++ earlier) (walk.over text)

theorem SpellsBehind.spells {tokens : List Token} {text : List Char}
    (behind : SpellsBehind tokens text) : Spells tokens text :=
  fun earlier => behind (.between earlier)

theorem Spells.append {first second : List Token} {text text' : List Char}
    (spells : Spells first text) (behind : SpellsBehind second text') :
    Spells (first ++ second) (text ++ text') := by
  intro earlier
  rw [Walk.over_append]
  simpa using behind (spells earlier)

theorem spells_nil : Spells [] [] := fun earlier => .between earlier

/-- A token that ends with its last character. -/
theorem spells_singleton {token : Token} {text : List Char} (same : token.reread = token)
    (ends : ∀ earlier, Walk.over ⟨earlier, .between⟩ text = ⟨token :: earlier, .between⟩) :
    Spells [token] text := by
  intro earlier
  rw [ends]
  simpa [same] using Walk.Behind.between (token :: earlier)

theorem Spells.cons {token : Token} {tokens : List Token} {text text' : List Char}
    (same : token.reread = token)
    (ends : ∀ earlier, Walk.over ⟨earlier, .between⟩ text = ⟨token :: earlier, .between⟩)
    (spells : Spells tokens text') : Spells (token :: tokens) (text ++ text') := by
  intro earlier
  rw [Walk.over_append, ends]
  simpa [same] using spells (token :: earlier)

/-- A token of one character. -/
theorem Spells.mark {token : Token} {tokens : List Token} {text : List Char} {character : Char}
    (same : token.reread = token)
    (ends : ∀ earlier, beginToken earlier character = ⟨token :: earlier, .between⟩)
    (spells : Spells tokens text) : Spells (token :: tokens) (character :: text) :=
  have read : ∀ earlier, Walk.over ⟨earlier, .between⟩ [character] = ⟨token :: earlier, .between⟩ :=
    ends
  spells.cons same read

/-- A comma or the end of an array or object. -/
theorem Spells.behind {token : Token} {tokens : List Token} {text : List Char}
    {character : Char} (same : token.reread = token) (delimits : isDelimiter character = true)
    (ends : ∀ earlier, beginToken earlier character = ⟨token :: earlier, .between⟩)
    (spells : Spells tokens text) : SpellsBehind (token :: tokens) (character :: text) := by
  intro earlier walk behind
  rw [Walk.over_cons, behind.step delimits, ends]
  simpa [same] using spells (token :: earlier)

theorem spells_number {number : Number} (proper : number.Proper) :
    Spells [.number (some number)] number.text.toList :=
  fun earlier => by simpa [reread] using Walk.behind_number proper earlier

theorem spells_string (value : String) : Spells [.string (some value)] (quote value) :=
  spells_singleton rfl fun earlier => Walk.over_quote earlier value

theorem Spells.string {tokens : List Token} {text : List Char} (spells : Spells tokens text)
    (value : String) : Spells (.string (some value) :: tokens) (quote value ++ text) :=
  spells.cons rfl fun earlier => Walk.over_quote earlier value

/-- The texts of tokens, one behind the other, spell them. -/
def Found (tokens : List Token) : Prop := Spells tokens (tokens.flatMap text)

/-- They spell them behind a value as well. -/
def FoundBehind (tokens : List Token) : Prop := SpellsBehind tokens (tokens.flatMap text)

theorem Found.append {first second : List Token} (found : Found first)
    (behind : FoundBehind second) : Found (first ++ second) := by
  rw [Found, List.flatMap_append]
  exact Spells.append found behind

theorem found_singleton {token : Token} (spells : Spells [token] token.text) : Found [token] := by
  rwa [Found, List.flatMap_singleton]

end Token

mutual

/-- The numbers in a value, in the order in which they are written. -/
def Json.numbers : Json → List Number
  | .null | .bool _ | .string _ => []
  | .number value => [value]
  | .array items => Json.itemNumbers items
  | .object members => Json.memberNumbers members
termination_by structural value => value

/-- The numbers in the items of an array. -/
def Json.itemNumbers : List Json → List Number
  | [] => []
  | item :: rest => item.numbers ++ Json.itemNumbers rest
termination_by structural items => items

/-- The numbers in the values of an object. -/
def Json.memberNumbers : List (String × Json) → List Number
  | [] => []
  | (_, value) :: rest => value.numbers ++ Json.memberNumbers rest
termination_by structural members => members

end

open Token

mutual

/-- The texts of its tokens spell a value. -/
theorem Json.found_tokens : (value : Json) → (∀ number ∈ value.numbers, number.Proper) →
    Found value.tokens
  | .null, _ => found_singleton (spells_singleton rfl fun _ => rfl)
  | .bool true, _ => found_singleton (spells_singleton rfl fun _ => rfl)
  | .bool false, _ => found_singleton (spells_singleton rfl fun _ => rfl)
  | .number _, proper => found_singleton (spells_number (proper _ List.mem_cons_self))
  | .string text, _ => found_singleton (spells_string text)
  | .array items, proper => (Json.found_itemTokens items proper).cons rfl fun _ => rfl
  | .object members, proper => (Json.found_memberTokens members proper).cons rfl fun _ => rfl
termination_by structural value => value

theorem Json.found_itemTokens : (items : List Json) →
    (∀ number ∈ Json.itemNumbers items, number.Proper) → Found (Json.itemTokens items)
  | [], _ => found_singleton (spells_singleton rfl fun _ => rfl)
  | item :: rest, proper =>
    (Json.found_tokens item fun _ inside => proper _ (List.mem_append_left _ inside)).append
      (Json.found_furtherItemTokens rest fun _ inside =>
        proper _ (List.mem_append_right _ inside))
termination_by structural items => items

theorem Json.found_furtherItemTokens : (items : List Json) →
    (∀ number ∈ Json.itemNumbers items, number.Proper) →
    FoundBehind (Json.furtherItemTokens items)
  | [], _ => spells_nil.behind rfl rfl fun _ => rfl
  | item :: rest, proper =>
    have found :=
      (Json.found_tokens item fun _ inside => proper _ (List.mem_append_left _ inside)).append
        (Json.found_furtherItemTokens rest fun _ inside =>
          proper _ (List.mem_append_right _ inside))
    found.behind rfl rfl fun _ => rfl
termination_by structural items => items

theorem Json.found_memberTokens : (members : List (String × Json)) →
    (∀ number ∈ Json.memberNumbers members, number.Proper) → Found (Json.memberTokens members)
  | [], _ => found_singleton (spells_singleton rfl fun _ => rfl)
  | (key, value) :: rest, proper =>
    have found :=
      (Json.found_tokens value fun _ inside => proper _ (List.mem_append_left _ inside)).append
        (Json.found_furtherMemberTokens rest fun _ inside =>
          proper _ (List.mem_append_right _ inside))
    (found.cons rfl fun _ => rfl).string key
termination_by structural members => members

theorem Json.found_furtherMemberTokens : (members : List (String × Json)) →
    (∀ number ∈ Json.memberNumbers members, number.Proper) →
    FoundBehind (Json.furtherMemberTokens members)
  | [], _ => spells_nil.behind rfl rfl fun _ => rfl
  | (key, value) :: rest, proper =>
    have found :=
      (Json.found_tokens value fun _ inside => proper _ (List.mem_append_left _ inside)).append
        (Json.found_furtherMemberTokens rest fun _ inside =>
          proper _ (List.mem_append_right _ inside))
    ((found.cons rfl fun _ => rfl).string key).behind rfl rfl fun _ => rfl
termination_by structural members => members

end

/-- What is found in a text that spells tokens: these, with the numbers that are read from their
texts. -/
theorem Token.Spells.scan {tokens : List Token} {text : List Char} (spells : Spells tokens text) :
    scan (text.map some) = tokens.map Token.reread := by
  have behind := spells []
  rw [List.append_nil] at behind
  exact behind.finish.trans (List.reverse_reverse _)

/-- The text of a value spells it. -/
theorem Json.spells_compact (value : Json) (proper : ∀ number ∈ value.numbers, number.Proper) :
    Spells value.tokens value.compact.toList := by
  rw [Json.compact, String.toList_ofList]
  exact value.found_tokens proper

end TokenRelay
