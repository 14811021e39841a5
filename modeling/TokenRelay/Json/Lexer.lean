/-
# Cutting a text into JSON tokens

Supplies `Token.scan`, which walks over a text once and gives its tokens. The text is a list of
characters with `none` where the bytes behind it are no UTF-8: such a place is allowed nowhere but
inside a string, and there it takes away the string's value. The walk is a fold, one state per
character, so it needs neither look-ahead nor fuel; a number is the one token that ends only with
the character after it.
-/

import TokenRelay.Json.Token

namespace TokenRelay.Token

/-- A quoted string while it is read. -/
structure Quoted where
  /-- The characters so far, the latest first. -/
  characters : List Char
  /-- Whether everything so far was a sequence of characters. -/
  sound : Bool
  /-- The first half of a surrogate pair that waits for its second half. -/
  half : Option Nat

namespace Quoted

/-- The string right after its opening quotation mark. -/
def empty : Quoted := ⟨[], true, none⟩

/-- Appends a character, or bytes that are none. -/
def push (quoted : Quoted) : Option Char → Quoted
  | some character => ⟨character :: quoted.characters, quoted.sound && quoted.half.isNone, none⟩
  | none => ⟨quoted.characters, false, none⟩

/-- Appends a 16-bit unit that was written as an escape: the two halves of a surrogate pair make
one character, and a half without its partner makes none. -/
def pushUnit (quoted : Quoted) (unit : Nat) : Quoted :=
  match quoted.half with
  | some high =>
    if 0xDC00 ≤ unit ∧ unit < 0xE000 then
      let code := 0x10000 + (high - 0xD800) * 0x400 + (unit - 0xDC00)
      ⟨Char.ofNat code :: quoted.characters, quoted.sound, none⟩
    else ⟨quoted.characters, false, none⟩
  | none =>
    if 0xD800 ≤ unit ∧ unit < 0xDC00 then ⟨quoted.characters, quoted.sound, some unit⟩
    else if 0xDC00 ≤ unit ∧ unit < 0xE000 then ⟨quoted.characters, false, none⟩
    else ⟨Char.ofNat unit :: quoted.characters, quoted.sound, none⟩

/-- The value of the string at its closing quotation mark. -/
def close (quoted : Quoted) : Option String :=
  if quoted.sound && quoted.half.isNone then some (String.ofList quoted.characters.reverse)
  else none

end Quoted

/-- How far a number has been read. -/
inductive Place where
  | minus
  | zero
  | whole
  | point
  | fraction
  | mark
  | markSign
  | exponent

/-- What the next character does to a number. -/
inductive Extension where
  /-- It belongs to the number. -/
  | more (place : Place) (numeral : Number.Numeral)
  /-- The number ended before it. -/
  | closed
  /-- The number is ill formed. -/
  | wrong

/-- The value of a decimal digit. -/
def digit? (character : Char) : Option Nat :=
  if '0' ≤ character ∧ character ≤ '9' then some (character.toNat - 48) else none

/-- What a character does after the digits before the point: it may open a fraction or an
exponent, and otherwise closes the number. -/
def afterWhole (numeral : Number.Numeral) (character : Char) : Extension :=
  if character = '.' then .more .point { numeral with fraction := some [] }
  else if character = 'e' ∨ character = 'E' then .more .mark numeral
  else .closed

/-- What a character does to a number that has been read up to the given place. -/
def extend (place : Place) (numeral : Number.Numeral) (character : Char) : Extension :=
  match place, digit? character with
  | .minus, some 0 => .more .zero { numeral with whole := [0] }
  | .minus, some digit => .more .whole { numeral with whole := [digit] }
  | .minus, none => .wrong
  | .zero, some _ => .wrong
  | .zero, none => afterWhole numeral character
  | .whole, some digit => .more .whole { numeral with whole := digit :: numeral.whole }
  | .whole, none => afterWhole numeral character
  | .point, some digit => .more .fraction { numeral with fraction := some [digit] }
  | .point, none => .wrong
  | .fraction, some digit =>
    .more .fraction { numeral with fraction := some (digit :: numeral.fraction.getD []) }
  | .fraction, none =>
    if character = 'e' ∨ character = 'E' then .more .mark numeral else .closed
  | .mark, some digit => .more .exponent { numeral with exponent := some (false, [digit]) }
  | .mark, none =>
    if character = '+' then .more .markSign { numeral with exponent := some (false, []) }
    else if character = '-' then .more .markSign { numeral with exponent := some (true, []) }
    else .wrong
  | .markSign, some digit =>
    .more .exponent { numeral with exponent := numeral.exponent.map fun part => (part.1, [digit]) }
  | .markSign, none => .wrong
  | .exponent, some digit =>
    .more .exponent
      { numeral with exponent := numeral.exponent.map fun part => (part.1, digit :: part.2) }
  | .exponent, none => .closed

/-- Whether a number may end at the given place. -/
def Place.complete : Place → Bool
  | .zero | .whole | .fraction | .exponent => true
  | .minus | .point | .mark | .markSign => false

/-- Where the walk stands between two characters. -/
inductive Mode where
  | between
  /-- Inside a word such as `null`, with the characters still owed. -/
  | word (owed : List Char) (token : Token)
  | quoted (text : Quoted)
  /-- Right after a backslash. -/
  | escaped (text : Quoted)
  /-- Inside a `\u` escape, with the number of digits still owed. -/
  | unit (text : Quoted) (owed : Nat) (value : Nat)
  | number (place : Place) (numeral : Number.Numeral)
  /-- Behind the end of everything that is JSON. -/
  | stuck

/-- A walk over a text: the tokens so far, the latest first, and where it stands. -/
structure Walk where
  tokens : List Token
  mode : Mode

/-- The walk before the first character. -/
def Walk.start : Walk := ⟨[], .between⟩

/-- No token can be made from here on. -/
def halt (tokens : List Token) : Walk := ⟨.stop :: tokens, .stuck⟩

/-- One character between two tokens. -/
def beginToken (tokens : List Token) (character : Char) : Walk :=
  match character with
  | ' ' | '\t' | '\n' | '\r' => ⟨tokens, .between⟩
  | '\x7b' => ⟨.openObject :: tokens, .between⟩
  | '\x7d' => ⟨.closeObject :: tokens, .between⟩
  | '[' => ⟨.openArray :: tokens, .between⟩
  | ']' => ⟨.closeArray :: tokens, .between⟩
  | ':' => ⟨.colon :: tokens, .between⟩
  | ',' => ⟨.comma :: tokens, .between⟩
  | 'n' => ⟨tokens, .word ['u', 'l', 'l'] .null⟩
  | 't' => ⟨tokens, .word ['r', 'u', 'e'] (.bool true)⟩
  | 'f' => ⟨tokens, .word ['a', 'l', 's', 'e'] (.bool false)⟩
  | '"' => ⟨tokens, .quoted .empty⟩
  | '-' => ⟨tokens, .number .minus ⟨true, [], none, none⟩⟩
  | _ =>
    match digit? character with
    | some 0 => ⟨tokens, .number .zero ⟨false, [0], none, none⟩⟩
    | some digit => ⟨tokens, .number .whole ⟨false, [digit], none, none⟩⟩
    | none => halt tokens

/-- One character right after a backslash. -/
def escapedStep (tokens : List Token) (text : Quoted) (character : Char) : Walk :=
  match character with
  | '"' => ⟨tokens, .quoted (text.pushUnit 0x22)⟩
  | '\\' => ⟨tokens, .quoted (text.pushUnit 0x5C)⟩
  | '/' => ⟨tokens, .quoted (text.pushUnit 0x2F)⟩
  | 'b' => ⟨tokens, .quoted (text.pushUnit 0x08)⟩
  | 'f' => ⟨tokens, .quoted (text.pushUnit 0x0C)⟩
  | 'n' => ⟨tokens, .quoted (text.pushUnit 0x0A)⟩
  | 'r' => ⟨tokens, .quoted (text.pushUnit 0x0D)⟩
  | 't' => ⟨tokens, .quoted (text.pushUnit 0x09)⟩
  | 'u' => ⟨tokens, .unit text 4 0⟩
  | _ => halt tokens

/-- One more character of the text, or bytes that are none. -/
def Walk.step (walk : Walk) (next : Option Char) : Walk :=
  match walk.mode, next with
  | .stuck, _ => walk
  | .quoted text, none => ⟨walk.tokens, .quoted (text.push none)⟩
  | .quoted text, some character =>
    if character = '"' then ⟨.string text.close :: walk.tokens, .between⟩
    else if character = '\\' then ⟨walk.tokens, .escaped text⟩
    else if character.toNat < 0x20 then halt walk.tokens
    else ⟨walk.tokens, .quoted (text.push (some character))⟩
  | .between, some character => beginToken walk.tokens character
  | .word owed token, some character =>
    match owed with
    | [] => halt walk.tokens
    | expected :: rest =>
      if character ≠ expected then halt walk.tokens
      else if rest.isEmpty then ⟨token :: walk.tokens, .between⟩
      else ⟨walk.tokens, .word rest token⟩
  | .escaped text, some character => escapedStep walk.tokens text character
  | .unit text owed value, some character =>
    match Text.Hex.value? character with
    | none => halt walk.tokens
    | some digit =>
      if owed ≤ 1 then ⟨walk.tokens, .quoted (text.pushUnit (value * 16 + digit))⟩
      else ⟨walk.tokens, .unit text (owed - 1) (value * 16 + digit)⟩
  | .number place numeral, some character =>
    match extend place numeral character with
    | .more place numeral => ⟨walk.tokens, .number place numeral⟩
    | .wrong => halt walk.tokens
    | .closed => beginToken (.number (Number.ofNumeral? numeral) :: walk.tokens) character
  | .number place numeral, none =>
    if place.complete then halt (.number (Number.ofNumeral? numeral) :: walk.tokens)
    else halt walk.tokens
  | .between, none | .word _ _, none | .escaped _, none | .unit _ _ _, none => halt walk.tokens

/-- The tokens of a finished walk: the end of the text closes a number and makes everything else
that is unfinished ill formed. -/
def Walk.finish (walk : Walk) : List Token :=
  match walk.mode with
  | .between | .stuck => walk.tokens.reverse
  | .number place numeral =>
    if place.complete then (.number (Number.ofNumeral? numeral) :: walk.tokens).reverse
    else (.stop :: walk.tokens).reverse
  | .word _ _ | .quoted _ | .escaped _ | .unit _ _ _ => (.stop :: walk.tokens).reverse

/-- The tokens of a text. -/
def scan (text : List (Option Char)) : List Token :=
  (text.foldl Walk.step .start).finish

end TokenRelay.Token
