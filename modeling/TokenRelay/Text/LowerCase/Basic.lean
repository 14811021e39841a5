/-
# Lower case

Supplies the lower-case form of a text by the full mapping of the Unicode standard. Two characters
need more than a table: the capital I with a dot becomes two characters, and the Greek capital sigma
becomes a final sigma at the end of a word, which is decided by the letters around it.
-/

import TokenRelay.Text.LowerCase.Table

namespace TokenRelay.Text

namespace LowerCase

/-- Whether a code point is in one of the ranges. -/
def inRanges (ranges : Array (Nat × Nat)) (code : Nat) : Bool :=
  ranges.any fun range => range.1 ≤ code && code ≤ range.2

/-- Whether a character has case. -/
def isCased (character : Char) : Bool := inRanges casedRanges character.toNat

/-- Whether a character is passed over when the neighbours of a letter are looked at. -/
def isIgnorable (character : Char) : Bool := inRanges ignorableRanges character.toNat

/-- Whether a span holds a code point. -/
def Span.contains (span : Span) (code : Nat) : Bool :=
  span.first ≤ code && code ≤ span.last && (code - span.first) % span.step == 0

/-- The lower-case form of one character, apart from its neighbours. -/
def ofChar (character : Char) : List Char :=
  let code := character.toNat
  if code < 0x80 then [character.toLower]
  else if code = 0x130 then ['i', '\u0307']
  else
    match spans.find? (·.contains code) with
    | some span => [Char.ofNat ((code : Int) + span.shift).toNat]
    | none => [character]

/-- Whether the first character that is not passed over has case. -/
def meetsCased (characters : List Char) : Bool :=
  match characters.dropWhile isIgnorable with
  | character :: _ => isCased character
  | [] => false

/-- The lower-case form of a character between the characters before it, the nearest first, and
those after it. -/
def inContext (before : List Char) (character : Char) (after : List Char) : List Char :=
  if character = 'Σ' then
    if meetsCased before && !meetsCased after then ['ς'] else ['σ']
  else ofChar character

/-- The lower-case form of a text, given the characters before it, the nearest first, and what has
been made of them, the latest first. -/
def lowerFrom (before done : List Char) : List Char → List Char
  | [] => done.reverse
  | character :: after =>
    lowerFrom (character :: before) ((inContext before character after).reverse ++ done) after

/-- The lower-case form of a list of characters. -/
def ofChars (characters : List Char) : List Char :=
  lowerFrom [] [] characters

end LowerCase

/-- The lower-case form of a text. -/
def lower (text : String) : String :=
  String.ofList (LowerCase.ofChars text.toList)

end TokenRelay.Text
