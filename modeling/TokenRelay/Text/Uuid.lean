/-
# Universally unique identifiers

Supplies identifiers of 128 bits and their four spellings: 32 hexadecimal digits; the digits in
groups of 8, 4, 4, 4 and 12 with hyphens between them; the grouped form in braces; and the grouped
form after `urn:uuid:`. Letters may have either case. Nothing is trimmed.
-/

import TokenRelay.Text.Hex

namespace TokenRelay

/-- An identifier of 128 bits. -/
structure Uuid where
  value : Nat
  deriving DecidableEq, Repr

namespace Uuid

/-- Reads hexadecimal digits onto a number; returns the number and what follows them. -/
def digits? : Nat → Nat → List Char → Option (Nat × List Char)
  | 0, value, text => some (value, text)
  | count + 1, value, character :: rest =>
    match Text.Hex.value? character with
    | some digit => digits? count (value * 16 + digit) rest
    | none => none
  | _ + 1, _, [] => none

/-- Reads a hyphen and then hexadecimal digits onto a number. -/
def group? (count : Nat) : Nat × List Char → Option (Nat × List Char)
  | (value, '-' :: rest) => digits? count value rest
  | _ => none

/-- Reads the grouped form; returns the number and what follows it. -/
def grouped? (text : List Char) : Option (Nat × List Char) := do
  let first ← digits? 8 0 text
  let second ← group? 4 first
  let third ← group? 4 second
  let fourth ← group? 4 third
  group? 12 fourth

/-- What the fourth spelling starts with, in lower case. -/
def urn : List Char := ['u', 'r', 'n', ':', 'u', 'u', 'i', 'd', ':']

/-- An identifier that was read to the given end of its text. -/
def upTo (ending : List Char) : Option (Nat × List Char) → Option Uuid
  | some (value, rest) => if rest = ending then some ⟨value⟩ else none
  | none => none

/-- The identifier that a list of characters spells. -/
def ofChars? (text : List Char) : Option Uuid :=
  if text.length = 32 then upTo [] (digits? 32 0 text)
  else
    match text with
    | '\x7b' :: rest => upTo ['\x7d'] (grouped? rest)
    | _ =>
      if (text.take urn.length).map Char.toLower = urn then
        upTo [] (grouped? (text.drop urn.length))
      else upTo [] (grouped? text)

/-- The identifier that a text spells. -/
def ofText? (text : String) : Option Uuid :=
  ofChars? text.toList

/-- The lower-case digits of a number, the given count of them. -/
def digits (value : Nat) : Nat → List Char
  | 0 => []
  | count + 1 => Text.Hex.digit (value / Nat.pow 16 count % 16) :: digits value count

/-- The grouped form in lower case. -/
def text (uuid : Uuid) : String :=
  let all := digits uuid.value 32
  let group (start count : Nat) : String := String.ofList ((all.drop start).take count)
  group 0 8 ++ "-" ++ group 8 4 ++ "-" ++ group 12 4 ++ "-" ++ group 16 4 ++ "-" ++ group 20 12

end Uuid

end TokenRelay
