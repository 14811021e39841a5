/-
# Base64 for addresses

Supplies the reading of bytes written in base64 with the alphabet that is safe in addresses and
without padding. The reading is strict: every byte sequence has one written form.
-/

namespace TokenRelay.Text.Base64Url

/-- The six bits that a character stands for. -/
def value? (character : Char) : Option Nat :=
  if 'A' ≤ character ∧ character ≤ 'Z' then some (character.toNat - 65)
  else if 'a' ≤ character ∧ character ≤ 'z' then some (character.toNat - 71)
  else if '0' ≤ character ∧ character ≤ '9' then some (character.toNat + 4)
  else if character = '-' then some 62
  else if character = '_' then some 63
  else none

/-- The bytes that the given six-bit groups make up, four groups for three bytes. At the end two or
three groups may be left; the bits that belong to no byte must be zero. -/
def assemble : List Nat → Option (List UInt8)
  | first :: second :: third :: fourth :: rest =>
    (assemble rest).map fun bytes =>
      UInt8.ofNat (first * 4 + second / 16) :: UInt8.ofNat (second % 16 * 16 + third / 4) ::
        UInt8.ofNat (third % 4 * 64 + fourth) :: bytes
  | [first, second, third] =>
    if third % 4 = 0 then
      some [UInt8.ofNat (first * 4 + second / 16), UInt8.ofNat (second % 16 * 16 + third / 4)]
    else none
  | [first, second] =>
    if second % 16 = 0 then some [UInt8.ofNat (first * 4 + second / 16)] else none
  | [_] => none
  | [] => some []

/-- The bytes that a text stands for. -/
def decode? (text : List Char) : Option (List UInt8) :=
  match text.mapM value? with
  | some groups => assemble groups
  | none => none

end TokenRelay.Text.Base64Url
