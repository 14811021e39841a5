/-
# Hexadecimal digits

Supplies the hexadecimal digits of numbers below sixteen, the reading of a digit in either case,
and the text of a byte sequence with two lower-case digits for every byte.
-/

namespace TokenRelay.Text.Hex

/-- The lower-case digit of a number below sixteen. -/
def digit (value : Nat) : Char :=
  if value < 10 then Char.ofNat (48 + value) else Char.ofNat (87 + value)

/-- The number that a digit of either case stands for. -/
def value? (character : Char) : Option Nat :=
  if '0' ≤ character ∧ character ≤ '9' then some (character.toNat - 48)
  else if 'a' ≤ character ∧ character ≤ 'f' then some (character.toNat - 87)
  else if 'A' ≤ character ∧ character ≤ 'F' then some (character.toNat - 55)
  else none

/-- Every number below sixteen reads back from its digit. -/
theorem value?_digit : ∀ value < 16, value? (digit value) = some value := by decide

/-- Two digits for every byte, the high half first. -/
def encode (bytes : List UInt8) : List Char :=
  bytes.flatMap fun byte => [digit (byte.toNat / 16), digit (byte.toNat % 16)]

end TokenRelay.Text.Hex
