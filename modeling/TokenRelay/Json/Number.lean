/-
# JSON numbers

Supplies the two kinds of number that a JSON text can hold here, how a written number is read, and
how a number is written. An integer that fits a signed or an unsigned 64-bit word stays exact;
every other number is a binary floating-point number.
-/

import TokenRelay.Decimal.Shortest

namespace TokenRelay

/-- A JSON number: an exact integer between `-2 ^ 63` and `2 ^ 64 - 1`, or a floating-point one. -/
inductive Number where
  | int (value : Int)
  | float (value : Float)

namespace Number

/-- A number as it is written: the digits of its parts, the latest first. -/
structure Numeral where
  negative : Bool
  whole : List Nat
  /-- The digits after the point, or `none` without a point. -/
  fraction : Option (List Nat)
  /-- The sign (`true` for minus) and the digits of the exponent, or `none` without one. -/
  exponent : Option (Bool × List Nat)

/-- Appends digits to a significand as long as it stays a 64-bit word; returns the significand and
how many digits were used. -/
def takeDigits (significand used : Nat) : List Nat → Nat × Nat
  | [] => (significand, used)
  | digit :: rest =>
    let next := significand * 10 + digit
    if next < UInt64.size then takeDigits next (used + 1) rest else (significand, used)

/-- A power of ten with an exponent of at most 308. -/
def powerOfTen (exponent : Nat) : Float :=
  Float.ofScientific 1 false exponent

/-- Divides by a power of ten in steps of at most 308 places, until nothing is left to divide. -/
def scaleDown (value : Float) (exponent : Nat) : Float :=
  if h : exponent ≤ 308 then value / powerOfTen exponent
  else if value == 0.0 then value
  else scaleDown (value / powerOfTen 308) (exponent - 308)
termination_by exponent

/-- `significand * 10 ^ exponent`, scaled in floating-point arithmetic; `none` when the magnitude
overflows. -/
def scaled (significand : Nat) (exponent : Int) : Option Float :=
  let value := significand.toUInt64.toFloat
  if 0 ≤ exponent then
    if exponent ≤ 308 then
      let product := value * powerOfTen exponent.toNat
      if product.isInf then none else some product
    else if value == 0.0 then some value else none
  else some (scaleDown value (-exponent).toNat)

/-- Attaches a sign; the negative of zero is a number of its own. -/
def signed (negative : Bool) (value : Float) : Number :=
  .float (if negative then -value else value)

/-- The value of a digit list, the latest digit first. -/
def valueOf (digits : List Nat) : Nat :=
  digits.reverse.foldl (fun value digit => value * 10 + digit) 0

/-- An exponent above this bound overflows every significand but zero. -/
def exponentBound : Nat := 0x80000000

/-- The number that a numeral denotes, or `none` when its magnitude overflows. A numeral without
point and exponent is an exact integer if it fits a word; `-0` is the floating-point zero with a
sign. All others keep the digits that fit a word and are scaled by a power of ten. -/
def ofNumeral? (numeral : Numeral) : Option Number :=
  let whole := numeral.whole.reverse
  let (significand, used) := takeDigits 0 0 whole
  let dropped := whole.length - used
  if dropped = 0 && numeral.fraction.isNone && numeral.exponent.isNone then
    if numeral.negative then
      if 0 < significand ∧ significand ≤ UInt64.size / 2 then some (.int (-(significand : Int)))
      else some (signed true significand.toUInt64.toFloat)
    else some (.int significand)
  else
    let fraction := (numeral.fraction.getD []).reverse
    let (significand, usedFraction) := takeDigits significand 0 fraction
    let scale : Int := (dropped : Int) - usedFraction
    match numeral.exponent with
    | none => (scaled significand scale).map (signed numeral.negative)
    | some (downward, digits) =>
      let magnitude := valueOf digits
      if exponentBound ≤ magnitude then
        if significand ≠ 0 && !downward then none else some (signed numeral.negative 0.0)
      else
        let shift : Int := if downward then -(magnitude : Int) else magnitude
        (scaled significand (scale + shift)).map (signed numeral.negative)

/-- Numbers between `1e-5` and `1e16` are written without exponent. -/
def layout : Decimal.Layout := ⟨-5, 15, "e+", "e-"⟩

/-- The text of a floating-point number: the shortest that reads back. There is no number for an
infinity or for no number, so both are written `null`. -/
def floatText (value : Float) : String :=
  let bits := value.toBits
  let sign := if UInt64.size / 2 ≤ bits.toNat then "-" else ""
  if value.isNaN || value.isInf then "null"
  else if value == 0.0 then sign ++ "0.0"
  else sign ++ layout.write (Decimal.Binary.ofBits bits).shortest

/-- The text of a number: an integer in decimal digits, a floating-point number in the shortest
form that reads back. -/
def text : Number → String
  | .int value => toString value
  | .float value => floatText value

end Number

end TokenRelay
