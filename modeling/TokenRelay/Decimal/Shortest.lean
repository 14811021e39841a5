/-
# The shortest decimal that reads back

Supplies the decimal text of a finite binary floating-point number. `shortest` works on the number
itself, mantissa and power of two, in exact natural-number arithmetic: of all decimals that round
to the number it takes one with the fewest digits, and of those the nearest. `Layout` then says how
such a decimal is written down, so the choice of digits and the choice of notation stay apart.
-/

namespace TokenRelay.Decimal

/-- A positive number `mantissa * 2 ^ exponent`, and whether it is the least mantissa of its
exponent, so that the number below it is only half as far away as the one above. -/
structure Binary where
  mantissa : Nat
  exponent : Int
  atBoundary : Bool

/-- The leading bit of a mantissa, which is not stored. -/
def hiddenBit : Nat := 0x10000000000000

/-- The finite positive number with the given bit pattern, the sign bit left out of account. -/
def Binary.ofBits (bits : UInt64) : Binary :=
  let fraction := bits.toNat % hiddenBit
  let biased := bits.toNat / hiddenBit % 0x800
  if biased = 0 then ⟨fraction, -1074, false⟩
  else ⟨fraction + hiddenBit, (biased : Int) - 1075, fraction = 0 && decide (1 < biased)⟩

/-- A decimal number `digits * 10 ^ exponent`. -/
structure Numeral where
  digits : Nat
  exponent : Int
  deriving DecidableEq, Repr

/-- The factors that bring `a * 10 ^ tens` and `b * 2 ^ twos` to a common scale, as natural
numbers: the first belongs to `a`, the second to `b`. -/
def commonScale (tens twos : Int) : Nat × Nat :=
  (Nat.pow 10 tens.toNat * Nat.pow 2 (-twos).toNat,
    Nat.pow 2 twos.toNat * Nat.pow 10 (-tens).toNat)

/-- The decimals that round to a number, measured in quarters of its last binary place. -/
structure Interval where
  low : Nat
  value : Nat
  high : Nat
  /-- The power of two of a quarter of the last binary place. -/
  scale : Int
  /-- Whether the ends round to the number as well. -/
  closed : Bool

/-- The decimals that round to a number: half a place to either side, a quarter below when the
number below is nearer; ties go to even mantissas, so the ends belong to those. -/
def Binary.interval (number : Binary) : Interval where
  low := 4 * number.mantissa - (if number.atBoundary then 1 else 2)
  value := 4 * number.mantissa
  high := 4 * number.mantissa + 2
  scale := number.exponent - 2
  closed := number.mantissa % 2 == 0

/-- Whether `candidate * 10 ^ tens` rounds to the number. -/
def Interval.contains (interval : Interval) (candidate : Nat) (tens : Int) : Bool :=
  let (forDecimal, forBinary) := commonScale tens interval.scale
  let point := candidate * forDecimal
  if interval.closed then
    interval.low * forBinary ≤ point && point ≤ interval.high * forBinary
  else interval.low * forBinary < point && point < interval.high * forBinary

/-- Of the two neighbours of the number on the grid of the given power of ten, the one that rounds
to the number and is nearer; the even one when both are equally near. -/
def Interval.onGrid? (interval : Interval) (tens : Int) : Option Nat :=
  let (forDecimal, forBinary) := commonScale tens interval.scale
  let below := interval.value * forBinary / forDecimal
  let rest := interval.value * forBinary - below * forDecimal
  let belowFits := interval.contains below tens
  let aboveFits := interval.contains (below + 1) tens
  if belowFits && aboveFits then
    if 2 * rest < forDecimal then some below
    else if forDecimal < 2 * rest then some (below + 1)
    else if below % 2 = 0 then some below else some (below + 1)
  else if belowFits then some below
  else if aboveFits then some (below + 1)
  else none

/-- The power of ten of the leading digit of a number. -/
def Interval.leadingPlace (interval : Interval) : Int :=
  let places := (List.range 634).map fun (step : Nat) => (309 : Int) - step
  (places.find? fun place =>
    let (forDecimal, forBinary) := commonScale place interval.scale
    decide (forDecimal ≤ interval.value * forBinary)).getD (-324)

/-- The first grid with a hit, from the given number of digits on. -/
def firstGrid (interval : Interval) (leading : Int) : Nat → Nat → Numeral
  | _, 0 => ⟨0, 0⟩
  | count, fuel + 1 =>
    let tens := leading - count
    match interval.onGrid? tens with
    | some digits => ⟨digits, tens⟩
    | none => firstGrid interval leading (count + 1) fuel

/-- The shortest decimal that rounds to a positive number, the nearest of those of that length.
Seventeen digits always suffice. -/
def Binary.shortest (number : Binary) : Numeral :=
  let interval := number.interval
  firstGrid interval interval.leadingPlace 0 18

/-- How a decimal is written: where positional notation ends, and how exponents look. -/
structure Layout where
  /-- The least power of ten of a leading digit that is written positionally. -/
  least : Int
  /-- The greatest power of ten of a leading digit that is written positionally. -/
  greatest : Int
  /-- The text before an exponent that is not negative. -/
  raised : String
  /-- The text before the magnitude of a negative exponent. -/
  lowered : String

/-- A positive decimal in the given layout. Whole numbers keep one zero after the point in
positional notation. -/
def Layout.write (layout : Layout) (decimal : Numeral) : String :=
  let digits := Nat.toDigits 10 decimal.digits
  let leading := decimal.exponent + digits.length - 1
  if layout.least ≤ leading ∧ leading ≤ layout.greatest then
    if 0 ≤ decimal.exponent then
      String.ofList (digits ++ List.replicate decimal.exponent.toNat '0') ++ ".0"
    else if 0 ≤ leading then
      String.ofList (digits.take (leading.toNat + 1)) ++ "." ++
        String.ofList (digits.drop (leading.toNat + 1))
    else
      "0." ++ String.ofList (List.replicate (-leading - 1).toNat '0' ++ digits)
  else
    let fraction := digits.drop 1
    let significand :=
      if fraction.isEmpty then String.ofList digits
      else String.ofList (digits.take 1) ++ "." ++ String.ofList fraction
    let mark := if 0 ≤ leading then layout.raised else layout.lowered
    significand ++ mark ++ toString leading.natAbs

end TokenRelay.Decimal
