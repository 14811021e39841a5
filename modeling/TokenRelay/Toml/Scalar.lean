/-
# Scalars of TOML

Supplies the reading of a word that stands where a value belongs: a truth value, an integer, a
number with a point or an exponent, or a moment. Only the kinds whose values are of use here keep
them; of a number with a point it is remembered whether a floating-point number can hold it.
-/

import TokenRelay.Text.Hex
import TokenRelay.Timestamp.Basic

namespace TokenRelay.Toml

/-- A value without parts. -/
inductive Scalar where
  | bool (value : Bool)
  | integer (value : Int)
  /-- A number with a point or an exponent, an infinity, or no number. -/
  | decimal (representable : Bool)
  /-- A date, a time of day, or both. -/
  | moment
  | string (text : String)
  deriving DecidableEq, Repr

namespace Scalar

/-- The value of a digit below a base, which is at most sixteen. -/
def digit? (base : Nat) (character : Char) : Option Nat :=
  (Text.Hex.value? character).filter (· < base)

/-- The digits of a numeral. Single underscores may stand between digits. -/
def digits? (base : Nat) : List Char → Option (List Nat)
  | [] => none
  | [last] => (digit? base last).map fun digit => [digit]
  | first :: '_' :: rest =>
    match digit? base first, digits? base rest with
    | some digit, some digits => some (digit :: digits)
    | _, _ => none
  | first :: rest =>
    match digit? base first, digits? base rest with
    | some digit, some digits => some (digit :: digits)
    | _, _ => none

/-- The number that digits spell. -/
def valueOf (base : Nat) (digits : List Nat) : Nat :=
  digits.foldl (fun value digit => value * base + digit) 0

/-- The digits of a whole decimal number, which has no leading zeros. -/
def wholeDigits? (text : List Char) : Option (List Nat) :=
  (digits? 10 text).filter fun digits => digits.length = 1 || digits.head? ≠ some 0

/-- A sign, if there is one, and what follows it; the sign is `true` for minus. -/
def splitSign : List Char → Bool × List Char
  | '+' :: rest => (false, rest)
  | '-' :: rest => (true, rest)
  | text => (false, text)

/-- The integer that a word denotes. Bases other than ten come without a sign. -/
def integer? (text : List Char) : Option Int :=
  match text with
  | '0' :: 'x' :: rest => (digits? 16 rest).map fun digits => (valueOf 16 digits : Int)
  | '0' :: 'o' :: rest => (digits? 8 rest).map fun digits => (valueOf 8 digits : Int)
  | '0' :: 'b' :: rest => (digits? 2 rest).map fun digits => (valueOf 2 digits : Int)
  | _ =>
    let (negative, rest) := splitSign text
    (wholeDigits? rest).map fun digits =>
      if negative then -(valueOf 10 digits : Int) else (valueOf 10 digits : Int)

/-- The least magnitude that rounds to infinity: the greatest floating-point number and half a step
more. -/
def overflow : Nat := Nat.pow 2 1024 - Nat.pow 2 970

/-- Whether a floating-point number can hold the magnitude that digits denote, the last of which
stands at the given power of ten. -/
def isRepresentable (digits : List Nat) (exponent : Int) : Bool :=
  let significant := digits.dropWhile (· = 0)
  let order := (significant.length : Int) + exponent
  if significant.isEmpty || order < 309 then true
  else if 309 < order then false
  else
    valueOf 10 significant * Nat.pow 10 exponent.toNat <
      overflow * Nat.pow 10 (-exponent).toNat

/-- The exponent that its text denotes; no text at all denotes zero. -/
def exponent? : List Char → Option Int
  | [] => some 0
  | _ :: text =>
    let (negative, rest) := splitSign text
    (digits? 10 rest).map fun digits =>
      if negative then -(valueOf 10 digits : Int) else (valueOf 10 digits : Int)

/-- The digits of a fraction, which starts with its point; no text at all has none. -/
def fraction? : List Char → Option (List Nat)
  | [] => some []
  | _ :: text => digits? 10 text

/-- The number with a point or an exponent that a word denotes. -/
def decimal? (text : List Char) : Option Scalar :=
  let (_, rest) := splitSign text
  if rest = ['i', 'n', 'f'] ∨ rest = ['n', 'a', 'n'] then some (.decimal true)
  else
    let (mantissa, power) := rest.span fun character => character ≠ 'e' && character ≠ 'E'
    let (whole, point) := mantissa.span (· ≠ '.')
    if point.isEmpty && power.isEmpty then none
    else
      match wholeDigits? whole, fraction? point, exponent? power with
      | some whole, some fraction, some exponent =>
        some (.decimal (isRepresentable (whole ++ fraction) (exponent - fraction.length)))
      | _, _, _ => none

/-- A number of exactly so many decimal digits, and what follows it. -/
def fixed? : Nat → Nat → List Char → Option (Nat × List Char)
  | 0, value, text => some (value, text)
  | count + 1, value, first :: rest =>
    match digit? 10 first with
    | some digit => fixed? count (value * 10 + digit) rest
    | none => none
  | _ + 1, _, [] => none

/-- What follows a given character. -/
def after? (mark : Char) : List Char → Option (List Char)
  | first :: rest => if first = mark then some rest else none
  | [] => none

/-- What follows a date at the start of a text. -/
def afterDate? (text : List Char) : Option (List Char) := do
  let (year, text) ← fixed? 4 0 text
  let text ← after? '-' text
  let (month, text) ← fixed? 2 0 text
  let text ← after? '-' text
  let (day, text) ← fixed? 2 0 text
  if 1 ≤ month ∧ month ≤ 12 ∧ 1 ≤ day ∧ day ≤ Timestamp.daysInMonth year month then some text
  else none

/-- What follows a fraction of a second; a fraction need not be there. -/
def afterFraction? : List Char → Option (List Char)
  | '.' :: rest =>
    let after := rest.dropWhile fun character => (digit? 10 character).isSome
    if after.length < rest.length then some after else none
  | text => some text

/-- What follows seconds; they need not be there. -/
def afterSeconds? : List Char → Option (List Char)
  | ':' :: rest =>
    match fixed? 2 0 rest with
    | some (second, rest) => if second ≤ 60 then afterFraction? rest else none
    | none => none
  | text => some text

/-- What follows hours and minutes. -/
def afterMinutes? (text : List Char) : Option (List Char) := do
  let (hour, text) ← fixed? 2 0 text
  let text ← after? ':' text
  let (minute, text) ← fixed? 2 0 text
  if hour < 24 ∧ minute < 60 then some text else none

/-- What follows a time of day at the start of a text. -/
def afterTime? (text : List Char) : Option (List Char) :=
  (afterMinutes? text).bind afterSeconds?

/-- Whether a text is an offset from universal time. -/
def isOffset : List Char → Bool
  | ['Z'] | ['z'] => true
  | '+' :: rest | '-' :: rest => afterMinutes? rest == some []
  | _ => false

/-- Whether a word is a date and nothing else. -/
def isDate (text : List Char) : Bool :=
  afterDate? text == some []

/-- Whether a text is a moment: a date, a time of day, or a date and a time, in which case an
offset may follow. -/
def isMoment (text : List Char) : Bool :=
  match afterDate? text with
  | some [] => true
  | some (separator :: rest) =>
    (separator = 'T' || separator = 't' || separator = ' ') &&
      match afterTime? rest with
      | some [] => true
      | some offset => isOffset offset
      | none => false
  | none => afterTime? text == some []

/-- The scalar that a word denotes. -/
def ofWord? (text : List Char) : Option Scalar :=
  if text = ['t', 'r', 'u', 'e'] then some (.bool true)
  else if text = ['f', 'a', 'l', 's', 'e'] then some (.bool false)
  else
    match integer? text with
    | some value => some (.integer value)
    | none =>
      match decimal? text with
      | some value => some value
      | none => if isMoment text then some .moment else none

end Scalar

end TokenRelay.Toml
