/-
# Reading timestamps

Supplies the reading of RFC 3339 texts: a date, the letter `T`, a time with or without a fraction,
and `Z` or an offset. The reader is lenient about what stands between the parts: blanks may precede
every part, numbers may have fewer digits, a blank may stand in place of `T`, a year may have a
sign, the colon of an offset may be missing, and `UTC` may stand in place of `Z`. Fraction digits
beyond the ninth are dropped.
-/

import TokenRelay.Text.Blank
import TokenRelay.Timestamp.Basic

namespace TokenRelay.Timestamp

/-- The value of a decimal digit. -/
def digitValue? (character : Char) : Option Nat :=
  if '0' ≤ character ∧ character ≤ '9' then some (character.toNat - 48) else none

/-- The digits at the start of a text, at most the given count of them, and what follows them. -/
def leadingDigits : Nat → List Char → List Nat × List Char
  | 0, text => ([], text)
  | _ + 1, [] => ([], [])
  | count + 1, character :: rest =>
    match digitValue? character with
    | none => ([], character :: rest)
    | some digit =>
      let (digits, after) := leadingDigits count rest
      (digit :: digits, after)

/-- The number that digits spell. -/
def numberOf (digits : List Nat) : Nat :=
  digits.foldl (fun value digit => value * 10 + digit) 0

/-- Blanks, and then a number of at least one and at most the given count of digits. -/
def number? (count : Nat) (text : List Char) : Option (Nat × List Char) :=
  match leadingDigits count (text.dropWhile Text.isBlank) with
  | ([], _) => none
  | (digits, rest) => some (numberOf digits, rest)

/-- Blanks, and then a number in the given range. -/
def bounded? (least greatest : Nat) (text : List Char) : Option (Nat × List Char) :=
  match number? 2 text with
  | some (value, rest) => if least ≤ value ∧ value ≤ greatest then some (value, rest) else none
  | none => none

/-- Blanks, and then the given character. -/
def mark? (mark : Char) (text : List Char) : Option (Unit × List Char) :=
  match text.dropWhile Text.isBlank with
  | character :: rest => if character = mark then some ((), rest) else none
  | [] => none

/-- Blanks, and then a year: up to four digits, or a sign and any number of digits. -/
def year? (text : List Char) : Option (Int × List Char) :=
  match text.dropWhile Text.isBlank with
  | '-' :: rest =>
    match leadingDigits rest.length rest with
    | ([], _) => none
    | (digits, after) => some (-(numberOf digits : Int), after)
  | '+' :: rest =>
    match leadingDigits rest.length rest with
    | ([], _) => none
    | (digits, after) => some ((numberOf digits : Int), after)
  | other => (number? 4 other).map fun part => ((part.1 : Int), part.2)

/-- The letter between date and time, in either case, or a single space. -/
def separator? : List Char → Option (Unit × List Char)
  | 'T' :: rest | 't' :: rest | ' ' :: rest => some ((), rest)
  | _ => none

/-- A fraction of a second in nanoseconds; zero if there is no point. -/
def fraction? : List Char → Option (Nat × List Char)
  | '.' :: rest =>
    match leadingDigits 9 rest with
    | ([], _) => none
    | (digits, after) =>
      some (numberOf digits * Nat.pow 10 (9 - digits.length),
        after.dropWhile fun character => (digitValue? character).isSome)
  | text => some (0, text)

/-- Two digits, of which the first is at most the given one. -/
def twoDigits? (greatest : Nat) : List Char → Option (Nat × List Char)
  | first :: second :: rest => do
    let high ← digitValue? first
    let low ← digitValue? second
    if high ≤ greatest then some (high * 10 + low, rest) else none
  | _ => none

/-- The minutes by which a local time is ahead of universal time. -/
def offset? (text : List Char) : Option (Int × List Char) := do
  let (sign, rest) ←
    match text with
    | '+' :: rest => some ((1 : Int), rest)
    | '-' :: rest | '\u2212' :: rest => some (-1, rest)
    | _ => none
  let (hours, rest) ← twoDigits? 9 rest
  let rest := rest.dropWhile fun character => character = ':' || Text.isBlank character
  let (minutes, rest) ← twoDigits? 5 rest
  if hours < 24 then some (sign * ((hours * 60 + minutes : Nat) : Int), rest) else none

/-- The name of universal time, or an offset in minutes. -/
def zone? (text : List Char) : Option (Int × List Char) :=
  if (text.take 3).map Char.toUpper = ['U', 'T', 'C'] then some (0, text.drop 3)
  else
    match text with
    | 'Z' :: rest | 'z' :: rest => some (0, rest)
    | _ => offset? text

/-- The years that have calendar dates. -/
def hasYear (moment : Timestamp) : Bool :=
  -262143 ≤ moment.year && moment.year ≤ 262142

/-- The moment that a list of characters denotes. -/
def ofChars? (text : List Char) : Option Timestamp := do
  let (year, text) ← year? text
  let ((), text) ← mark? '-' text
  let (month, text) ← bounded? 1 12 text
  let ((), text) ← mark? '-' text
  let (day, text) ← bounded? 1 31 text
  let ((), text) ← separator? text
  let (hour, text) ← bounded? 0 23 text
  let ((), text) ← mark? ':' text
  let (minute, text) ← bounded? 0 59 text
  let ((), text) ← mark? ':' text
  let (second, text) ← bounded? 0 60 text
  let (nanosecond, text) ← fraction? text
  let (ahead, text) ← zone? (text.dropWhile Text.isBlank)
  let here : Timestamp := ⟨year, month, day, hour, minute, second, nanosecond⟩
  let moment := here.addMinutes (-ahead)
  if (text.all Text.isBlank) && day ≤ daysInMonth year month && here.hasYear && moment.hasYear then
    some moment
  else none

/-- The moment that a text denotes. -/
def ofText? (text : String) : Option Timestamp :=
  ofChars? text.toList

end TokenRelay.Timestamp
