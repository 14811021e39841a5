/-
# Timestamps

Supplies moments in universal time as calendar fields, and their text. A leap second is second 60
of its minute, so a moment inside one is a moment of its own. The text is that of RFC 3339; it has
as few fraction digits as lose nothing, in groups of three.
-/

namespace TokenRelay

/-- A moment in universal time. -/
structure Timestamp where
  year : Int
  month : Nat
  day : Nat
  hour : Nat
  minute : Nat
  /-- Up to 60, which is a leap second. -/
  second : Nat
  nanosecond : Nat
  deriving DecidableEq, Repr

namespace Timestamp

/-- Whether a year has a 29th of February. -/
def isLeapYear (year : Int) : Bool :=
  year % 4 = 0 && (year % 100 ≠ 0 || year % 400 = 0)

/-- The number of days of a month. -/
def daysInMonth (year : Int) (month : Nat) : Nat :=
  if month = 2 then (if isLeapYear year then 29 else 28)
  else if month = 4 ∨ month = 6 ∨ month = 9 ∨ month = 11 then 30
  else 31

/-- The same time on the day before. -/
def dayBefore (moment : Timestamp) : Timestamp :=
  if 1 < moment.day then { moment with day := moment.day - 1 }
  else if 1 < moment.month then
    { moment with
      month := moment.month - 1, day := daysInMonth moment.year (moment.month - 1) }
  else { moment with year := moment.year - 1, month := 12, day := 31 }

/-- The same time on the day after. -/
def dayAfter (moment : Timestamp) : Timestamp :=
  if moment.day < daysInMonth moment.year moment.month then
    { moment with day := moment.day + 1 }
  else if moment.month < 12 then { moment with month := moment.month + 1, day := 1 }
  else { moment with year := moment.year + 1, month := 1, day := 1 }

/-- The moment the given number of minutes later, less than a day in either direction. -/
def addMinutes (moment : Timestamp) (minutes : Int) : Timestamp :=
  let total : Int := (moment.hour : Int) * 60 + moment.minute + minutes
  let atMinute (moment : Timestamp) (total : Int) : Timestamp :=
    { moment with hour := total.toNat / 60, minute := total.toNat % 60 }
  if total < 0 then atMinute moment.dayBefore (total + 1440)
  else if 1440 ≤ total then atMinute moment.dayAfter (total - 1440)
  else atMinute moment total

/-- The moment the given number of milliseconds after the start of 1970. Years are counted from
March, so that a leap day comes last, and 719468 days lie between the start of the count and the
start of 1970. -/
def ofMilliseconds (milliseconds : Nat) : Timestamp :=
  let seconds := milliseconds / 1000
  let days := seconds / 86400 + 719468
  let dayOfEra := days % 146097
  let yearOfEra := (dayOfEra - dayOfEra / 1460 + dayOfEra / 36524 - dayOfEra / 146096) / 365
  let dayOfYear := dayOfEra - (365 * yearOfEra + yearOfEra / 4 - yearOfEra / 100)
  let march := (5 * dayOfYear + 2) / 153
  let month := if march < 10 then march + 3 else march - 9
  let year := yearOfEra + days / 146097 * 400 + (if month ≤ 2 then 1 else 0)
  { year := year
    month := month
    day := dayOfYear - (153 * march + 2) / 5 + 1
    hour := seconds / 3600 % 24
    minute := seconds / 60 % 60
    second := seconds % 60
    nanosecond := milliseconds % 1000 * 1000000 }

/-- A number in at least the given count of digits, with zeros in front. -/
def padded (count value : Nat) : List Char :=
  let digits := Nat.toDigits 10 value
  List.replicate (count - digits.length) '0' ++ digits

/-- A year in four digits; years that need more, and years before the year zero, get a sign. -/
def yearText (year : Int) : List Char :=
  if 0 ≤ year ∧ year ≤ 9999 then padded 4 year.toNat
  else (if year < 0 then '-' else '+') :: padded 4 year.natAbs

/-- The fraction of a second: none, or three, six or nine digits. -/
def fractionText (nanosecond : Nat) : List Char :=
  if nanosecond = 0 then []
  else if nanosecond % 1000000 = 0 then '.' :: padded 3 (nanosecond / 1000000)
  else if nanosecond % 1000 = 0 then '.' :: padded 6 (nanosecond / 1000)
  else '.' :: padded 9 nanosecond

/-- The text of a moment, with the given name for universal time at its end. -/
def textWith (zone : List Char) (moment : Timestamp) : String :=
  String.ofList
    (yearText moment.year ++ '-' :: padded 2 moment.month ++ '-' :: padded 2 moment.day ++
      'T' :: padded 2 moment.hour ++ ':' :: padded 2 moment.minute ++
      ':' :: padded 2 moment.second ++ fractionText moment.nanosecond ++ zone)

/-- The text of a moment, with `Z` for universal time. -/
def text (moment : Timestamp) : String :=
  textWith ['Z'] moment

/-- The text of a moment, with an offset of zero for universal time. -/
def offsetText (moment : Timestamp) : String :=
  textWith ['+', '0', '0', ':', '0', '0'] moment

end Timestamp

end TokenRelay
