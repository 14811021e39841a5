/-
# Natural numbers in text

Supplies the reading of a natural number below a bound. The digits may follow a plus sign. Of a text
that is no number and of one that is too large, the fault further left is reported.
-/

namespace TokenRelay.Text

/-- Why a text is no natural number below a bound. -/
inductive NumeralError where
  | empty
  | invalidDigit
  | tooLarge
  deriving DecidableEq, Repr

/-- The text of the error. -/
def NumeralError.message : NumeralError → String
  | .empty => "cannot parse integer from empty string"
  | .invalidDigit => "invalid digit found in string"
  | .tooLarge => "number too large to fit in target type"

/-- Reads digits onto a number that stays below a bound. -/
def naturalFrom (bound value : Nat) : List Char → Except NumeralError Nat
  | [] => .ok value
  | character :: rest =>
    if '0' ≤ character ∧ character ≤ '9' then
      let next := value * 10 + (character.toNat - 48)
      if next < bound then naturalFrom bound next rest else .error .tooLarge
    else .error .invalidDigit

/-- The natural number that a text denotes, which has to be below a bound. -/
def natural (bound : Nat) (text : String) : Except NumeralError Nat :=
  match text.toList with
  | [] => .error .empty
  | ['+'] => .error .invalidDigit
  | '+' :: digits => naturalFrom bound 0 digits
  | digits => naturalFrom bound 0 digits

end TokenRelay.Text
