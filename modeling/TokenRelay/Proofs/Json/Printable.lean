/-
# Values on one line

Supplies that the text of a value has no control characters. The only place where one could stand is
a string, of a key as well as of a value, and there every control character is escaped; so a text
never has a newline in it.
-/

import TokenRelay.Json.Token

namespace TokenRelay

/-- A text without control characters below the blank. -/
def Printable (text : List Char) : Prop := ∀ character ∈ text, 0x20 ≤ character.toNat

instance (text : List Char) : Decidable (Printable text) :=
  List.decidableBAll _ text

namespace Printable

theorem append {first second : List Char} (printable : Printable first)
    (printable' : Printable second) : Printable (first ++ second) :=
  List.forall_mem_append.2 ⟨printable, printable'⟩

theorem of_subset {part text : List Char} (printable : Printable text) (inside : part ⊆ text) :
    Printable part :=
  fun character within => printable character (inside within)

theorem flatMap {α : Type} {items : List α} {write : α → List Char}
    (printable : ∀ item, Printable (write item)) : Printable (items.flatMap write) := by
  intro character inside
  obtain ⟨item, -, within⟩ := List.mem_flatMap.1 inside
  exact printable item character within

theorem string_append {first second : String} (printable : Printable first.toList)
    (printable' : Printable second.toList) : Printable (first ++ second).toList := by
  rw [String.toList_append]
  exact printable.append printable'

theorem ofList {text : List Char} (printable : Printable text) :
    Printable (String.ofList text).toList := by
  rwa [String.toList_ofList]

/-- A printable text has no newline. -/
theorem newline_notMem {text : List Char} (printable : Printable text) : '\n' ∉ text :=
  fun inside => absurd (printable '\n' inside) (by decide)

theorem toDigits (number : Nat) : Printable (Nat.toDigits 10 number) := by
  intro character inside
  have digit := Nat.isDigit_of_mem_toDigits (by decide) (by decide) inside
  simp only [Char.isDigit, ge_iff_le, Bool.and_eq_true, decide_eq_true_eq] at digit
  exact Nat.le_trans (by decide) (UInt32.le_iff_toNat_le.1 digit.1)

theorem toString_nat (number : Nat) : Printable (toString number).toList := by
  have written : (toString number).toList = Nat.toDigits 10 number := by
    simp [Nat.repr_eq_ofList_toDigits]
  rw [written]
  exact toDigits number

theorem toString_int (value : Int) : Printable (toString value).toList := by
  cases value with
  | ofNat number => exact toString_nat number
  | negSucc number => exact string_append (by decide) (toString_nat (number + 1))

end Printable

/-- Every layout of a decimal is printable if its exponent marks are. -/
theorem Decimal.Layout.printable_write {layout : Decimal.Layout}
    (raised : Printable layout.raised.toList) (lowered : Printable layout.lowered.toList)
    (decimal : Decimal.Numeral) : Printable (layout.write decimal).toList := by
  have digits := Printable.toDigits decimal.digits
  have zeros (count : Nat) : Printable (List.replicate count '0') := by
    intro character inside
    rw [List.eq_of_mem_replicate inside]
    decide
  have taken (count : Nat) := (digits.of_subset (List.take_subset count _)).ofList
  have dropped (count : Nat) := (digits.of_subset (List.drop_subset count _)).ofList
  simp only [write]
  split
  · split
    · exact .string_append (digits.append (zeros _)).ofList (by decide)
    · split
      · exact .string_append (.string_append (taken _) (by decide)) (dropped _)
      · exact .string_append (by decide) ((zeros _).append digits).ofList
  · refine .string_append (.string_append ?_ ?_) (.toString_nat _)
    · split
      · exact digits.ofList
      · exact .string_append (.string_append (taken _) (by decide)) (dropped _)
    · split
      · exact raised
      · exact lowered

theorem Number.printable_text (number : Number) : Printable number.text.toList := by
  cases number with
  | int value => exact .toString_int value
  | float value =>
      have sign : Printable
          (if UInt64.size / 2 ≤ value.toBits.toNat then "-" else "").toList := by
        split <;> decide
      simp only [text, floatText]
      split
      · decide
      · split
        · exact .string_append sign (by decide)
        · exact .string_append sign (Decimal.Layout.printable_write (by decide) (by decide) _)

namespace Token

/-- Control characters are escaped. -/
theorem printable_escape (character : Char) : Printable (escape character) := by
  unfold escape
  split
  · decide
  · split
    · decide
    · split
      · next control =>
        split
        case h_6 =>
          have digit : ∀ value < 16, 0x20 ≤ (Text.Hex.digit value).toNat := by decide
          have high := digit (character.toNat / 16) (by omega)
          have low := digit (character.toNat % 16) (by omega)
          simp [Printable, high, low]
        all_goals decide
      · next visible => exact List.forall_mem_singleton.2 (Nat.le_of_not_lt visible)

theorem printable_text (token : Token) : Printable token.text := by
  cases token with
  | number value =>
      cases value with
      | none => decide
      | some number => exact number.printable_text
  | string value =>
      cases value with
      | none => decide
      | some text =>
          have mark : Printable ['"'] := by decide
          exact mark.append ((Printable.flatMap printable_escape).append mark)
  | bool value => cases value <;> decide
  | _ => decide

end Token

/-- The text of a value has no control characters. -/
theorem Json.printable_compact (value : Json) : Printable value.compact.toList :=
  (Printable.flatMap Token.printable_text).ofList

end TokenRelay
