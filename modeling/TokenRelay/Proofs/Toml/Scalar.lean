/-
# Words of TOML

Supplies that decimal digits are a word which denotes the number that they spell.
-/

import TokenRelay.Proofs.Text.Natural
import TokenRelay.Toml.Scalar

namespace TokenRelay.Toml

open TokenRelay.Token (Leads digitsOf isDigit_of_mem_toDigits leads_toDigits)

namespace Scalar

theorem digit?_of_isDigit {character : Char} (digit : character.isDigit = true) :
    digit? 10 character = some (character.toNat - 48) := by
  obtain ⟨low, high⟩ := Text.code_of_isDigit digit
  have read : Text.Hex.value? character = some (character.toNat - 48) := if_pos ⟨low, high⟩
  have small : character.toNat - 48 < 10 := by omega
  simp [digit?, read, small]

theorem digits?_of_isDigit {text : List Char}
    (digits : ∀ character ∈ text, character.isDigit = true) (ne_nil : text ≠ []) :
    digits? 10 text = some (digitsOf text) := by
  induction text with
  | nil => exact absurd rfl ne_nil
  | cons character rest ih =>
      rw [List.forall_mem_cons] at digits
      have first := digit?_of_isDigit digits.1
      cases rest with
      | nil => simp [digits?, first, digitsOf]
      | cons next more =>
          have other : next ≠ '_' := by
            rintro rfl
            exact absurd (digits.2 _ List.mem_cons_self) (by decide)
          have others := ih digits.2 (List.cons_ne_nil _ _)
          rw [digits?] <;> simp [first, others, digitsOf, other]

theorem wholeDigits?_of_leads {text : List Char} (leads : Leads text) :
    wholeDigits? text = some (digitsOf text) := by
  obtain ⟨digits, ne_nil, zero⟩ := leads
  rw [wholeDigits?, digits?_of_isDigit digits ne_nil]
  cases text with
  | nil => exact absurd rfl ne_nil
  | cons first rest =>
      obtain ⟨low, -⟩ := Text.code_of_isDigit (digits first List.mem_cons_self)
      by_cases leading : first.toNat - 48 = 0
      · have isZero : first = '0' := Char.toNat_inj.1 (by omega : first.toNat = 48)
        obtain rfl : rest = [] := by simpa using zero (congrArg some isZero)
        rfl
      · simp [digitsOf, leading]

/-- The digits of a number denote it. -/
theorem integer?_toDigits (number : Nat) :
    integer? (Nat.toDigits 10 number) = some (number : Int) := by
  have leads := leads_toDigits number
  have unmarked (mark : Char) (other : mark.isDigit = false) : mark ∉ Nat.toDigits 10 number :=
    fun inside => by simp [isDigit_of_mem_toDigits inside] at other
  have whole := wholeDigits?_of_leads leads
  have value : valueOf 10 (digitsOf (Nat.toDigits 10 number)) = number :=
    Number.foldl_digitsOf number
  generalize Nat.toDigits 10 number = text at *
  have unsigned : splitSign text = (false, text) := by
    unfold splitSign
    split
    · exact absurd List.mem_cons_self (unmarked '+' rfl)
    · exact absurd List.mem_cons_self (unmarked '-' rfl)
    · rfl
  unfold integer?
  split
  · exact absurd (by simp) (unmarked 'x' rfl)
  · exact absurd (by simp) (unmarked 'o' rfl)
  · exact absurd (by simp) (unmarked 'b' rfl)
  · simp [unsigned, whole, value]

/-- A number is read from its digits. -/
theorem ofWord?_toDigits (number : Nat) :
    ofWord? (Nat.toDigits 10 number) = some (.integer number) := by
  have other {word : List Char} (character : Char) (inside : character ∈ word)
      (letter : character.isDigit = false) : Nat.toDigits 10 number ≠ word := by
    rintro same
    simp [isDigit_of_mem_toDigits (same ▸ inside)] at letter
  rw [ofWord?, if_neg (other 't' (by decide) rfl),
    if_neg (other 'f' (by decide) rfl), integer?_toDigits]

end Scalar

end TokenRelay.Toml
