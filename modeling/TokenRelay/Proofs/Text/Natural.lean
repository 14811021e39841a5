/-
# Written natural numbers

Supplies that a natural number below a bound reads back from its decimal digits, and that its digits
are a trimmed text.
-/

import TokenRelay.Proofs.Json.Numeral
import TokenRelay.Proofs.Text.Trim
import TokenRelay.Text.Natural

namespace TokenRelay.Text

open Token (digitsOf)

theorem code_of_isDigit {character : Char} (digit : character.isDigit = true) :
    48 ≤ character.toNat ∧ character.toNat ≤ 57 := by
  simp only [Char.isDigit, Bool.and_eq_true, decide_eq_true_eq] at digit
  exact digit

theorem isBlank_of_isDigit {character : Char} (digit : character.isDigit = true) :
    isBlank character = false := by
  obtain ⟨low, high⟩ := code_of_isDigit digit
  simp only [isBlank, Bool.or_eq_false_iff, Bool.and_eq_false_iff, decide_eq_false_iff_not,
    beq_eq_false_iff_ne]
  omega

/-- Digits are read as long as their value is below the bound. -/
theorem naturalFrom_eq {text : List Char} (digits : ∀ character ∈ text, character.isDigit = true)
    {bound value : Nat}
    (fits : (digitsOf text).foldl (fun value digit => value * 10 + digit) value < bound) :
    naturalFrom bound value text =
      .ok ((digitsOf text).foldl (fun value digit => value * 10 + digit) value) := by
  induction text generalizing value with
  | nil => rfl
  | cons character rest ih =>
      rw [List.forall_mem_cons] at digits
      have isDigit : '0' ≤ character ∧ character ≤ '9' := code_of_isDigit digits.1
      have least := Number.le_foldl_digits (digitsOf rest) (value * 10 + (character.toNat - 48))
      simp only [digitsOf, List.map_cons, List.foldl_cons] at fits least ⊢
      rw [naturalFrom, if_pos isDigit]
      dsimp only
      rw [if_pos (Nat.lt_of_le_of_lt least fits)]
      exact ih digits.2 fits

theorem toList_toString (number : Nat) : (toString number).toList = Nat.toDigits 10 number :=
  Nat.toList_repr

theorem isTrimmed_toDigits (number : Nat) : IsTrimmed (Nat.toDigits 10 number) :=
  isTrimmed_of_forall fun _ inside => isBlank_of_isDigit (Token.isDigit_of_mem_toDigits inside)

theorem isBlankText_toString (number : Nat) : isBlankText (toString number) = false := by
  rw [isBlankText, toList_toString]
  obtain ⟨digit, rest, digits⟩ := List.exists_cons_of_ne_nil
    (Nat.toDigits_ne_nil (b := 10) (n := number))
  have inside : digit ∈ Nat.toDigits 10 number := digits ▸ List.mem_cons_self
  simp [digits, isBlank_of_isDigit (Token.isDigit_of_mem_toDigits inside)]

/-- A number below the bound reads back from its digits. -/
theorem natural_toString {bound number : Nat} (fits : number < bound) :
    natural bound (toString number) = .ok number := by
  have read : naturalFrom bound 0 (Nat.toDigits 10 number) = .ok number := by
    have value := Number.foldl_digitsOf number
    rw [naturalFrom_eq (fun _ => Token.isDigit_of_mem_toDigits) (by rwa [value]), value]
  have unsigned : '+' ∉ Nat.toDigits 10 number := fun inside =>
    absurd (Token.isDigit_of_mem_toDigits inside) (by decide)
  rw [natural, toList_toString]
  split
  · next none => exact absurd none Nat.toDigits_ne_nil
  · next sign => exact absurd (sign ▸ List.mem_cons_self) unsigned
  · next sign => exact absurd (sign ▸ List.mem_cons_self) unsigned
  · exact read

end TokenRelay.Text
