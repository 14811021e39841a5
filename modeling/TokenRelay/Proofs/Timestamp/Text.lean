/-
# Written timestamps

Supplies that a moment of the calendar is read from its text. The writer keeps every part to the
digits that the reader takes for it, and a year that needs more of them has a sign, behind which the
reader takes them all. Of the fraction only zeros are left out.
-/

import Mathlib.Data.Nat.Digits.Defs
import TokenRelay.Proofs.Text.Natural
import TokenRelay.Proofs.Timestamp.Calendar

namespace TokenRelay.Timestamp

open Token (digitsOf)

/-! ### Digits -/

theorem digitValue?_of_isDigit {character : Char} (digit : character.isDigit = true) :
    digitValue? character = some (character.toNat - 48) :=
  if_pos (Text.code_of_isDigit digit)

/-- Digits are taken until there are as many as there may be, or something else follows. -/
theorem leadingDigits_append {digits rest : List Char} {count : Nat}
    (all : ∀ character ∈ digits, character.isDigit = true)
    (ends : digits.length = count ∨
      digits.length ≤ count ∧ ∀ character ∈ rest.head?, digitValue? character = none) :
    leadingDigits count (digits ++ rest) = (digitsOf digits, rest) := by
  induction digits generalizing count with
  | nil =>
      cases count with
      | zero => rfl
      | succ count =>
          rcases ends with none | ⟨-, stops⟩
          · cases none
          · cases rest with
            | nil => rfl
            | cons character rest =>
                have other : digitValue? character = none := stops character rfl
                simp only [List.nil_append, leadingDigits, other]
                rfl
  | cons character digits ih =>
      cases count with
      | zero => rcases ends with none | ⟨none, -⟩ <;> cases none
      | succ count =>
          rw [List.forall_mem_cons] at all
          have others := ih all.2 (ends.imp Nat.succ.inj (And.imp_left Nat.le_of_succ_le_succ))
          rw [List.cons_append, leadingDigits, digitValue?_of_isDigit all.1, others]
          rfl

/-- Blanks before digits would be passed over. -/
theorem dropWhile_isBlank_digits {digits : List Char} (ne_nil : digits ≠ [])
    (all : ∀ character ∈ digits, character.isDigit = true) (rest : List Char) :
    (digits ++ rest).dropWhile Text.isBlank = digits ++ rest := by
  cases digits with
  | nil => exact absurd rfl ne_nil
  | cons character digits =>
      have visible := Text.isBlank_of_isDigit (all character List.mem_cons_self)
      rw [List.cons_append, List.dropWhile_cons_of_neg (by simp [visible])]

section Padded

variable {count value : Nat}

theorem isDigit_of_mem_padded {character : Char} (inside : character ∈ padded count value) :
    character.isDigit = true := by
  unfold padded at inside
  rcases List.mem_append.1 inside with zero | digit
  · rw [(List.mem_replicate.1 zero).2]
    rfl
  · exact Token.isDigit_of_mem_toDigits digit

theorem padded_ne_nil : padded count value ≠ [] :=
  List.append_ne_nil_of_right_ne_nil _ Nat.toDigits_ne_nil

theorem digitsOf_padded_ne_nil : digitsOf (padded count value) ≠ [] :=
  mt List.map_eq_nil_iff.1 padded_ne_nil

theorem length_padded (positive : 0 < count) (small : value < Nat.pow 10 count) :
    (padded count value).length = count := by
  have fits : (Nat.toDigits 10 value).length ≤ count :=
    Nat.toDigits_length 10 value count positive small
  rw [padded, List.length_append, List.length_replicate, Nat.sub_add_cancel fits]

/-- Zeros in front do not count. -/
theorem numberOf_padded : numberOf (digitsOf (padded count value)) = value := by
  have zeros (count : Nat) : (digitsOf (List.replicate count '0')).foldl
      (fun value digit => value * 10 + digit) 0 = 0 := by
    induction count with
    | zero => rfl
    | succ count ih => exact ih
  rw [numberOf, padded, digitsOf, List.map_append, List.foldl_append]
  exact (congrArg (fun start => List.foldl _ start _) (zeros _)).trans
    (Number.foldl_digitsOf value)

/-- A padded number is read as one of so many digits. -/
theorem number?_padded (positive : 0 < count) (small : value < Nat.pow 10 count)
    (rest : List Char) : number? count (padded count value ++ rest) = some (value, rest) := by
  have blanks : (padded count value ++ rest).dropWhile Text.isBlank = padded count value ++ rest :=
    dropWhile_isBlank_digits padded_ne_nil (fun _ => isDigit_of_mem_padded) rest
  have taken : leadingDigits count (padded count value ++ rest) =
      (digitsOf (padded count value), rest) :=
    leadingDigits_append (fun _ => isDigit_of_mem_padded) (.inl (length_padded positive small))
  rw [number?, blanks, taken]
  split
  · next none => exact absurd (congrArg Prod.fst none) digitsOf_padded_ne_nil
  · next found =>
    cases found
    rw [numberOf_padded]

theorem bounded?_padded {least greatest : Nat} (bounds : least ≤ value ∧ value ≤ greatest)
    (short : greatest < 100) (rest : List Char) :
    bounded? least greatest (padded 2 value ++ rest) = some (value, rest) := by
  have small : value < Nat.pow 10 2 := Nat.lt_of_le_of_lt bounds.2 short
  simp only [bounded?, number?_padded (by decide) small, if_pos bounds]

end Padded

/-! ### The parts of a text -/

theorem mark?_cons {mark : Char} (visible : Text.isBlank mark = false) (rest : List Char) :
    mark? mark (mark :: rest) = some ((), rest) := by
  rw [mark?, List.dropWhile_cons_of_neg (by simp [visible])]
  exact if_pos rfl

/-- Behind a sign any number of digits is taken. -/
theorem leadingDigits_signed (value : Nat) (rest : List Char) :
    leadingDigits (padded 4 value ++ '-' :: rest).length (padded 4 value ++ '-' :: rest) =
      (digitsOf (padded 4 value), '-' :: rest) := by
  refine leadingDigits_append (fun _ => isDigit_of_mem_padded) (.inr ⟨?_, ?_⟩)
  · rw [List.length_append]
    exact Nat.le_add_right _ _
  · rintro _ ⟨⟩
    rfl

theorem year?_yearText (year : Int) (rest : List Char) :
    year? (yearText year ++ '-' :: rest) = some (year, '-' :: rest) := by
  unfold yearText
  split
  · next usual =>
    have small : year.toNat < Nat.pow 10 4 := by
      change year.toNat < 10000
      omega
    have read := number?_padded (by decide) small ('-' :: rest)
    have same : ((year.toNat : Nat) : Int) = year := Int.toNat_of_nonneg usual.1
    -- A text that begins with a digit has no sign.
    have unsigned {mark : Char} {text : List Char}
        (begins : padded 4 year.toNat ++ '-' :: rest = mark :: text) : mark.isDigit = true := by
      obtain ⟨digit, digits, written⟩ :=
        List.exists_cons_of_ne_nil (padded_ne_nil : padded 4 year.toNat ≠ [])
      have inside : digit ∈ padded 4 year.toNat := written ▸ List.mem_cons_self
      rw [written] at begins
      cases begins
      exact isDigit_of_mem_padded inside
    unfold year?
    rw [dropWhile_isBlank_digits padded_ne_nil fun _ => isDigit_of_mem_padded]
    split
    · next begins => exact absurd (unsigned begins) (by decide)
    · next begins => exact absurd (unsigned begins) (by decide)
    · rw [read, Option.map_some, same]
  · next unusual =>
    have taken := leadingDigits_signed year.natAbs rest
    by_cases negative : year < 0
    · have same : -((year.natAbs : Nat) : Int) = year := by omega
      have visible : Text.isBlank '-' = false := by decide
      rw [if_pos negative, List.cons_append, year?,
        List.dropWhile_cons_of_neg (by simp [visible])]
      simp only [taken]
      split
      · next none => exact absurd (congrArg Prod.fst none) digitsOf_padded_ne_nil
      · next found =>
        cases found
        rw [numberOf_padded, same]
    · have same : ((year.natAbs : Nat) : Int) = year := by omega
      have visible : Text.isBlank '+' = false := by decide
      rw [if_neg negative, List.cons_append, year?,
        List.dropWhile_cons_of_neg (by simp [visible])]
      simp only [taken]
      split
      · next none => exact absurd (congrArg Prod.fst none) digitsOf_padded_ne_nil
      · next found =>
        cases found
        rw [numberOf_padded, same]

/-- The digits of a fraction are read with as many zeros behind them as are missing. -/
theorem fraction?_padded {count value : Nat} (positive : 0 < count) (le : count ≤ 9)
    (small : value < Nat.pow 10 count) {rest : List Char}
    (stops : ∀ character ∈ rest.head?, digitValue? character = none) :
    fraction? ('.' :: padded count value ++ rest) =
      some (value * Nat.pow 10 (9 - count), rest) := by
  have length := length_padded positive small
  have taken : leadingDigits 9 (padded count value ++ rest) =
      (digitsOf (padded count value), rest) :=
    leadingDigits_append (fun _ => isDigit_of_mem_padded) (.inr ⟨by rwa [length], stops⟩)
  have digits : (digitsOf (padded count value)).length = count :=
    (List.length_map _).trans length
  have stays : (rest.dropWhile fun character => (digitValue? character).isSome) = rest := by
    cases rest with
    | nil => rfl
    | cons character rest =>
        have other : digitValue? character = none := stops character rfl
        rw [List.dropWhile_cons_of_neg (by simp [other])]
  rw [List.cons_append, fraction?, taken]
  split
  · next none => exact absurd (congrArg Prod.fst none) digitsOf_padded_ne_nil
  · next found =>
    cases found
    rw [numberOf_padded, digits, stays]

/-- Only zeros are left out of a fraction. -/
theorem fraction?_fractionText {nanosecond : Nat} (small : nanosecond < 1000000000)
    {rest : List Char} (stops : ∀ character ∈ rest.head?, digitValue? character = none)
    (unpointed : rest.head? ≠ some '.') :
    fraction? (fractionText nanosecond ++ rest) = some (nanosecond, rest) := by
  unfold fractionText
  split
  · next zero =>
    rw [zero, List.nil_append]
    unfold fraction?
    split
    · exact absurd rfl unpointed
    · rfl
  · split
    · next whole =>
      have value : nanosecond / 1000000 * Nat.pow 10 (9 - 3) = nanosecond := by
        change nanosecond / 1000000 * 1000000 = nanosecond
        omega
      rw [fraction?_padded (by decide) (by decide) (by change _ < 1000; omega) stops, value]
    · split
      · next whole =>
        have value : nanosecond / 1000 * Nat.pow 10 (9 - 6) = nanosecond := by
          change nanosecond / 1000 * 1000 = nanosecond
          omega
        rw [fraction?_padded (by decide) (by decide) (by change _ < 1000000; omega) stops, value]
      · rw [fraction?_padded (by decide) (by decide) small stops]
        exact congrArg (fun value => some (value, rest)) (Nat.mul_one nanosecond)

/-- A moment of the calendar is read from its text. -/
theorem ofText?_text {moment : Timestamp} (proper : moment.Proper) :
    ofText? moment.text = some moment := by
  have last : moment.day ≤ 31 :=
    Nat.le_trans proper.day.2 (daysInMonth_bounds moment.year moment.month).2
  have month := bounded?_padded proper.month (by decide)
  have day := bounded?_padded ⟨proper.day.1, last⟩ (by decide)
  have hour := bounded?_padded ⟨Nat.zero_le _, Nat.le_of_lt_succ proper.hour_lt⟩ (by decide)
  have minute := bounded?_padded ⟨Nat.zero_le _, Nat.le_of_lt_succ proper.minute_lt⟩ (by decide)
  have second := bounded?_padded ⟨Nat.zero_le _, proper.second_le⟩ (by decide)
  have dash := mark?_cons (by decide : Text.isBlank '-' = false)
  have colon := mark?_cons (by decide : Text.isBlank ':' = false)
  have separator (rest : List Char) : separator? ('T' :: rest) = some ((), rest) := rfl
  have fraction : fraction? (fractionText moment.nanosecond ++ ['Z']) =
      some (moment.nanosecond, ['Z']) :=
    fraction?_fractionText proper.nanosecond_lt (by rintro _ ⟨⟩; rfl) (by decide)
  have zone : zone? (['Z'].dropWhile Text.isBlank) = some (0, []) := by decide
  have same : moment.addMinutes (-0) = moment := addMinutes_zero proper.hour_lt proper.minute_lt
  have tests : ([].all Text.isBlank && decide (moment.day ≤ daysInMonth moment.year moment.month) &&
      moment.hasYear && moment.hasYear) = true := by
    simp [proper.day.2, proper.hasYear]
  have written : moment.text.toList = yearText moment.year ++ '-' :: (padded 2 moment.month ++
      '-' :: (padded 2 moment.day ++ 'T' :: (padded 2 moment.hour ++
        ':' :: (padded 2 moment.minute ++ ':' :: (padded 2 moment.second ++
          (fractionText moment.nanosecond ++ ['Z'])))))) := by
    simp [text, textWith]
  rw [ofText?, written]
  unfold ofChars?
  -- Every part is read from the front and leaves what was written behind it.
  refine Option.bind_eq_some_iff.2 ⟨_, year?_yearText _ _, ?_⟩
  refine Option.bind_eq_some_iff.2 ⟨_, dash _, ?_⟩
  refine Option.bind_eq_some_iff.2 ⟨_, month _, ?_⟩
  refine Option.bind_eq_some_iff.2 ⟨_, dash _, ?_⟩
  refine Option.bind_eq_some_iff.2 ⟨_, day _, ?_⟩
  refine Option.bind_eq_some_iff.2 ⟨_, separator _, ?_⟩
  refine Option.bind_eq_some_iff.2 ⟨_, hour _, ?_⟩
  refine Option.bind_eq_some_iff.2 ⟨_, colon _, ?_⟩
  refine Option.bind_eq_some_iff.2 ⟨_, minute _, ?_⟩
  refine Option.bind_eq_some_iff.2 ⟨_, colon _, ?_⟩
  refine Option.bind_eq_some_iff.2 ⟨_, second _, ?_⟩
  refine Option.bind_eq_some_iff.2 ⟨_, fraction, ?_⟩
  refine Option.bind_eq_some_iff.2 ⟨_, zone, ?_⟩
  dsimp only
  rw [same, if_pos tests]

end TokenRelay.Timestamp
