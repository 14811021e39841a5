/-
# Written numbers

Supplies that every number is written as JSON has it, and what is read from its text. An exact
integer reads back; a floating-point number has a text that is a number again, although it need not
be the same one.
-/

import TokenRelay.Json.Lexer

namespace TokenRelay

namespace Token

/-- Reads one more character of a number that goes on. -/
def grow (state : Place × Number.Numeral) (character : Char) : Option (Place × Number.Numeral) :=
  match extend state.1 state.2 character with
  | .more place numeral => some (place, numeral)
  | .closed | .wrong => none

/-- A number of which no more than the sign has been read. -/
def unread (negative : Bool) : Place × Number.Numeral := (.minus, ⟨negative, [], none, none⟩)

/-- What has been read of a number behind the characters of a text. -/
def reading? : List Char → Option (Place × Number.Numeral)
  | '-' :: rest => rest.foldlM grow (unread true)
  | text => text.foldlM grow (unread false)

/-- The numeral that a text spells from its first to its last character. -/
def numeral? (text : List Char) : Option Number.Numeral :=
  ((reading? text).filter (·.1.complete)).map Prod.snd

/-- The values of digits. -/
def digitsOf (text : List Char) : List Nat := text.map (·.toNat - 48)

theorem digit?_of_isDigit {character : Char} (digit : character.isDigit = true) :
    digit? character = some (character.toNat - 48) := by
  simp only [Char.isDigit, Bool.and_eq_true, decide_eq_true_eq] at digit
  exact if_pos digit

/-- Digits before the point are put in front of those that were read before. -/
theorem grow_whole {text : List Char} (digits : ∀ character ∈ text, character.isDigit = true)
    (numeral : Number.Numeral) :
    text.foldlM grow (.whole, numeral) =
      some (.whole, { numeral with whole := (digitsOf text).reverse ++ numeral.whole }) := by
  induction text generalizing numeral with
  | nil => rfl
  | cons character rest ih =>
      have first := digit?_of_isDigit (digits character List.mem_cons_self)
      have others := ih fun other inside => digits other (List.mem_cons_of_mem _ inside)
      simp [grow, extend, first, others, digitsOf]

/-- Text that may stand before the point of a number: digits, and no zero in front of others. -/
structure Leads (text : List Char) : Prop where
  digits : ∀ character ∈ text, character.isDigit = true
  ne_nil : text ≠ []
  first : text.head? = some '0' → text.length = 1

/-- Such text is all that has been read after it. -/
theorem Leads.grow_minus {text : List Char} (leads : Leads text) :
    ∃ place, (place = .zero ∨ place = .whole) ∧ ∀ numeral,
      text.foldlM grow (.minus, numeral) =
        some (place, { numeral with whole := (digitsOf text).reverse }) := by
  obtain ⟨digits, ne_nil, first⟩ := leads
  cases text with
  | nil => exact absurd rfl ne_nil
  | cons character rest =>
      have value := digit?_of_isDigit (digits character List.mem_cons_self)
      have others := grow_whole fun other inside => digits other (List.mem_cons_of_mem _ inside)
      by_cases zero : character = '0'
      · subst zero
        obtain rfl : rest = [] := by simpa using first rfl
        exact ⟨.zero, .inl rfl, fun _ => rfl⟩
      · have nonzero : character.toNat - 48 ≠ 0 := by
          have least := (digits character List.mem_cons_self)
          simp only [Char.isDigit, Bool.and_eq_true, decide_eq_true_eq] at least
          intro same
          apply zero
          apply Char.toNat_inj.1
          have bound : 48 ≤ character.toNat := least.1
          exact (by omega : character.toNat = 48)
        refine ⟨.whole, .inr rfl, fun numeral => ?_⟩
        have begun : grow (.minus, numeral) character =
            some (.whole, { numeral with whole := [character.toNat - 48] }) := by
          simp only [grow, extend, value]
        rw [List.foldlM_cons, begun]
        simpa [digitsOf] using others { numeral with whole := [character.toNat - 48] }

/-- The text takes every number that has been read to one place on to another one. -/
def Reaches (place : Place) (text : List Char) (place' : Place) : Prop :=
  ∀ numeral, ∃ numeral', text.foldlM grow (place, numeral) = some (place', numeral')

theorem Reaches.append {first second third : Place} {text more : List Char}
    (reaches : Reaches first text second) (onward : Reaches second more third) :
    Reaches first (text ++ more) third := by
  intro numeral
  obtain ⟨numeral', read⟩ := reaches numeral
  obtain ⟨numeral'', read'⟩ := onward numeral'
  exact ⟨numeral'', by rw [List.foldlM_append, read]; exact read'⟩

theorem Reaches.of_grow {place place' : Place} {character : Char}
    (grows : ∀ numeral, ∃ numeral', grow (place, numeral) character = some (place', numeral')) :
    Reaches place [character] place' := by
  intro numeral
  obtain ⟨numeral', read⟩ := grows numeral
  exact ⟨numeral', by rw [List.foldlM_cons, read]; rfl⟩

/-- Digits stay where digits may follow. -/
theorem Reaches.digits {place : Place} (stays : place = .fraction ∨ place = .exponent)
    {text : List Char} (digits : ∀ character ∈ text, character.isDigit = true) :
    Reaches place text place := by
  induction text with
  | nil => exact fun numeral => ⟨numeral, rfl⟩
  | cons character rest ih =>
      have value := digit?_of_isDigit (digits character List.mem_cons_self)
      refine Reaches.append (Reaches.of_grow fun numeral => ?_)
        (ih fun other inside => digits other (List.mem_cons_of_mem _ inside))
      rcases stays with rfl | rfl <;> simp [grow, extend, value]

/-- Behind a point and behind the sign of an exponent there have to be digits. -/
theorem Reaches.some_digits {place place' : Place}
    (opens : place = .point ∧ place' = .fraction ∨ place = .markSign ∧ place' = .exponent)
    {text : List Char} (digits : ∀ character ∈ text, character.isDigit = true)
    (ne_nil : text ≠ []) : Reaches place text place' := by
  cases text with
  | nil => exact absurd rfl ne_nil
  | cons character rest =>
      have value := digit?_of_isDigit (digits character List.mem_cons_self)
      have begun : Reaches place [character] place' := Reaches.of_grow fun numeral => by
        rcases opens with ⟨rfl, rfl⟩ | ⟨rfl, rfl⟩ <;> simp [grow, extend, value]
      exact begun.append (.digits (opens.imp And.right And.right) fun other inside =>
        digits other (List.mem_cons_of_mem _ inside))

/-- A number with digits behind its point. -/
theorem Leads.fraction {whole fraction : List Char} (leads : Leads whole)
    (digits : ∀ character ∈ fraction, character.isDigit = true) (ne_nil : fraction ≠ []) :
    Reaches .minus (whole ++ '.' :: fraction) .fraction := by
  intro numeral
  obtain ⟨place, isWhole, read⟩ := leads.grow_minus
  have point : Reaches place ['.'] .point := by
    refine Reaches.of_grow fun numeral => ?_
    rcases isWhole with rfl | rfl <;> exact ⟨_, rfl⟩
  obtain ⟨numeral', read'⟩ :=
    point.append (Reaches.some_digits (.inl ⟨rfl, rfl⟩) digits ne_nil) _
  exact ⟨numeral', by rw [List.foldlM_append, read numeral]; exact read'⟩

/-- A number with an exponent. -/
theorem Reaches.exponent {significand digits : List Char} {place : Place}
    (reaches : Reaches .minus significand place)
    (ends : place = .zero ∨ place = .whole ∨ place = .fraction) {sign : Char}
    (signs : sign = '+' ∨ sign = '-')
    (allDigits : ∀ character ∈ digits, character.isDigit = true) (ne_nil : digits ≠ []) :
    Reaches .minus (significand ++ 'e' :: sign :: digits) .exponent := by
  have mark : Reaches place ['e'] .mark := by
    refine Reaches.of_grow fun numeral => ?_
    rcases ends with rfl | rfl | rfl <;> exact ⟨_, rfl⟩
  have signed : Reaches .mark [sign] .markSign := by
    refine Reaches.of_grow fun numeral => ?_
    rcases signs with rfl | rfl <;> exact ⟨_, rfl⟩
  exact reaches.append
    (mark.append (signed.append (.some_digits (.inr ⟨rfl, rfl⟩) allDigits ne_nil)))

theorem isDigit_of_mem_toDigits {number : Nat} {character : Char}
    (inside : character ∈ Nat.toDigits 10 number) : character.isDigit = true :=
  Nat.isDigit_of_mem_toDigits (by decide) (by decide) inside

/-- Only the digits of zero begin with zero. -/
theorem head?_toDigits {number : Nat} (positive : 0 < number) :
    (Nat.toDigits 10 number).head? ≠ some '0' := by
  induction number using Nat.strongRecOn with
  | ind number ih =>
      rw [Nat.toDigits_eq_if (by decide)]
      split
      · next small =>
        have digits : ∀ digit < 10, 0 < digit → [digit.digitChar].head? ≠ some '0' := by decide
        exact digits number small positive
      · next large =>
        have smaller := ih (number / 10) (by omega) (by omega)
        rwa [List.head?_append, Option.or_of_isSome]
        exact List.isSome_head?.2 Nat.toDigits_ne_nil

theorem leads_toDigits (number : Nat) : Leads (Nat.toDigits 10 number) where
  digits _ inside := isDigit_of_mem_toDigits inside
  ne_nil := Nat.toDigits_ne_nil
  first zero := by
    rcases Nat.eq_zero_or_pos number with rfl | positive
    · rfl
    · exact absurd zero (head?_toDigits positive)

section Digits

variable {number : Nat} (positive : 0 < number)
include positive

/-- Digits that begin like those of a positive number do not begin with zero. -/
theorem leads_of_head? {text : List Char}
    (digits : ∀ character ∈ text, character.isDigit = true)
    (head : text.head? = (Nat.toDigits 10 number).head?) : Leads text where
  digits := digits
  ne_nil := by
    rintro rfl
    exact Nat.toDigits_ne_nil (List.head?_eq_none_iff.1 head.symm)
  first zero := absurd (head.symm.trans zero) (head?_toDigits positive)

theorem leads_take (count : Nat) : Leads ((Nat.toDigits 10 number).take (count + 1)) := by
  refine leads_of_head? positive (fun character inside => ?_) ?_
  · exact isDigit_of_mem_toDigits (List.mem_of_mem_take inside)
  · rw [List.head?_take, if_neg (Nat.succ_ne_zero count)]

theorem leads_append_zeros (count : Nat) :
    Leads (Nat.toDigits 10 number ++ List.replicate count '0') := by
  refine leads_of_head? positive (fun character inside => ?_) ?_
  · rcases List.mem_append.1 inside with digit | zero
    · exact isDigit_of_mem_toDigits digit
    · rw [List.eq_of_mem_replicate zero]
      rfl
  · rw [List.head?_append, Option.or_of_isSome]
    exact List.isSome_head?.2 Nat.toDigits_ne_nil

/-- The digits of a positive number with a point between them. -/
theorem reaches_pointed {count : Nat} (inside : count + 1 < (Nat.toDigits 10 number).length) :
    Reaches .minus ((Nat.toDigits 10 number).take (count + 1) ++
      '.' :: (Nat.toDigits 10 number).drop (count + 1)) .fraction := by
  refine (leads_take positive count).fraction (fun character more => ?_) ?_
  · exact isDigit_of_mem_toDigits (List.mem_of_mem_drop more)
  · intro none
    exact absurd inside (Nat.not_lt_of_le (List.drop_eq_nil_iff.1 none))

end Digits

end Token

namespace Decimal

/-- A decimal that is zero has no zeros in front of its point but one. -/
def Numeral.Plain (decimal : Numeral) : Prop := 0 < decimal.digits ∨ decimal.exponent ≤ 0

/-- A neighbour on a grid is one that rounds to the number. -/
theorem Interval.contains_of_onGrid? {interval : Interval} {tens : Int} {digits : Nat}
    (found : interval.onGrid? tens = some digits) : interval.contains digits tens = true := by
  simp only [onGrid?] at found
  split at found
  · next both =>
    obtain ⟨below, above⟩ := Bool.and_eq_true_iff.1 both
    repeat' split at found
    all_goals cases found
    · exact below
    · exact above
    · exact below
    · exact above
  · split at found
    · next below => exact Option.some.inj found ▸ below
    · split at found
      · next above => exact Option.some.inj found ▸ above
      · cases found

/-- Zero does not round to a positive number. -/
theorem Binary.contains_zero {number : Binary} (positive : 0 < number.mantissa) (tens : Int) :
    number.interval.contains 0 tens = false := by
  have low : 0 < number.interval.low := by
    simp only [Binary.interval]
    split <;> omega
  have factor : 0 < (commonScale tens number.interval.scale).2 :=
    Nat.mul_pos (Nat.pow_pos (by decide)) (Nat.pow_pos (by decide))
  have apart := Nat.not_le_of_gt (Nat.mul_pos low factor)
  simp only [Interval.contains, Nat.zero_mul]
  split <;> simp [apart]

/-- No power of ten is as great as nothing. -/
theorem Binary.leadingPlace_of_zero {number : Binary} (zero : number.mantissa = 0) :
    number.interval.leadingPlace = -324 := by
  have none (place : Int) :
      ¬ (commonScale place number.interval.scale).1 ≤
        number.interval.value * (commonScale place number.interval.scale).2 := by
    have factor : 0 < (commonScale place number.interval.scale).1 :=
      Nat.mul_pos (Nat.pow_pos (by decide)) (Nat.pow_pos (by decide))
    simpa [Binary.interval, zero] using Nat.ne_of_gt factor
  rw [Interval.leadingPlace, List.find?_eq_none.2 fun place _ => by simp [none]]
  rfl

/-- What is found on a grid has the exponent of the grid. -/
theorem firstGrid_spec (interval : Interval) (leading : Int) (count fuel : Nat) :
    (∃ step : Nat, interval.onGrid? (leading - step) =
        some (firstGrid interval leading count fuel).digits ∧
      (firstGrid interval leading count fuel).exponent = leading - step) ∨
    firstGrid interval leading count fuel = ⟨0, 0⟩ := by
  induction fuel generalizing count with
  | zero => exact .inr rfl
  | succ fuel ih =>
      rw [firstGrid]
      split
      · next digits found => exact .inl ⟨count, found, rfl⟩
      · exact ih (count + 1)

theorem Binary.plain_shortest (number : Binary) : number.shortest.Plain := by
  rcases firstGrid_spec number.interval number.interval.leadingPlace 0 18 with
    ⟨step, found, exponent⟩ | failed
  · rcases Nat.eq_zero_or_pos number.mantissa with zero | positive
    · right
      rw [Binary.shortest, exponent, Binary.leadingPlace_of_zero zero]
      omega
    · left
      apply Nat.pos_of_ne_zero
      intro nothing
      have fits := Interval.contains_of_onGrid? found
      rw [← Binary.shortest, nothing, Binary.contains_zero positive] at fits
      cases fits
  · right
    exact Int.le_of_eq (congrArg Numeral.exponent failed)

end Decimal

namespace Number

open Token

/-- In positional notation a decimal has digits behind its point. -/
theorem reaches_positional {decimal : Decimal.Numeral} (plain : decimal.Plain) (leading : Int)
    (place : leading = decimal.exponent + (Nat.toDigits 10 decimal.digits).length - 1) :
    Reaches .minus
      (if 0 ≤ decimal.exponent then
        Nat.toDigits 10 decimal.digits ++ List.replicate decimal.exponent.toNat '0' ++ ['.', '0']
      else if 0 ≤ leading then
        (Nat.toDigits 10 decimal.digits).take (leading.toNat + 1) ++
          '.' :: (Nat.toDigits 10 decimal.digits).drop (leading.toNat + 1)
      else
        '0' :: '.' :: (List.replicate (-leading - 1).toNat '0' ++
          Nat.toDigits 10 decimal.digits)) .fraction := by
  split
  · -- The exponent stands for zeros behind the digits.
    next raised =>
    have leads : Leads (Nat.toDigits 10 decimal.digits ++
        List.replicate decimal.exponent.toNat '0') := by
      rcases plain with positive | flat
      · exact leads_append_zeros positive _
      · have none : decimal.exponent.toNat = 0 := by omega
        rw [none, List.replicate_zero, List.append_nil]
        exact leads_toDigits decimal.digits
    exact leads.fraction (List.forall_mem_singleton.2 rfl) (by decide)
  · split
    · -- The point stands between the digits.
      next lowered between =>
      have positive : 0 < decimal.digits := by
        apply Nat.pos_of_ne_zero
        intro zero
        rw [zero, Nat.toDigits_zero] at place
        simp only [List.length_singleton] at place
        omega
      exact reaches_pointed positive (by omega)
    · -- Zeros stand between the point and the digits.
      have zero : Leads ['0'] := ⟨List.forall_mem_singleton.2 rfl, by decide, fun _ => rfl⟩
      refine zero.fraction (fun character inside => ?_) (by simp [Nat.toDigits_ne_nil])
      rcases List.mem_append.1 inside with zero | digit
      · rw [List.eq_of_mem_replicate zero]
        rfl
      · exact isDigit_of_mem_toDigits digit

/-- In front of an exponent there is one digit, or a point behind the first digit. -/
theorem reaches_significand (number : Nat) :
    ∃ place, (place = .zero ∨ place = .whole ∨ place = .fraction) ∧
      Reaches .minus
        (if ((Nat.toDigits 10 number).drop 1).isEmpty then Nat.toDigits 10 number
        else (Nat.toDigits 10 number).take 1 ++ '.' :: (Nat.toDigits 10 number).drop 1) place := by
  split
  · obtain ⟨place, isWhole, read⟩ := (leads_toDigits number).grow_minus
    exact ⟨place, isWhole.imp_right .inl, fun numeral => ⟨_, read numeral⟩⟩
  · next more =>
    have long : 0 + 1 < (Nat.toDigits 10 number).length := by
      rw [List.isEmpty_iff, List.drop_eq_nil_iff] at more
      exact Nat.lt_of_not_le more
    have positive : 0 < number := by
      apply Nat.pos_of_ne_zero
      rintro rfl
      exact absurd long (by decide)
    exact ⟨.fraction, .inr (.inr rfl), reaches_pointed positive long⟩

/-- The text of a decimal is a number. -/
theorem reaches_write {decimal : Decimal.Numeral} (plain : decimal.Plain) :
    ∃ place, place.complete = true ∧ Reaches .minus (layout.write decimal).toList place := by
  simp only [Decimal.Layout.write]
  split
  · refine ⟨.fraction, rfl, ?_⟩
    simpa [apply_ite String.toList] using reaches_positional plain _ rfl
  · obtain ⟨place, ends, significand⟩ := reaches_significand decimal.digits
    refine ⟨.exponent, rfl, ?_⟩
    generalize decimal.exponent + (Nat.toDigits 10 decimal.digits).length - 1 = leading
    have written (sign : Char) (signs : sign = '+' ∨ sign = '-') :=
      significand.exponent ends signs
        (fun character (inside : character ∈ Nat.toDigits 10 leading.natAbs) =>
          isDigit_of_mem_toDigits inside)
        Nat.toDigits_ne_nil
    by_cases upward : 0 ≤ leading
    · simpa [apply_ite String.toList, layout, upward, Nat.repr_eq_ofList_toDigits] using
        written '+' (.inl rfl)
    · simpa [apply_ite String.toList, layout, upward, Nat.repr_eq_ofList_toDigits] using
        written '-' (.inr rfl)

/-- Numbers as they can be stored: an exact one fits a word, with a sign or without, and a
floating-point one is finite. -/
def Proper : Number → Prop
  | .int value => -(UInt64.size / 2 : Nat) ≤ value ∧ value < UInt64.size
  | .float value => value.isNaN = false ∧ value.isInf = false

/-- The number that is read from the text of a number. -/
def reread (number : Number) : Option Number := (numeral? number.text.toList).bind ofNumeral?

/-- A number that can be read from its own text. -/
def ReadsBack (number : Number) : Prop := number.reread = some number

/-- A minus sign is no digit. -/
theorem reading?_eq {text : List Char} {state : Place × Numeral}
    (read : text.foldlM grow (unread false) = some state) : reading? text = some state := by
  unfold reading?
  split
  · next rest => cases read
  · exact read

/-- A number may have a sign in front of it. -/
theorem exists_numeral {text : List Char} {place : Place} (complete : place.complete = true)
    (reaches : Reaches .minus text place) (negative : Bool) :
    ∃ numeral, numeral? (if negative then '-' :: text else text) = some numeral := by
  obtain ⟨numeral, read⟩ := reaches ⟨negative, [], none, none⟩
  refine ⟨numeral, ?_⟩
  have reading : reading? (if negative then '-' :: text else text) = some (place, numeral) := by
    cases negative with
    | true => exact read
    | false => exact reading?_eq read
  simp [numeral?, reading, complete]

theorem exists_numeral_float {value : Float} (proper : (float value).Proper) :
    ∃ numeral, numeral? (float value).text.toList = some numeral := by
  obtain ⟨number, finite⟩ := proper
  obtain ⟨place, complete, reaches⟩ : ∃ place, place.complete = true ∧
      Reaches .minus (if (value == 0.0) = true then "0.0"
        else layout.write (Decimal.Binary.ofBits value.toBits).shortest).toList place := by
    split
    · have zero : Leads ['0'] := ⟨List.forall_mem_singleton.2 rfl, by decide, fun _ => rfl⟩
      exact ⟨.fraction, rfl, zero.fraction (List.forall_mem_singleton.2 rfl) (by decide)⟩
    · exact reaches_write (Decimal.Binary.plain_shortest _)
  obtain ⟨numeral, read⟩ := exists_numeral complete reaches
    (decide (UInt64.size / 2 ≤ value.toBits.toNat))
  refine ⟨numeral, ?_⟩
  rw [← read]
  congr 1
  simp only [text, floatText, number, finite, Bool.or_self, Bool.false_eq_true, if_false,
    decide_eq_true_eq]
  split <;> split <;> simp

/-- The value of decimal digits, the first digit first. -/
theorem foldl_digitsOf (number : Nat) :
    (digitsOf (Nat.toDigits 10 number)).foldl (fun value digit => value * 10 + digit) 0 =
      number := by
  have value : Nat.ofDigitChars 10 (Nat.toDigits 10 number) 0 = number :=
    Nat.ofDigitChars_toDigits (by decide) (by decide)
  rw [Nat.ofDigitChars_eq_foldl] at value
  rw [digitsOf, List.foldl_map]
  simpa [Nat.mul_comm] using value

theorem le_foldl_digits (digits : List Nat) (value : Nat) :
    value ≤ digits.foldl (fun value digit => value * 10 + digit) value := by
  induction digits generalizing value with
  | nil => exact Nat.le_refl value
  | cons digit rest ih =>
      have next := ih (value * 10 + digit)
      rw [List.foldl_cons]
      omega

/-- No digit of a word is dropped. -/
theorem takeDigits_eq {digits : List Nat} {value used : Nat}
    (fits : digits.foldl (fun value digit => value * 10 + digit) value < UInt64.size) :
    takeDigits value used digits =
      (digits.foldl (fun value digit => value * 10 + digit) value, used + digits.length) := by
  induction digits generalizing value used with
  | nil => rfl
  | cons digit rest ih =>
      have next := le_foldl_digits rest (value * 10 + digit)
      rw [List.foldl_cons] at fits ⊢
      rw [takeDigits, if_pos (Nat.lt_of_le_of_lt next fits), ih fits, List.length_cons]
      congr 1
      omega

/-- The digits of a word with a sign or without one. -/
theorem ofNumeral?_toDigits {number : Nat} (fits : number < UInt64.size) (negative : Bool) :
    ofNumeral? ⟨negative, (digitsOf (Nat.toDigits 10 number)).reverse, none, none⟩ =
      if negative then
        if 0 < number ∧ number ≤ UInt64.size / 2 then some (.int (-(number : Int)))
        else some (signed true number.toUInt64.toFloat)
      else some (.int number) := by
  have taken : takeDigits 0 0 (digitsOf (Nat.toDigits 10 number)) =
      (number, (digitsOf (Nat.toDigits 10 number)).length) := by
    rw [takeDigits_eq (by rwa [foldl_digitsOf]), foldl_digitsOf, Nat.zero_add]
  simp [ofNumeral?, taken]

/-- The digits of an exact number. -/
theorem numeral?_int (value : Int) :
    numeral? (int value).text.toList = some
      ⟨decide (value < 0), (digitsOf (Nat.toDigits 10 value.natAbs)).reverse, none, none⟩ := by
  obtain ⟨place, isWhole, read⟩ := (leads_toDigits value.natAbs).grow_minus
  have complete : place.complete = true := by rcases isWhole with rfl | rfl <;> rfl
  have written : (int value).text.toList =
      if value < 0 then '-' :: Nat.toDigits 10 value.natAbs else Nat.toDigits 10 value.natAbs := by
    change (Int.repr value).toList = _
    rw [Int.repr_eq_if]
    by_cases negative : value < 0
    · have magnitude : (-value).toNat = value.natAbs := by omega
      rw [if_neg (Int.not_le.2 negative), if_pos negative, magnitude]
      simp [Nat.repr_eq_ofList_toDigits]
    · have magnitude : value.toNat = value.natAbs := by omega
      rw [if_pos (Int.not_lt.1 negative), if_neg negative, magnitude]
      simp [Nat.repr_eq_ofList_toDigits]
  have reading (negative : Bool) :
      reading? (if negative then '-' :: Nat.toDigits 10 value.natAbs
        else Nat.toDigits 10 value.natAbs) = some
          (place, ⟨negative, (digitsOf (Nat.toDigits 10 value.natAbs)).reverse, none, none⟩) := by
    cases negative with
    | true => exact read _
    | false => exact reading?_eq (read _)
  have readAll := reading (decide (value < 0))
  simp only [decide_eq_true_eq] at readAll
  simp [numeral?, written, readAll, complete]

/-- Exact numbers read back. -/
theorem readsBack_int {value : Int} (proper : (int value).Proper) : (int value).ReadsBack := by
  obtain ⟨low, high⟩ := proper
  simp only [UInt64.size] at low high
  have fits : value.natAbs < UInt64.size := by
    simp only [UInt64.size]
    omega
  rw [ReadsBack, reread, numeral?_int, Option.bind_some, ofNumeral?_toDigits fits]
  by_cases negative : value < 0
  · have bound : 0 < value.natAbs ∧ value.natAbs ≤ UInt64.size / 2 := by
      simp only [UInt64.size]
      omega
    simp only [negative, decide_true, if_true, if_pos bound]
    congr 2
    omega
  · simp only [negative, decide_false, Bool.false_eq_true, if_false]
    congr 2
    omega

/-- A number with a point that reads back. -/
theorem readsBack_oneAndHalf : (Number.float 1.5).ReadsBack := by
  have written : (Number.float 1.5).text = "1.5" := by decide +kernel
  have read : Token.numeral? "1.5".toList = some ⟨false, [1], some [5], none⟩ := rfl
  have value : Number.scaled 15 (-1) = some 1.5 := by decide +kernel
  rw [ReadsBack, reread, written, read, Option.bind_some]
  simp [ofNumeral?, takeDigits, value, UInt64.size, signed]

/-- An exact number, or one and a half. -/
def isPlain : Number → Bool
  | .int _ => true
  | .float value => decide (value = 1.5)

/-- The text of every number is a number. -/
theorem exists_numeral_text {number : Number} (proper : number.Proper) :
    ∃ numeral, numeral? number.text.toList = some numeral := by
  cases number with
  | int value => exact ⟨_, numeral?_int value⟩
  | float value => exact exists_numeral_float proper

end Number

end TokenRelay
