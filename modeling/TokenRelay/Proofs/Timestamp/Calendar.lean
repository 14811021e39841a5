/-
# Moments of the calendar

Supplies that whatever is read as a timestamp is a moment of the calendar: it has a date, a time of
day and a fraction that fit their ranges. Going over to universal time takes a local time at most to
the day before or to the day after, also across the border of a month or a year.
-/

import TokenRelay.Timestamp.Reading

namespace TokenRelay.Timestamp

/-- A moment on a day that its month has. -/
structure IsDated (moment : Timestamp) : Prop where
  month : 1 ≤ moment.month ∧ moment.month ≤ 12
  day : 1 ≤ moment.day ∧ moment.day ≤ daysInMonth moment.year moment.month

/-- A moment of the calendar, in a year that has calendar dates. -/
structure Proper (moment : Timestamp) : Prop extends IsDated moment where
  hour_lt : moment.hour < 24
  minute_lt : moment.minute < 60
  second_le : moment.second ≤ 60
  nanosecond_lt : moment.nanosecond < 1000000000
  hasYear : moment.hasYear = true

/-! ### Days and hours -/

theorem daysInMonth_bounds (year : Int) (month : Nat) :
    28 ≤ daysInMonth year month ∧ daysInMonth year month ≤ 31 := by
  unfold daysInMonth
  split
  · split <;> decide
  · split <;> decide

theorem IsDated.dayBefore {moment : Timestamp} (dated : moment.IsDated) :
    moment.dayBefore.IsDated := by
  obtain ⟨⟨low, high⟩, first, last⟩ := dated
  unfold Timestamp.dayBefore
  split
  · exact ⟨⟨low, high⟩, by dsimp only; omega, by dsimp only; omega⟩
  · split
    · have bounds := daysInMonth_bounds moment.year (moment.month - 1)
      exact ⟨by dsimp only; omega, by dsimp only; omega, Nat.le_refl _⟩
    · exact ⟨by dsimp only; omega, by dsimp only; omega, Nat.le_refl _⟩

theorem IsDated.dayAfter {moment : Timestamp} (dated : moment.IsDated) :
    moment.dayAfter.IsDated := by
  obtain ⟨⟨low, high⟩, first, last⟩ := dated
  unfold Timestamp.dayAfter
  split
  · exact ⟨⟨low, high⟩, by dsimp only; omega, by dsimp only; omega⟩
  · split
    · have bounds := daysInMonth_bounds moment.year (moment.month + 1)
      exact ⟨by dsimp only; omega, Nat.le_refl _, by dsimp only; omega⟩
    · have bounds := daysInMonth_bounds (moment.year + 1) 1
      exact ⟨by dsimp only; omega, Nat.le_refl _, by dsimp only; omega⟩

/-- Another day at the same time. -/
def SameTime (moment other : Timestamp) : Prop :=
  other.second = moment.second ∧ other.nanosecond = moment.nanosecond

theorem sameTime_dayBefore (moment : Timestamp) : moment.SameTime moment.dayBefore := by
  unfold dayBefore
  split
  · exact ⟨rfl, rfl⟩
  · split <;> exact ⟨rfl, rfl⟩

theorem sameTime_dayAfter (moment : Timestamp) : moment.SameTime moment.dayAfter := by
  unfold dayAfter
  split
  · exact ⟨rfl, rfl⟩
  · split <;> exact ⟨rfl, rfl⟩

/-- Less than a day before or after a moment of the calendar there is another one, unless the years
end there. -/
theorem Proper.addMinutes {moment : Timestamp} (proper : moment.Proper) {minutes : Int}
    (bounds : -1440 < minutes ∧ minutes < 1440)
    (hasYear : (moment.addMinutes minutes).hasYear = true) :
    (moment.addMinutes minutes).Proper := by
  have onDay (day : Timestamp) {total : Int} (dated : day.IsDated) (same : moment.SameTime day)
      (range : 0 ≤ total ∧ total < 1440) (hasYear : day.hasYear = true) :
      Proper { day with hour := total.toNat / 60, minute := total.toNat % 60 } := {
    month := dated.month
    day := dated.day
    hour_lt := by dsimp only; omega
    minute_lt := Nat.mod_lt _ (by decide)
    second_le := same.1.symm ▸ proper.second_le
    nanosecond_lt := same.2.symm ▸ proper.nanosecond_lt
    hasYear := hasYear }
  have dated := proper.toIsDated
  have clock := proper.hour_lt
  have clock' := proper.minute_lt
  revert hasYear
  unfold Timestamp.addMinutes
  dsimp only
  split
  · exact onDay moment.dayBefore dated.dayBefore moment.sameTime_dayBefore (by omega)
  · split
    · exact onDay moment.dayAfter dated.dayAfter moment.sameTime_dayAfter (by omega)
    · exact onDay moment dated ⟨rfl, rfl⟩ (by omega)

/-- Nothing happens to a moment in universal time. -/
theorem addMinutes_zero {moment : Timestamp} (hour : moment.hour < 24)
    (minute : moment.minute < 60) : moment.addMinutes 0 = moment := by
  have hours : (moment.hour * 60 + moment.minute) / 60 = moment.hour := by omega
  have minutes : (moment.hour * 60 + moment.minute) % 60 = moment.minute := by omega
  have total : ((moment.hour : Int) * 60 + moment.minute + 0).toNat =
      moment.hour * 60 + moment.minute := by omega
  unfold addMinutes
  dsimp only
  rw [if_neg (by omega), if_neg (by omega), total, hours, minutes]

/-! ### The ranges of what is read -/

theorem digitValue?_le {character : Char} {digit : Nat}
    (value : digitValue? character = some digit) : digit ≤ 9 := by
  unfold digitValue? at value
  split at value
  · next bounds =>
    cases value
    have high : character.toNat ≤ 57 := bounds.2
    omega
  · cases value

/-- No more digits are read than there may be. -/
theorem leadingDigits_bounds (count : Nat) (text : List Char) :
    (leadingDigits count text).1.length ≤ count ∧
      ∀ digit ∈ (leadingDigits count text).1, digit ≤ 9 := by
  induction count generalizing text with
  | zero => exact ⟨Nat.le_refl _, List.forall_mem_nil _⟩
  | succ count ih =>
      cases text with
      | nil => exact ⟨Nat.zero_le _, List.forall_mem_nil _⟩
      | cons character rest =>
          rw [leadingDigits]
          split
          · exact ⟨Nat.zero_le _, List.forall_mem_nil _⟩
          · next digit value =>
            obtain ⟨length, small⟩ := ih rest
            exact ⟨Nat.succ_le_succ length,
              List.forall_mem_cons.2 ⟨digitValue?_le value, small⟩⟩

theorem foldl_digits_lt {digits : List Nat} (small : ∀ digit ∈ digits, digit ≤ 9)
    (value : Nat) :
    digits.foldl (fun value digit => value * 10 + digit) value <
      (value + 1) * Nat.pow 10 digits.length := by
  induction digits generalizing value with
  | nil => simp
  | cons digit rest ih =>
      rw [List.forall_mem_cons] at small
      have others := ih small.2 (value * 10 + digit)
      have first : value * 10 + digit + 1 ≤ (value + 1) * 10 := by omega
      have scaled := Nat.mul_le_mul_right (Nat.pow 10 rest.length) first
      have power : Nat.pow 10 (rest.length + 1) = 10 * Nat.pow 10 rest.length := Nat.mul_comm _ _
      rw [List.foldl_cons, List.length_cons, power, ← Nat.mul_assoc]
      exact Nat.lt_of_lt_of_le others scaled

/-- A fraction is less than a second. -/
theorem fraction?_lt {text rest : List Char} {nanosecond : Nat}
    (read : fraction? text = some (nanosecond, rest)) : nanosecond < 1000000000 := by
  unfold fraction? at read
  split at read
  · next text =>
    have bounds := leadingDigits_bounds 9 text
    split at read
    · cases read
    · next digits after _ found =>
      rw [found] at bounds
      obtain ⟨length, small⟩ := bounds
      cases read
      have below := foldl_digits_lt small 0
      have whole : Nat.pow 10 digits.length * Nat.pow 10 (9 - digits.length) = 1000000000 := by
        have sum : digits.length + (9 - digits.length) = 9 := Nat.add_sub_cancel' length
        exact (Nat.pow_add 10 _ _).symm.trans (sum.symm ▸ rfl)
      rw [Nat.zero_add, Nat.one_mul] at below
      rw [← whole]
      exact Nat.mul_lt_mul_of_pos_right below (Nat.pow_pos (by decide))
  · cases read
    decide

theorem bounded?_bounds {least greatest value : Nat} {text rest : List Char}
    (read : bounded? least greatest text = some (value, rest)) :
    least ≤ value ∧ value ≤ greatest := by
  unfold bounded? at read
  split at read
  · split at read
    · next bounds =>
      cases read
      exact bounds
    · cases read
  · cases read

theorem twoDigits?_le {greatest value : Nat} {text rest : List Char}
    (read : twoDigits? greatest text = some (value, rest)) : value ≤ greatest * 10 + 9 := by
  unfold twoDigits? at read
  split at read
  · obtain ⟨high, -, read⟩ := Option.bind_eq_some_iff.1 read
    obtain ⟨low, digit, read⟩ := Option.bind_eq_some_iff.1 read
    have small := digitValue?_le digit
    split at read
    · cases read
      omega
    · cases read
  · cases read

/-- A local time is less than a day ahead or behind. -/
theorem zone?_bounds {text rest : List Char} {ahead : Int}
    (read : zone? text = some (ahead, rest)) : -1440 < ahead ∧ ahead < 1440 := by
  have within {text : List Char} (read : offset? text = some (ahead, rest)) :
      -1440 < ahead ∧ ahead < 1440 := by
    unfold offset? at read
    dsimp only at read
    split at read
    case h_4 => cases read
    all_goals
      obtain ⟨⟨sign, rest⟩, signed, read⟩ := Option.bind_eq_some_iff.1 read
      cases signed
      obtain ⟨⟨hours, rest⟩, -, read⟩ := Option.bind_eq_some_iff.1 read
      obtain ⟨⟨minutes, rest⟩, few, read⟩ := Option.bind_eq_some_iff.1 read
      have small := twoDigits?_le few
      dsimp only at read
      split at read
      · cases read
        omega
      · cases read
  unfold zone? at read
  split at read
  · cases read
    decide
  · split at read
    · cases read
      decide
    · cases read
      decide
    · exact within read

/-- What is read as a timestamp is a moment of the calendar. -/
theorem proper_of_ofText? {text : String} {moment : Timestamp} (read : ofText? text = some moment) :
    moment.Proper := by
  unfold ofText? ofChars? at read
  obtain ⟨⟨year, _⟩, -, read⟩ := Option.bind_eq_some_iff.1 read
  obtain ⟨⟨_, _⟩, -, read⟩ := Option.bind_eq_some_iff.1 read
  obtain ⟨⟨month, _⟩, months, read⟩ := Option.bind_eq_some_iff.1 read
  obtain ⟨⟨_, _⟩, -, read⟩ := Option.bind_eq_some_iff.1 read
  obtain ⟨⟨day, _⟩, days, read⟩ := Option.bind_eq_some_iff.1 read
  obtain ⟨⟨_, _⟩, -, read⟩ := Option.bind_eq_some_iff.1 read
  obtain ⟨⟨hour, _⟩, hours, read⟩ := Option.bind_eq_some_iff.1 read
  obtain ⟨⟨_, _⟩, -, read⟩ := Option.bind_eq_some_iff.1 read
  obtain ⟨⟨minute, _⟩, minutes, read⟩ := Option.bind_eq_some_iff.1 read
  obtain ⟨⟨_, _⟩, -, read⟩ := Option.bind_eq_some_iff.1 read
  obtain ⟨⟨second, _⟩, seconds, read⟩ := Option.bind_eq_some_iff.1 read
  obtain ⟨⟨nanosecond, _⟩, fraction, read⟩ := Option.bind_eq_some_iff.1 read
  obtain ⟨⟨ahead, _⟩, zone, read⟩ := Option.bind_eq_some_iff.1 read
  dsimp only at read
  split at read
  · next tests =>
    cases read
    simp only [Bool.and_eq_true, decide_eq_true_eq] at tests
    obtain ⟨⟨⟨-, last⟩, hasYear⟩, hasYear'⟩ := tests
    have here : Proper ⟨year, month, day, hour, minute, second, nanosecond⟩ := {
      month := bounded?_bounds months
      day := ⟨(bounded?_bounds days).1, last⟩
      hour_lt := Nat.lt_succ_of_le (bounded?_bounds hours).2
      minute_lt := Nat.lt_succ_of_le (bounded?_bounds minutes).2
      second_le := (bounded?_bounds seconds).2
      nanosecond_lt := fraction?_lt fraction
      hasYear := hasYear }
    have bounds := zone?_bounds zone
    exact here.addMinutes (by omega) hasYear'
  · cases read

end TokenRelay.Timestamp
