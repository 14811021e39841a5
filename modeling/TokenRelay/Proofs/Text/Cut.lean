/-
# Cuts between bytes

Supplies what becomes of bytes that are read in two parts. What is left unfinished at the end of the
first part can be read again in front of the second, and then the cut does not show. If each part is
read as if it were all, a cut that goes through a character, or through the beginning of one, shows
in that there are more units than before.
-/

import TokenRelay.Proofs.Text.Boundary

namespace TokenRelay.Text.Utf8

/-- The units that bytes complete in a state of the reader, and the state behind them. -/
def scan (state : Option Unfinished) : List UInt8 → List (Option Char) × Option Unfinished
  | [] => ([], state)
  | byte :: rest =>
    let after := step state byte
    (after.1.reverse ++ (scan after.2 rest).1, (scan after.2 rest).2)

/-- The bytes of an unfinished character in their order. -/
def pending (state : Option Unfinished) : List UInt8 :=
  state.elim [] (·.bytes.reverse)

theorem readFrom_eq_scan (state : Option Unfinished) (bytes : List UInt8) :
    readFrom [] state bytes = ((scan state bytes).1, pending (scan state bytes).2) := by
  induction bytes generalizing state with
  | nil => cases state <;> rfl
  | cons byte rest ih =>
      rw [readFrom_cons, readFrom_units, ih, scan]
      simp

theorem read_eq_scan (bytes : List UInt8) :
    read bytes = ((scan none bytes).1, pending (scan none bytes).2) :=
  readFrom_eq_scan none bytes

theorem scan_append (state : Option Unfinished) (first second : List UInt8) :
    scan state (first ++ second) =
      ((scan state first).1 ++ (scan (scan state first).2 second).1,
        (scan (scan state first).2 second).2) := by
  induction first generalizing state with
  | nil => rfl
  | cons byte rest ih => simp [scan, ih]

/-- What is known about an unfinished character. The bytes it waits for start no character, and the
code it will have is not that of a byte that stands for itself. -/
structure Unfinished.Sound (unfinished : Unfinished) : Prop where
  low : 0x80 ≤ unfinished.low
  high : unfinished.high ≤ 0xBF
  wide : (if unfinished.owed ≤ 1 then 0x80 else 2) ≤
    unfinished.code * 64 + (unfinished.low - 0x80)

theorem sound_opening {byte : UInt8} {unfinished : Unfinished}
    (first : opening byte = .first unfinished) : unfinished.Sound := by
  unfold opening at first
  simp only at first
  repeat' split at first
  all_goals cases first <;> constructor <;> simp <;> omega

/-- A state that the reader reaches: the bytes it keeps would lead there by themselves. -/
structure Reached (state : Option Unfinished) : Prop where
  alone : scan none (pending state) = ([], state)
  sound : ∀ unfinished ∈ state, unfinished.Sound

theorem reached_none : Reached none := ⟨rfl, nofun⟩

/-- The byte goes on with the character. -/
def Unfinished.Takes (unfinished : Unfinished) (byte : UInt8) : Prop :=
  unfinished.low ≤ byte.toNat ∧ byte.toNat ≤ unfinished.high

/-- The character with one more of its bytes. -/
def Unfinished.extend (unfinished : Unfinished) (byte : UInt8) : Unfinished :=
  ⟨unfinished.owed - 1, 0x80, 0xBF, unfinished.code * 64 + (byte.toNat - 0x80),
    byte :: unfinished.bytes⟩

section Step

variable {unfinished : Unfinished} {byte : UInt8}

theorem step_of_last (takes : unfinished.Takes byte) (last : unfinished.owed ≤ 1) :
    step (some unfinished) byte =
      ([some (Char.ofNat (unfinished.extend byte).code)], none) := by
  unfold Unfinished.Takes at takes
  simp only [step, if_pos takes, if_pos last, Unfinished.extend]

theorem step_of_more (takes : unfinished.Takes byte) (more : ¬ unfinished.owed ≤ 1) :
    step (some unfinished) byte = ([], some (unfinished.extend byte)) := by
  unfold Unfinished.Takes at takes
  simp only [step, if_pos takes, if_neg more, Unfinished.extend]

theorem step_of_refused (refused : ¬ unfinished.Takes byte) :
    step (some unfinished) byte = start [none] byte := by
  unfold Unfinished.Takes at refused
  simp only [step, if_neg refused]

/-- A byte that goes on with a character starts none. -/
theorem start_of_takes (sound : unfinished.Sound) (takes : unfinished.Takes byte)
    (units : List (Option Char)) : start units byte = (none :: units, none) := by
  obtain ⟨above, below⟩ := takes
  have low := sound.low
  have high := sound.high
  have stray : opening byte = .stray := by
    simp only [opening]
    rw [if_neg (by omega), if_pos (by omega)]
  rw [start, stray]

theorem Unfinished.Sound.extend (sound : unfinished.Sound) (takes : unfinished.Takes byte)
    (more : ¬ unfinished.owed ≤ 1) : (unfinished.extend byte).Sound where
  low := Nat.le_refl _
  high := Nat.le_refl _
  wide := by
    have wide := sound.wide
    have low := sound.low
    have above := takes.1
    rw [if_neg more] at wide
    have bound : (if (unfinished.extend byte).owed ≤ 1 then 0x80 else 2) ≤ 0x80 := by
      split <;> decide
    refine Nat.le_trans bound ?_
    simp only [Unfinished.extend]
    omega

end Step

/-- A byte that starts something leads to where it leads by itself. -/
theorem Reached.start (units : List (Option Char)) (byte : UInt8) :
    Reached (start units byte).2 := by
  unfold Utf8.start
  cases opens : opening byte with
  | whole | stray => exact reached_none
  | first unfinished =>
      refine ⟨?_, by rintro _ ⟨⟩; exact sound_opening opens⟩
      simp [pending, (opening_first opens).2, scan, step, Utf8.start, opens]

theorem Reached.step {state : Option Unfinished} (reached : Reached state) (byte : UInt8) :
    Reached (step state byte).2 := by
  cases state with
  | none => exact .start [] byte
  | some unfinished =>
      have sound := reached.sound unfinished rfl
      by_cases takes : unfinished.Takes byte
      · by_cases last : unfinished.owed ≤ 1
        · rw [step_of_last takes last]
          exact reached_none
        · have next := step_of_more takes last
          refine ⟨?_, ?_⟩
          · have kept : pending (some (unfinished.extend byte)) =
                pending (some unfinished) ++ [byte] := by
              simp [pending, Unfinished.extend]
            rw [next, kept, scan_append, reached.alone]
            simp [scan, next]
          · rw [next]
            rintro _ ⟨⟩
            exact sound.extend takes last
      · rw [step_of_refused takes]
        exact .start [none] byte

theorem Reached.scan {state : Option Unfinished} (reached : Reached state) (bytes : List UInt8) :
    Reached (scan state bytes).2 := by
  induction bytes generalizing state with
  | nil => exact reached
  | cons byte rest ih => exact ih (reached.step byte)

theorem pending_ne_nil {unfinished : Unfinished} (reached : Reached (some unfinished)) :
    pending (some unfinished) ≠ [] := by
  intro empty
  have alone := reached.alone
  rw [empty] at alone
  cases alone

/-- The units of bytes that nothing follows, in a state of the reader. -/
def closed (state : Option Unfinished) (bytes : List UInt8) : List (Option Char) :=
  (scan state bytes).1 ++ if (scan state bytes).2.isSome then [none] else []

theorem units_eq_closed (bytes : List UInt8) : units bytes = closed none bytes := by
  have reached := reached_none.scan bytes
  rw [units, read_eq_scan, closed]
  generalize scan none bytes = found at reached ⊢
  obtain ⟨characters, - | unfinished⟩ := found
  · simp [pending]
  · have some := pending_ne_nil reached
    generalize pending (Option.some unfinished) = held at some
    cases held with
    | nil => exact absurd rfl some
    | cons => rfl

theorem closed_append (state : Option Unfinished) (first second : List UInt8) :
    closed state (first ++ second) =
      (scan state first).1 ++ closed (scan state first).2 second := by
  simp [closed, scan_append]

/-- What is unfinished at the end of the first part can be read again in front of the second. -/
theorem units_append (first second : List UInt8) :
    units (first ++ second) =
      (read first).1 ++ units ((read first).2 ++ second) := by
  have again := (reached_none.scan first).alone
  rw [units_eq_closed, units_eq_closed, read_eq_scan, closed_append, closed_append, again]
  rfl

/-- What is unfinished behind a byte: nothing, one more byte of what was unfinished before, or what
the byte starts. -/
theorem pending_step (state : Option Unfinished) (byte : UInt8) :
    (step state byte).2 = none ∨
      ((step state byte).1 = [] ∧ pending (step state byte).2 = pending state ++ [byte]) ∨
      ((step state byte).1 = (if state.isSome then [none] else []) ∧
        pending (step state byte).2 = [byte]) := by
  have starts (units : List (Option Char)) : (start units byte).2 = none ∨
      ((start units byte).1 = units ∧ pending (start units byte).2 = [byte]) := by
    unfold start
    cases opens : opening byte with
    | whole | stray => exact .inl rfl
    | first unfinished => exact .inr ⟨rfl, by simp [pending, (opening_first opens).2]⟩
  cases state with
  | none => exact (starts []).imp_right .inr
  | some unfinished =>
      by_cases takes : unfinished.Takes byte
      · by_cases last : unfinished.owed ≤ 1
        · exact .inl (by rw [step_of_last takes last])
        · refine .inr (.inl ?_)
          rw [step_of_more takes last]
          exact ⟨rfl, by simp [pending, Unfinished.extend]⟩
      · rw [step_of_refused takes]
        exact (starts [none]).imp_right .inr

/-- Bytes are those of the units that they complete, and what is left unfinished at their end. The
induction is on the bytes from their end: where something starts, all before it is complete. -/
theorem exists_ready (bytes : List UInt8) :
    ∃ ready, bytes = ready ++ (read bytes).2 ∧ units ready = (read bytes).1 := by
  simp only [read_eq_scan, units_eq_closed]
  induction length : bytes.length generalizing bytes with
  | zero =>
      obtain rfl := List.eq_nil_of_length_eq_zero length
      exact ⟨[], rfl, rfl⟩
  | succ _ ih =>
      rcases List.eq_nil_or_concat bytes with rfl | ⟨bytes, byte, rfl⟩
      · cases length
      rw [List.concat_eq_append] at length ⊢
      have behind : scan none (bytes ++ [byte]) =
          ((scan none bytes).1 ++ (step (scan none bytes).2 byte).1.reverse,
            (step (scan none bytes).2 byte).2) := by
        simp [scan_append, scan]
      rcases pending_step (scan none bytes).2 byte with nothing | ⟨same, longer⟩ | ⟨ends, fresh⟩
      · refine ⟨bytes ++ [byte], ?_, ?_⟩
        · simp [behind, nothing, pending]
        · simp [closed, behind, nothing]
      · obtain ⟨ready, split, complete⟩ := ih bytes (by simpa using length)
        refine ⟨ready, ?_, ?_⟩
        · rw [behind, longer, ← List.append_assoc, ← split]
        · simp [behind, same, complete]
      · refine ⟨bytes, by rw [behind, fresh], ?_⟩
        rw [behind, closed, ends]
        split <;> rfl

/-- The cut goes through no character and no beginning of one. -/
def Apart (first second : List UInt8) : Prop :=
  units (first ++ second) = units first ++ units second

/-- How many units there are, but for carriage returns, some of which will be dropped. -/
def weight (units : List (Option Char)) : Nat := units.countP (· ≠ some '\r')

theorem weight_append (first second : List (Option Char)) :
    weight (first ++ second) = weight first + weight second :=
  List.countP_append

theorem weight_none (units : List (Option Char)) : weight (none :: units) = 1 + weight units :=
  weight_append [none] units

theorem closed_cons (state : Option Unfinished) (byte : UInt8) (rest : List UInt8) :
    closed state (byte :: rest) =
      (step state byte).1.reverse ++ closed (step state byte).2 rest := by
  rw [closed, closed, scan, List.append_assoc]

/-- Read as if nothing were unfinished, bytes that go on with a character make more units; others
make the same, behind what is left unfinished for good. -/
theorem closed_some {unfinished : Unfinished} (reached : Reached (some unfinished))
    (bytes : List UInt8) :
    closed (some unfinished) bytes = none :: closed none bytes ∨
      weight (closed (some unfinished) bytes) < weight (none :: closed none bytes) := by
  induction bytes generalizing unfinished with
  | nil => exact .inl rfl
  | cons byte rest ih =>
      have sound := reached.sound unfinished rfl
      by_cases takes : unfinished.Takes byte
      · have stray : step none byte = ([none], none) := start_of_takes sound takes []
        have fresh : closed none (byte :: rest) = none :: closed none rest := by
          rw [closed_cons, stray]
          rfl
        rw [fresh, closed_cons, weight_none, weight_none]
        right
        by_cases last : unfinished.owed ≤ 1
        · have one : weight [some (Char.ofNat (unfinished.extend byte).code)] ≤ 1 :=
            List.countP_le_length
          simp only [step_of_last takes last, weight_append, List.reverse_singleton]
          omega
        · have next := reached.step byte
          rw [step_of_more takes last] at next ⊢
          have later : weight (closed (some (unfinished.extend byte)) rest) ≤
              1 + weight (closed none rest) := by
            rcases ih next with same | less
            · exact Nat.le_of_eq (by rw [same, weight_none])
            · rw [weight_none] at less
              exact Nat.le_of_lt less
          simp only [List.reverse_nil, List.nil_append]
          omega
      · left
        have behind : step (some unfinished) byte =
            ((step none byte).1 ++ [none], (step none byte).2) := by
          rw [step_of_refused takes, step, start, start]
          cases opening byte <;> rfl
        rw [closed_cons, closed_cons, behind]
        simp

/-- A cut through a character, or through the beginning of one, makes more units. -/
theorem apart_or_weight_lt (first second : List UInt8) :
    Apart first second ∨
      weight (units (first ++ second)) < weight (units first ++ units second) := by
  have reached := reached_none.scan first
  have split : closed none first =
      (scan none first).1 ++ if (scan none first).2.isSome then [none] else [] := rfl
  simp only [Apart, units_eq_closed, closed_append, split]
  generalize scan none first = found at reached ⊢
  obtain ⟨characters, - | unfinished⟩ := found
  · left
    simp
  · rcases closed_some reached second with same | less
    · left
      simp [same]
    · right
      rw [weight_none] at less
      simp only [Option.isSome_some, if_true, weight_append, weight_none]
      simp only [weight, List.countP_nil]
      simp only [weight] at less
      omega

theorem weight_units_append_le (first second : List UInt8) :
    weight (units (first ++ second)) ≤ weight (units first) + weight (units second) := by
  rw [← weight_append]
  rcases apart_or_weight_lt first second with apart | less
  · exact Nat.le_of_eq (congrArg weight apart)
  · exact Nat.le_of_lt less

/-- A carriage return has no other code. -/
theorem eq_of_ofNat_eq_return {code : Nat} (returns : Char.ofNat code = '\r') : code = 13 := by
  by_cases valid : code.isValidChar
  · rw [Char.ofNat, dif_pos valid] at returns
    exact congrArg Char.toNat returns
  · rw [Char.ofNat, dif_neg valid] at returns
    cases returns

/-- A byte behind which nothing is unfinished completes a unit, and a carriage return only if it is
one. -/
theorem head?_step {state : Option Unfinished} (reached : Reached state) {byte : UInt8}
    (complete : (step state byte).2 = none) :
    ∃ unit, (step state byte).1.head? = some unit ∧ (unit = some '\r' → byte = 13) := by
  have starts {units : List (Option Char)} (complete : (start units byte).2 = none) :
      ∃ unit, (start units byte).1.head? = some unit ∧ (unit = some '\r' → byte = 13) := by
    unfold start at complete ⊢
    cases opens : opening byte with
    | whole character =>
        refine ⟨some character, rfl, fun returns => ?_⟩
        unfold opening at opens
        simp only at opens
        repeat' split at opens
        all_goals cases opens
        exact UInt8.toNat_inj.1 (eq_of_ofNat_eq_return (Option.some.inj returns))
    | first unfinished => simp [opens] at complete
    | stray => exact ⟨none, rfl, nofun⟩
  cases state with
  | none => exact starts complete
  | some unfinished =>
      have sound := reached.sound unfinished rfl
      by_cases takes : unfinished.Takes byte
      · by_cases last : unfinished.owed ≤ 1
        · rw [step_of_last takes last]
          refine ⟨_, rfl, fun returns => ?_⟩
          -- A character of several bytes is none that one byte would do for.
          have code := eq_of_ofNat_eq_return (Option.some.inj returns)
          have wide := sound.wide
          have low := sound.low
          have above := takes.1
          rw [if_pos last] at wide
          simp only [Unfinished.extend] at code
          omega
        · rw [step_of_more takes last] at complete
          cases complete
      · rw [step_of_refused takes] at complete ⊢
        exact starts complete

/-- Only bytes that end with a carriage return are read as such a text. -/
theorem getLast?_units {bytes : List UInt8} (returns : (units bytes).getLast? = some (some '\r')) :
    bytes.getLast? = some 13 := by
  rcases List.eq_nil_or_concat bytes with rfl | ⟨body, byte, rfl⟩
  · cases returns
  rw [List.concat_eq_append] at returns ⊢
  have reached := reached_none.scan body
  rw [units_eq_closed, closed_append, closed_cons] at returns
  rw [List.getLast?_append, List.getLast?_singleton, Option.some_or]
  cases complete : (step (scan none body).2 byte).2 with
  | some unfinished => simp [complete, closed, scan] at returns
  | none =>
      obtain ⟨unit, first, only⟩ := head?_step reached complete
      have nothing : closed none [] = [] := rfl
      rw [complete, nothing, List.append_nil, List.getLast?_append, List.getLast?_reverse, first,
        Option.some_or] at returns
      rw [only (Option.some.inj returns)]

/-- A byte that stands for itself is read apart from what comes before it and behind it. -/
theorem units_append_ascii {byte : UInt8} (ascii : byte.toNat < 0x80) (body rest : List UInt8) :
    units (body ++ byte :: rest) = units body ++ some (Char.ofNat byte.toNat) :: units rest := by
  have opens : opening byte = .whole (Char.ofNat byte.toNat) := by
    unfold opening
    exact if_pos ascii
  have reached := reached_none.scan body
  have split : closed none body =
      (scan none body).1 ++ if (scan none body).2.isSome then [none] else [] := rfl
  simp only [units_eq_closed, closed_append, closed_cons, split]
  generalize scan none body = found at reached ⊢
  obtain ⟨characters, - | unfinished⟩ := found
  · simp [step, start, opens]
  · have refused : ¬ unfinished.Takes byte := fun takes =>
      absurd (Nat.le_trans (reached.sound unfinished rfl).low takes.1) (Nat.not_le_of_lt ascii)
    simp [step_of_refused refused, start, opens]

end TokenRelay.Text.Utf8
