/-
# Where reading can be taken apart

Supplies that any bytes, also ones that are no UTF-8, can be read in two parts if the first part
ends with a byte that stands for itself: behind such a byte a character may start, whatever comes
before. The reader is taken as a machine that makes one step for each byte.
-/

import TokenRelay.Text.Utf8

namespace TokenRelay.Text.Utf8

/-- The units that a byte completes where a character may start, behind the given ones, and the
character that it leaves unfinished. -/
def start (units : List (Option Char)) (byte : UInt8) : List (Option Char) × Option Unfinished :=
  match opening byte with
  | .whole character => (some character :: units, none)
  | .first unfinished => (units, some unfinished)
  | .stray => (none :: units, none)

/-- The units that a byte completes in a state of the reader, the latest first, and the state
behind it. -/
def step (state : Option Unfinished) (byte : UInt8) : List (Option Char) × Option Unfinished :=
  match state with
  | none => start [] byte
  | some unfinished =>
    if unfinished.low ≤ byte.toNat ∧ byte.toNat ≤ unfinished.high then
      let code := unfinished.code * 64 + (byte.toNat - 0x80)
      if unfinished.owed ≤ 1 then ([some (Char.ofNat code)], none)
      else ([], some ⟨unfinished.owed - 1, 0x80, 0xBF, code, byte :: unfinished.bytes⟩)
    else start [none] byte

theorem readFrom_cons (units : List (Option Char)) (state : Option Unfinished) (byte : UInt8)
    (rest : List UInt8) :
    readFrom units state (byte :: rest) =
      readFrom ((step state byte).1 ++ units) (step state byte).2 rest := by
  cases state with
  | none =>
      rw [readFrom, step, start]
      cases opening byte <;> rfl
  | some unfinished =>
      rw [readFrom, step]
      simp only
      split
      · split <;> rfl
      · rw [start]
        cases opening byte <;> rfl

/-- The bytes of a character behind its first one do not stand for themselves. -/
theorem opening_first {byte : UInt8} {unfinished : Unfinished}
    (first : opening byte = .first unfinished) :
    0x80 ≤ unfinished.low ∧ unfinished.bytes = [byte] := by
  unfold opening at first
  simp only at first
  repeat' split at first
  all_goals cases first <;> exact ⟨by simp, rfl⟩

/-- The units read so far come before those still to be read. -/
theorem readFrom_units (units : List (Option Char)) (state : Option Unfinished)
    (bytes : List UInt8) :
    readFrom units state bytes =
      (units.reverse ++ (readFrom [] state bytes).1, (readFrom [] state bytes).2) := by
  induction bytes generalizing units state with
  | nil => cases state <;> simp [readFrom]
  | cons byte rest ih =>
      rw [readFrom_cons, readFrom_cons, ih, ih ((step state byte).1 ++ [])]
      simp

/-- A state that the reader can be in: what it waits for does not stand for itself. -/
def Waits (state : Option Unfinished) : Prop :=
  ∀ unfinished ∈ state, 0x80 ≤ unfinished.low

theorem Waits.step {state : Option Unfinished} (waits : Waits state) (byte : UInt8) :
    Waits (step state byte).2 := by
  have opened (units : List (Option Char)) : Waits (start units byte).2 := by
    unfold start
    split
    · nofun
    · next first =>
      rintro unfinished ⟨⟩
      exact (opening_first first).1
    · nofun
  unfold Utf8.step
  split
  · exact opened []
  · simp only
    split
    · split
      · nofun
      · rintro unfinished ⟨⟩
        exact Nat.le_refl _
    · exact opened [none]

theorem step_ascii {state : Option Unfinished} (waits : Waits state) {byte : UInt8}
    (ascii : byte.toNat < 0x80) :
    ∃ units, step state byte = (some (Char.ofNat byte.toNat) :: units, none) := by
  have opens : opening byte = .whole (Char.ofNat byte.toNat) := by
    unfold opening
    exact if_pos ascii
  cases state with
  | none => exact ⟨[], by simp [step, start, opens]⟩
  | some unfinished =>
      have early : ¬ (unfinished.low ≤ byte.toNat ∧ byte.toNat ≤ unfinished.high) := by
        have := waits unfinished rfl
        omega
      exact ⟨[none], by simp only [step, if_neg early, start, opens]⟩

/-- Behind a byte that stands for itself a character may start, whatever comes before. -/
theorem readFrom_ascii {byte : UInt8} (ascii : byte.toNat < 0x80) (body : List UInt8)
    (units : List (Option Char)) {state : Option Unfinished} (waits : Waits state) :
    ∃ before, ∀ rest, readFrom units state (body ++ byte :: rest) =
      readFrom (some (Char.ofNat byte.toNat) :: before) none rest := by
  induction body generalizing units state with
  | nil =>
      obtain ⟨before, taken⟩ := step_ascii waits ascii
      exact ⟨before ++ units, fun rest => by rw [List.nil_append, readFrom_cons, taken]; rfl⟩
  | cons first body ih =>
      obtain ⟨before, onward⟩ := ih ((step state first).1 ++ units) (waits.step first)
      exact ⟨before, fun rest => by rw [List.cons_append, readFrom_cons, onward]⟩

/-- What is kept apart at the end are bytes at the end. -/
theorem length_readFrom (units : List (Option Char)) (state : Option Unfinished)
    (bytes : List UInt8) :
    (readFrom units state bytes).2.length ≤
      (state.elim 0 (·.bytes.length)) + bytes.length := by
  induction bytes generalizing units state with
  | nil => cases state <;> simp [readFrom]
  | cons byte rest ih =>
      have opened (units : List (Option Char)) :
          (start units byte).2.elim 0 (·.bytes.length) ≤ 1 := by
        unfold start
        split
        · exact Nat.zero_le _
        · next first => simp [(opening_first first).2]
        · exact Nat.zero_le _
      have kept : (step state byte).2.elim 0 (·.bytes.length) ≤
          state.elim 0 (·.bytes.length) + 1 := by
        unfold step
        split
        · exact opened []
        · simp only
          split
          · split <;> simp
          · exact Nat.le_trans (opened [none]) (Nat.le_add_left _ _)
      rw [readFrom_cons]
      have := ih ((step state byte).1 ++ units) (step state byte).2
      rw [List.length_cons]
      omega

theorem length_read (bytes : List UInt8) : (read bytes).2.length ≤ bytes.length := by
  have kept := length_readFrom [] none bytes
  rwa [Option.elim_none, Nat.zero_add] at kept

/-- Bytes behind one that stands for itself are read on their own. -/
theorem read_append_ascii {byte : UInt8} (ascii : byte.toNat < 0x80) (body : List UInt8) :
    ∃ before, ∀ rest, read (body ++ byte :: rest) =
      (before ++ some (Char.ofNat byte.toNat) :: (read rest).1, (read rest).2) := by
  obtain ⟨before, reads⟩ := @readFrom_ascii byte ascii body [] none nofun
  refine ⟨before.reverse, fun rest => ?_⟩
  rw [read, reads, readFrom_units, ← read]
  simp

theorem decodeLossy_append_ascii {byte : UInt8} (ascii : byte.toNat < 0x80) (body : List UInt8) :
    ∃ before, ∀ rest, decodeLossy (body ++ byte :: rest) =
      before ++ Char.ofNat byte.toNat :: decodeLossy rest := by
  obtain ⟨before, reads⟩ := read_append_ascii ascii body
  refine ⟨before.map (·.getD replacement), fun rest => ?_⟩
  simp only [decodeLossy, units, reads]
  generalize read rest = found
  obtain ⟨characters, - | _⟩ := found <;> simp

end TokenRelay.Text.Utf8
