/-
# Reading what has been encoded

Supplies that reading undoes encoding. Every encoded character is read as itself, and a beginning of
an encoded character is kept apart whole. So whatever beginning of an encoded text has arrived, the
reader knows the characters that are complete and the bytes of the one that is not.
-/

import TokenRelay.Text.Utf8

namespace TokenRelay.Text.Utf8

/-- The value of a byte that is given by its value. -/
private theorem toNat_byte {value : Nat} (bound : value < 256) :
    (UInt8.ofNat value).toNat = value := by
  rw [UInt8.toNat_ofNat']
  exact Nat.mod_eq_of_lt bound

theorem opening_of_one {value : Nat} (bound : value < 0x80) :
    opening (UInt8.ofNat value) = .whole (Char.ofNat value) := by
  have same := toNat_byte (show value < 256 by omega)
  simp only [opening, same]
  rw [if_pos bound]

theorem opening_of_two (lead : Nat) (low : 2 ≤ lead) (high : lead < 32) :
    opening (UInt8.ofNat (lead + 0xC0)) =
      .first ⟨1, 0x80, 0xBF, lead, [UInt8.ofNat (lead + 0xC0)]⟩ := by
  have same := toNat_byte (show lead + 0xC0 < 256 by omega)
  simp only [opening, same]
  rw [if_neg (by omega), if_neg (by omega), if_pos (by omega), Nat.add_sub_cancel]

/-- The byte after the first one of three must not give a character that two bytes would do for, nor
half of a pair. -/
theorem opening_of_three (lead next : Nat) (bound : lead < 16) (inside : next < 64)
    (long : lead = 0 → 32 ≤ next) (single : lead = 13 → next < 32) :
    ∃ low high, opening (UInt8.ofNat (lead + 0xE0)) =
        .first ⟨2, low, high, lead, [UInt8.ofNat (lead + 0xE0)]⟩ ∧
      low ≤ next + 0x80 ∧ next + 0x80 ≤ high := by
  have same := toNat_byte (show lead + 0xE0 < 256 by omega)
  simp only [opening, same]
  rw [if_neg (by omega), if_neg (by omega), if_neg (by omega)]
  by_cases first : lead = 0
  · subst lead
    exact ⟨_, _, rfl, by have := long rfl; omega, by omega⟩
  · rw [if_neg (by omega)]
    by_cases half : lead = 13
    · subst lead
      exact ⟨_, _, rfl, by omega, by have := single rfl; omega⟩
    · rw [if_neg (by omega), if_pos (by omega), Nat.add_sub_cancel]
      exact ⟨_, _, rfl, by omega, by omega⟩

/-- The byte after the first one of four must not give a character that three bytes would do for,
nor one beyond the last. -/
theorem opening_of_four (lead next : Nat) (bound : lead < 5) (inside : next < 64)
    (long : lead = 0 → 16 ≤ next) (last : lead = 4 → next < 16) :
    ∃ low high, opening (UInt8.ofNat (lead + 0xF0)) =
        .first ⟨3, low, high, lead, [UInt8.ofNat (lead + 0xF0)]⟩ ∧
      low ≤ next + 0x80 ∧ next + 0x80 ≤ high := by
  have same := toNat_byte (show lead + 0xF0 < 256 by omega)
  simp only [opening, same]
  rw [if_neg (by omega), if_neg (by omega), if_neg (by omega), if_neg (by omega),
    if_neg (by omega), if_neg (by omega)]
  by_cases first : lead = 0
  · subst lead
    exact ⟨_, _, rfl, by have := long rfl; omega, by omega⟩
  · rw [if_neg (by omega)]
    by_cases final : lead = 4
    · subst lead
      exact ⟨_, _, rfl, by omega, by have := last rfl; omega⟩
    · rw [if_pos (by omega), Nat.add_sub_cancel]
      exact ⟨_, _, rfl, by omega, by omega⟩

/-- The bytes of a character behind its first one, six bits of the code each. -/
def tail (parts : List Nat) : List UInt8 :=
  parts.map fun part => UInt8.ofNat (part + 0x80)

/-- The code that the parts behind the first byte complete. -/
def complete (code : Nat) (parts : List Nat) : Nat :=
  parts.foldl (fun code part => code * 64 + part) code

/-- The reader goes through the bytes behind the first one. It is done with the last of them, and
up to there it keeps what it has read. -/
theorem readFrom_tail (units : List (Option Char)) {part : Nat} {parts : List Nat}
    {low high code : Nat} {held : List UInt8} (small : ∀ value ∈ part :: parts, value < 64)
    (above : low ≤ part + 0x80) (below : part + 0x80 ≤ high) :
    (∀ rest, readFrom units (some ⟨parts.length + 1, low, high, code, held⟩)
        (tail (part :: parts) ++ rest) =
      readFrom (some (Char.ofNat (complete code (part :: parts))) :: units) none rest) ∧
    ∀ count, count ≤ parts.length →
      readFrom units (some ⟨parts.length + 1, low, high, code, held⟩)
          ((tail (part :: parts)).take count) =
        (units.reverse, held.reverse ++ (tail (part :: parts)).take count) := by
  have value := toNat_byte (show part + 0x80 < 256 by have := small part (.head _); omega)
  induction parts generalizing part low high code held with
  | nil =>
      constructor
      · intro rest
        simp only [tail, List.map_cons, List.map_nil, List.cons_append, List.nil_append]
        rw [readFrom]
        simp only [value]
        rw [if_pos ⟨above, below⟩, if_pos (by simp), Nat.add_sub_cancel]
        rfl
      · intro count short
        obtain rfl := Nat.le_zero.1 short
        simp [readFrom]
  | cons next parts ih =>
      have small' : ∀ value ∈ next :: parts, value < 64 := fun value inside =>
        small value (.tail _ inside)
      have bound := small' next (.head _)
      -- Every byte but the first of these may have any part.
      have rest (code : Nat) (held : List UInt8) :=
        @ih next 0x80 0xBF code held small' (by omega) (by omega) (toNat_byte (by omega))
      have onward (bytes : List UInt8) :
          readFrom units (some ⟨(next :: parts).length + 1, low, high, code, held⟩)
              (UInt8.ofNat (part + 0x80) :: bytes) =
            readFrom units (some ⟨parts.length + 1, 0x80, 0xBF, code * 64 + part,
              UInt8.ofNat (part + 0x80) :: held⟩) bytes := by
        rw [readFrom]
        simp only [value]
        rw [if_pos ⟨above, below⟩, if_neg (by simp)]
        simp only [List.length_cons, Nat.add_sub_cancel]
      constructor
      · intro bytes
        exact (onward _).trans ((rest _ _).1 bytes)
      · intro count short
        cases count with
        | zero => simp [readFrom]
        | succ count =>
            refine (onward _).trans (((rest _ _).2 count (by simpa using short)).trans ?_)
            simp [tail]

/-- What the reader makes of an encoded character, and of every beginning of it. -/
structure Reads (character : Char) (bytes : List UInt8) : Prop where
  whole : ∀ units rest, readFrom units none (bytes ++ rest) =
    readFrom (some character :: units) none rest
  beginning : ∀ units count, count < bytes.length →
    readFrom units none (bytes.take count) = (units.reverse, bytes.take count)

theorem reads_short {character : Char} (bound : character.toNat < 0x80) :
    Reads character [UInt8.ofNat character.toNat] where
  whole units rest := by
    have first := opening_of_one bound
    rw [Char.ofNat_toNat] at first
    rw [List.cons_append, readFrom, first, List.nil_append]
  beginning units count inside := by
    obtain rfl : count = 0 := by simpa using inside
    rfl

theorem reads_long {character : Char} {byte : UInt8} {low high code : Nat} (part : Nat)
    (parts : List Nat)
    (first : opening byte = .first ⟨parts.length + 1, low, high, code, [byte]⟩)
    (small : ∀ value ∈ part :: parts, value < 64) (above : low ≤ part + 0x80)
    (below : part + 0x80 ≤ high) (completes : complete code (part :: parts) = character.toNat) :
    Reads character (byte :: tail (part :: parts)) := by
  have onward (units : List (Option Char)) (bytes : List UInt8) :
      readFrom units none (byte :: bytes) =
        readFrom units (some ⟨parts.length + 1, low, high, code, [byte]⟩) bytes := by
    rw [readFrom, first]
  constructor
  · intro units rest
    rw [List.cons_append, onward, (readFrom_tail units small above below).1, completes,
      Char.ofNat_toNat]
  · intro units count short
    cases count with
    | zero => rfl
    | succ count =>
        rw [List.take_succ_cons, onward]
        have within : count ≤ parts.length := by simpa [tail, Nat.lt_succ_iff] using short
        exact (readFrom_tail units small above below).2 count within

/-- Every character is read as itself. The four cases are those of the encoding. -/
theorem reads_encodeChar (character : Char) :
    Reads character (String.utf8EncodeChar character) := by
  have code : character.val.toNat = character.toNat := rfl
  have valid : character.toNat < 0xD800 ∨
      0xDFFF < character.toNat ∧ character.toNat < 0x110000 := character.valid
  unfold String.utf8EncodeChar
  simp only [code]
  split
  · exact reads_short (by omega)
  · split
    · have first := opening_of_two (character.toNat / 64 % 0x20) (by omega) (by omega)
      refine reads_long (character.toNat % 0x40) [] first ?_ (by omega) (by omega) ?_
      · simp only [List.mem_cons, List.not_mem_nil, or_false]
        omega
      · simp only [complete, List.foldl_cons, List.foldl_nil]
        omega
    · split
      · obtain ⟨low, high, first, above, below⟩ := opening_of_three
          (character.toNat / 4096 % 0x10) (character.toNat / 64 % 0x40)
          (by omega) (by omega) (by omega) (by omega)
        refine reads_long _ [character.toNat % 0x40] first ?_ above below ?_
        · simp only [List.mem_cons, List.not_mem_nil, or_false]
          omega
        · simp only [complete, List.foldl_cons, List.foldl_nil]
          omega
      · obtain ⟨low, high, first, above, below⟩ := opening_of_four
          (character.toNat / 262144 % 0x08) (character.toNat / 4096 % 0x40)
          (by omega) (by omega) (by omega) (by omega)
        refine reads_long _ [character.toNat / 64 % 0x40, character.toNat % 0x40] first ?_
          above below ?_
        · simp only [List.mem_cons, List.not_mem_nil, or_false]
          omega
        · simp only [complete, List.foldl_cons, List.foldl_nil]
          omega

@[simp]
theorem encode_nil : encode [] = [] := rfl

@[simp]
theorem encode_cons (character : Char) (rest : List Char) :
    encode (character :: rest) = String.utf8EncodeChar character ++ encode rest := rfl

@[simp]
theorem encode_append (first second : List Char) :
    encode (first ++ second) = encode first ++ encode second :=
  List.flatMap_append

/-- A beginning of an encoded text is read as the characters that are complete, and what is left of
the beginning goes on with the rest of the text. The induction is on the text. -/
theorem readFrom_of_append_eq_encode (units : List (Option Char)) {bytes rest : List UInt8}
    {characters : List Char} (whole : bytes ++ rest = encode characters) :
    ∃ ready later held, characters = ready ++ later ∧ bytes = encode ready ++ held ∧
      held ++ rest = encode later ∧
      readFrom units none bytes = (units.reverse ++ ready.map some, held) := by
  induction characters generalizing bytes units with
  | nil =>
      obtain ⟨rfl, rfl⟩ := List.append_eq_nil_iff.1 whole
      exact ⟨[], [], [], rfl, rfl, rfl, by simp [readFrom]⟩
  | cons character later ih =>
      have reads := reads_encodeChar character
      rw [encode_cons] at whole
      by_cases short : bytes.length < (String.utf8EncodeChar character).length
      · refine ⟨[], character :: later, bytes, rfl, rfl, whole, ?_⟩
        have beginning : bytes = (String.utf8EncodeChar character).take bytes.length := by
          have taken := congrArg (List.take bytes.length) whole
          rwa [List.take_left, List.take_append_of_le_length (Nat.le_of_lt short)] at taken
        have kept := reads.beginning units bytes.length short
        rw [← beginning] at kept
        simpa using kept
      · have beginning : String.utf8EncodeChar character <+: bytes ++ rest :=
          whole ▸ List.prefix_append _ _
        obtain ⟨bytes', rfl⟩ := List.prefix_of_prefix_length_le beginning
          (List.prefix_append bytes rest) (Nat.le_of_not_lt short)
        rw [List.append_assoc, List.append_cancel_left_eq] at whole
        obtain ⟨ready, later', held, rfl, rfl, onward, found⟩ :=
          ih (some character :: units) whole
        refine ⟨character :: ready, later', held, rfl, by simp, onward, ?_⟩
        rw [reads.whole, found]
        simp

theorem read_of_append_eq_encode {bytes rest : List UInt8} {characters : List Char}
    (whole : bytes ++ rest = encode characters) :
    ∃ ready later held, characters = ready ++ later ∧ bytes = encode ready ++ held ∧
      held ++ rest = encode later ∧ read bytes = (ready.map some, held) :=
  readFrom_of_append_eq_encode [] whole

theorem read_encode (characters : List Char) :
    read (encode characters) = (characters.map some, []) := by
  have reads (units : List (Option Char)) : readFrom units none (encode characters) =
      (units.reverse ++ characters.map some, []) := by
    induction characters generalizing units with
    | nil => simp [readFrom]
    | cons character rest ih =>
        rw [encode_cons, (reads_encodeChar character).whole, ih]
        simp
  exact reads []

theorem units_encode (characters : List Char) :
    units (encode characters) = characters.map some := by
  simp [units, read_encode]

theorem decodeLossy_encode (characters : List Char) :
    decodeLossy (encode characters) = characters := by
  simp [decodeLossy, units_encode, Function.comp_def]

/-- Only a carriage return is encoded with the byte of a carriage return at its end. -/
theorem getLast?_encodeChar (character : Char) :
    (String.utf8EncodeChar character).getLast? = some 13 ↔ character = '\r' := by
  constructor
  · intro last
    unfold String.utf8EncodeChar at last
    have high (part : Nat) : UInt8.ofNat (part % 0x40 + 0x80) ≠ 13 := by
      intro same
      have values := congrArg UInt8.toNat same
      rw [toNat_byte (by omega)] at values
      have thirteen : (13 : UInt8).toNat = 13 := rfl
      omega
    simp only at last
    split at last
    · next short =>
      rw [List.getLast?_singleton] at last
      have values := congrArg UInt8.toNat (Option.some.inj last)
      rw [toNat_byte (by omega)] at values
      exact Char.toNat_inj.1 values
    · split at last
      · exact absurd (Option.some.inj last) (high _)
      · split at last
        · exact absurd (Option.some.inj last) (high _)
        · exact absurd (Option.some.inj last) (high _)
  · rintro rfl
    rfl

theorem getLast?_encode_concat (characters : List Char) (character : Char) :
    (encode (characters ++ [character])).getLast? = some 13 ↔ character = '\r' := by
  have last := List.getLast?_eq_some_getLast (@String.utf8EncodeChar_ne_nil character)
  rw [← getLast?_encodeChar, encode_append, encode_cons, encode_nil, List.append_nil,
    List.getLast?_append, last, Option.some_or]

end TokenRelay.Text.Utf8
