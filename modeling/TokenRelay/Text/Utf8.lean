/-
# UTF-8

Supplies the reading of bytes as UTF-8. The reader walks the bytes once and says, for every
position, which character stands there or that no character does: `none` marks one maximal run
of bytes that starts a character without finishing it, or one byte that starts none. Bytes at
the very end that could still become a character are kept apart, so one reading serves three
uses: strict text, text with replacement characters, and text that arrives in pieces.
-/

namespace TokenRelay.Text.Utf8

/-- A character whose first bytes have been read and whose last bytes are still owed. -/
structure Unfinished where
  /-- How many more bytes the character needs; never zero. -/
  owed : Nat
  /-- The least value of the next byte. -/
  low : Nat
  /-- The greatest value of the next byte. -/
  high : Nat
  /-- The bits collected so far. -/
  code : Nat
  /-- The bytes read so far, the latest first. -/
  bytes : List UInt8

/-- What a byte means where a character may start. -/
inductive Opening where
  /-- A character of one byte. -/
  | whole (character : Char)
  /-- The first byte of a longer character. -/
  | first (unfinished : Unfinished)
  /-- No character starts with this byte. -/
  | stray

/-- The meaning of a byte where a character may start, by the table of well-formed sequences. -/
def opening (byte : UInt8) : Opening :=
  let value := byte.toNat
  if value < 0x80 then .whole (Char.ofNat value)
  else if value < 0xC2 then .stray
  else if value < 0xE0 then .first ⟨1, 0x80, 0xBF, value - 0xC0, [byte]⟩
  else if value = 0xE0 then .first ⟨2, 0xA0, 0xBF, 0, [byte]⟩
  else if value = 0xED then .first ⟨2, 0x80, 0x9F, 0xD, [byte]⟩
  else if value < 0xF0 then .first ⟨2, 0x80, 0xBF, value - 0xE0, [byte]⟩
  else if value = 0xF0 then .first ⟨3, 0x90, 0xBF, 0, [byte]⟩
  else if value < 0xF4 then .first ⟨3, 0x80, 0xBF, value - 0xF0, [byte]⟩
  else if value = 0xF4 then .first ⟨3, 0x80, 0x8F, 4, [byte]⟩
  else .stray

/-- Reads the bytes from the given state; the units read so far come latest first. -/
def readFrom (units : List (Option Char)) :
    Option Unfinished → List UInt8 → List (Option Char) × List UInt8
  | none, [] => (units.reverse, [])
  | some unfinished, [] => (units.reverse, unfinished.bytes.reverse)
  | none, byte :: rest =>
    match opening byte with
    | .whole character => readFrom (some character :: units) none rest
    | .first unfinished => readFrom units (some unfinished) rest
    | .stray => readFrom (none :: units) none rest
  | some unfinished, byte :: rest =>
    let value := byte.toNat
    if unfinished.low ≤ value ∧ value ≤ unfinished.high then
      let code := unfinished.code * 64 + (value - 0x80)
      if unfinished.owed ≤ 1 then readFrom (some (Char.ofNat code) :: units) none rest
      else
        readFrom units
          (some ⟨unfinished.owed - 1, 0x80, 0xBF, code, byte :: unfinished.bytes⟩) rest
    else
      match opening byte with
      | .whole character => readFrom (some character :: none :: units) none rest
      | .first next => readFrom (none :: units) (some next) rest
      | .stray => readFrom (none :: none :: units) none rest

/-- The characters of a byte sequence, `none` where the bytes are no UTF-8, and the bytes at the
end that start a character without finishing it. -/
def read (bytes : List UInt8) : List (Option Char) × List UInt8 :=
  readFrom [] none bytes

/-- The units of a complete byte sequence: an unfinished character at the end is no UTF-8. -/
def units (bytes : List UInt8) : List (Option Char) :=
  match read bytes with
  | (characters, []) => characters
  | (characters, _ :: _) => characters ++ [none]

/-- The text of a byte sequence, if all of it is UTF-8. -/
def decode? (bytes : List UInt8) : Option String :=
  let found := units bytes
  if found.all Option.isSome then some (String.ofList (found.filterMap id)) else none

/-- The character written in place of bytes that are no UTF-8. -/
def replacement : Char := '\uFFFD'

/-- The characters of a byte sequence, with one replacement character for every run of bytes that
is no UTF-8. -/
def decodeLossy (bytes : List UInt8) : List Char :=
  (units bytes).map (·.getD replacement)

/-- The bytes of a list of characters. -/
def encode (characters : List Char) : List UInt8 :=
  characters.flatMap String.utf8EncodeChar

end TokenRelay.Text.Utf8
