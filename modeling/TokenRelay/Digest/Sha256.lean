/-
# SHA-256

Supplies the digest SHA-256 of a byte sequence: the message is padded to whole blocks of sixteen
words, and every block is mixed into a state of eight words in 64 rounds.
-/

namespace TokenRelay.Digest

/-- The state of the digest. -/
structure Sha256State where
  a : UInt32
  b : UInt32
  c : UInt32
  d : UInt32
  e : UInt32
  f : UInt32
  g : UInt32
  h : UInt32

namespace Sha256

/-- The state before the first block. -/
def initial : Sha256State :=
  ⟨0x6a09e667, 0xbb67ae85, 0x3c6ef372, 0xa54ff53a, 0x510e527f, 0x9b05688c, 0x1f83d9ab, 0x5be0cd19⟩

/-- The constants of the rounds. -/
def constants : List UInt32 :=
  [0x428a2f98, 0x71374491, 0xb5c0fbcf, 0xe9b5dba5, 0x3956c25b, 0x59f111f1, 0x923f82a4, 0xab1c5ed5,
    0xd807aa98, 0x12835b01, 0x243185be, 0x550c7dc3, 0x72be5d74, 0x80deb1fe, 0x9bdc06a7, 0xc19bf174,
    0xe49b69c1, 0xefbe4786, 0x0fc19dc6, 0x240ca1cc, 0x2de92c6f, 0x4a7484aa, 0x5cb0a9dc, 0x76f988da,
    0x983e5152, 0xa831c66d, 0xb00327c8, 0xbf597fc7, 0xc6e00bf3, 0xd5a79147, 0x06ca6351, 0x14292967,
    0x27b70a85, 0x2e1b2138, 0x4d2c6dfc, 0x53380d13, 0x650a7354, 0x766a0abb, 0x81c2c92e, 0x92722c85,
    0xa2bfe8a1, 0xa81a664b, 0xc24b8b70, 0xc76c51a3, 0xd192e819, 0xd6990624, 0xf40e3585, 0x106aa070,
    0x19a4c116, 0x1e376c08, 0x2748774c, 0x34b0bcb5, 0x391c0cb3, 0x4ed8aa4a, 0x5b9cca4f, 0x682e6ff3,
    0x748f82ee, 0x78a5636f, 0x84c87814, 0x8cc70208, 0x90befffa, 0xa4506ceb, 0xbef9a3f7, 0xc67178f2]

/-- A word turned to the right. -/
def rotate (word : UInt32) (places : UInt32) : UInt32 :=
  (word >>> places) ||| (word <<< (32 - places))

/-- One round. -/
def round (state : Sha256State) (constant word : UInt32) : Sha256State :=
  let mixedE := rotate state.e 6 ^^^ rotate state.e 11 ^^^ rotate state.e 25
  let chosen := (state.e &&& state.f) ^^^ ((~~~state.e) &&& state.g)
  let first := state.h + mixedE + chosen + constant + word
  let mixedA := rotate state.a 2 ^^^ rotate state.a 13 ^^^ rotate state.a 22
  let majority := (state.a &&& state.b) ^^^ (state.a &&& state.c) ^^^ (state.b &&& state.c)
  ⟨first + mixedA + majority, state.a, state.b, state.c, state.d + first, state.e, state.f, state.g⟩

/-- The word that follows sixteen words of the schedule. -/
def nextWord (window : List UInt32) : UInt32 :=
  let word (index : Nat) : UInt32 := window.getD index 0
  let low := word 1
  let high := word 14
  let mixedLow := rotate low 7 ^^^ rotate low 18 ^^^ (low >>> 3)
  let mixedHigh := rotate high 17 ^^^ rotate high 19 ^^^ (high >>> 10)
  word 0 + mixedLow + word 9 + mixedHigh

/-- The rounds of a block, over the next sixteen words of its schedule. -/
def rounds (state : Sha256State) (window : List UInt32) : List UInt32 → Sha256State
  | [] => state
  | constant :: rest =>
    rounds (round state constant (window.headD 0)) (window.drop 1 ++ [nextWord window]) rest

/-- Mixes a block of sixteen words into the state. -/
def compress (state : Sha256State) (block : List UInt32) : Sha256State :=
  let mixed := rounds state block constants
  ⟨state.a + mixed.a, state.b + mixed.b, state.c + mixed.c, state.d + mixed.d, state.e + mixed.e,
    state.f + mixed.f, state.g + mixed.g, state.h + mixed.h⟩

/-- The bytes of a number, the given count of them, the high ones first. -/
def bigEndian (value : Nat) : Nat → List UInt8
  | 0 => []
  | count + 1 => UInt8.ofNat (value / Nat.pow 256 count) :: bigEndian value count

/-- The padding of a message of the given length: a one bit, zeros up to the last eight bytes of a
block, and the length in bits. -/
def padding (length : Nat) : List UInt8 :=
  0x80 :: (List.replicate ((119 - length % 64) % 64) 0 ++ bigEndian (length * 8) 8)

/-- Mixes bytes into the state, one by one: the words of the current block, the latest first, and
the bytes of the current word. -/
def absorb (state : Sha256State) (words : List UInt32) (count : Nat) (word : UInt32)
    (inWord : Nat) : List UInt8 → Sha256State
  | [] => state
  | byte :: rest =>
    let word := (word <<< 8) ||| byte.toUInt32
    if inWord < 3 then absorb state words count word (inWord + 1) rest
    else if count < 15 then absorb state (word :: words) (count + 1) 0 0 rest
    else absorb (compress state (word :: words).reverse) [] 0 0 0 rest

end Sha256

/-- The 32 bytes of the digest of a message. -/
def sha256 (message : List UInt8) : List UInt8 :=
  let state :=
    Sha256.absorb Sha256.initial [] 0 0 0 (message ++ Sha256.padding message.length)
  [state.a, state.b, state.c, state.d, state.e, state.f, state.g, state.h].flatMap fun word =>
    Sha256.bigEndian word.toNat 4

end TokenRelay.Digest
