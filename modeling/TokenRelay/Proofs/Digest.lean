/-
# Texts of digests

Supplies that every digest has 32 bytes, so that its text has 64 characters, all of them lower-case
hexadecimal digits, and that the text tells the bytes: different byte sequences have different
texts.
-/

import TokenRelay.Digest.Sha256
import TokenRelay.Text.Hex

namespace TokenRelay

namespace Text.Hex

/-- A hexadecimal digit in lower case. -/
def IsLower (character : Char) : Prop :=
  ('0' ≤ character ∧ character ≤ '9') ∨ ('a' ≤ character ∧ character ≤ 'f')

instance (character : Char) : Decidable (IsLower character) :=
  inferInstanceAs (Decidable (_ ∨ _))

theorem isLower_digit : ∀ value < 16, IsLower (digit value) := by decide

/-- Different numbers have different digits. -/
theorem digit_inj {first second : Nat} (small : first < 16) (small' : second < 16)
    (same : digit first = digit second) : first = second := by
  have values := congrArg value? same
  rw [value?_digit first small, value?_digit second small'] at values
  exact Option.some.inj values

@[simp]
theorem encode_cons (byte : UInt8) (rest : List UInt8) :
    encode (byte :: rest) =
      digit (byte.toNat / 16) :: digit (byte.toNat % 16) :: encode rest := rfl

private theorem halves_lt (byte : UInt8) : byte.toNat / 16 < 16 ∧ byte.toNat % 16 < 16 := by
  have bound := byte.toNat_lt
  omega

@[simp]
theorem length_encode (bytes : List UInt8) : (encode bytes).length = 2 * bytes.length := by
  induction bytes with
  | nil => rfl
  | cons byte rest ih =>
      simp only [encode_cons, List.length_cons, ih]
      omega

theorem isLower_of_mem_encode {bytes : List UInt8} {character : Char}
    (inside : character ∈ encode bytes) : IsLower character := by
  obtain ⟨byte, -, within⟩ := List.mem_flatMap.1 inside
  obtain ⟨high, low⟩ := halves_lt byte
  simp only [List.mem_cons, List.not_mem_nil, or_false] at within
  rcases within with rfl | rfl
  · exact isLower_digit _ high
  · exact isLower_digit _ low

/-- Different byte sequences have different texts: the two digits of a byte are its halves. -/
theorem encode_injective : Function.Injective encode := by
  intro first
  induction first with
  | nil =>
      intro second same
      cases second with
      | nil => rfl
      | cons byte rest => cases same
  | cons byte rest ih =>
      intro second same
      cases second with
      | nil => cases same
      | cons byte' rest' =>
          simp only [encode_cons, List.cons.injEq] at same
          obtain ⟨high, low, later⟩ := same
          have one := halves_lt byte
          have other := halves_lt byte'
          have highs := digit_inj one.1 other.1 high
          have lows := digit_inj one.2 other.2 low
          have bytes : byte = byte' := UInt8.toNat_inj.1 (by omega)
          rw [bytes, ih later]

end Text.Hex

namespace Digest

private theorem Sha256.length_bigEndian (value count : Nat) :
    (bigEndian value count).length = count := by
  induction count with
  | zero => rfl
  | succ count ih => rw [bigEndian, List.length_cons, ih]

/-- A digest has 32 bytes. -/
theorem length_sha256 (message : List UInt8) : (sha256 message).length = 32 := by
  simp [sha256, Sha256.length_bigEndian]

end Digest

end TokenRelay
