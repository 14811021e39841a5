/-
# The text of an identifier

Supplies what the text of an identifier is made of: hexadecimal digits and hyphens. So every
identifier can be written into a header, and a response with the events of a session can always be
made.
-/

import TokenRelay.Http.Message
import TokenRelay.Text.Uuid

namespace TokenRelay

namespace Uuid

theorem exists_digit_of_mem_digits {value count : Nat} {character : Char}
    (inside : character ∈ digits value count) :
    ∃ digit < 16, character = Text.Hex.digit digit := by
  induction count with
  | zero => cases inside
  | succ count ih =>
      rcases List.mem_cons.1 inside with first | rest
      · exact ⟨_, Nat.mod_lt _ (by decide), first⟩
      · exact ih rest

theorem mem_text {uuid : Uuid} {character : Char} (inside : character ∈ uuid.text.toList) :
    character = '-' ∨ ∃ digit < 16, character = Text.Hex.digit digit := by
  have group {start count : Nat}
      (within : character ∈ ((digits uuid.value 32).drop start).take count) :
      ∃ digit < 16, character = Text.Hex.digit digit :=
    exists_digit_of_mem_digits (List.mem_of_mem_drop (List.mem_of_mem_take within))
  have hyphen : "-".toList = ['-'] := by decide
  simp only [text, String.toList_append, String.toList_ofList, hyphen, List.mem_append,
    List.mem_singleton] at inside
  rcases inside with (((((((within | same) | within) | same) | within) | same) | within) | same) |
    within
  all_goals first | exact .inl same | exact .inr (group within)

/-- Every character of it may be written into a header. -/
theorem fitsHeader_of_mem_text {uuid : Uuid} {character : Char}
    (inside : character ∈ uuid.text.toList) : Http.fitsHeader character = true := by
  have digits : ∀ digit < 16, Http.fitsHeader (Text.Hex.digit digit) = true := by decide
  rcases mem_text inside with rfl | ⟨digit, small, rfl⟩
  · rfl
  · exact digits digit small

end Uuid

/-- The events of a session can be given in a response. -/
@[simp]
theorem Http.Response.ofEvents_text (session : Nat) (uuid : Uuid) :
    ofEvents session uuid.text = .ok { status := 200, content := .events session uuid.text } :=
  if_pos (List.all_eq_true.2 fun _ inside => Uuid.fitsHeader_of_mem_text inside)

end TokenRelay
