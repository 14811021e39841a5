/-
# Trimmed texts

Supplies that a text is left as it is by trimming exactly if neither of its ends is blank, which is
so for every text that was trimmed, that blanks around a text make no difference to trimming, and
that nothing is left exactly of a text of blanks.
-/

import Mathlib.Data.List.TakeWhile
import TokenRelay.Text.Blank

namespace TokenRelay.Text

/-- Neither the first nor the last character is blank. -/
structure IsTrimmed (characters : List Char) : Prop where
  first : ∀ {character}, characters.head? = some character → isBlank character = false
  last : ∀ {character}, characters.getLast? = some character → isBlank character = false

private theorem dropWhile_of_first {characters : List Char}
    (first : ∀ {character}, characters.head? = some character → isBlank character = false) :
    characters.dropWhile isBlank = characters := by
  cases characters with
  | nil => rfl
  | cons character rest =>
      rw [List.dropWhile_cons_of_neg]
      simp [first rfl]

private theorem isBlank_first_dropWhile {characters : List Char} {character : Char}
    (first : (characters.dropWhile isBlank).head? = some character) :
    isBlank character = false := by
  have visible := List.head?_dropWhile_not isBlank characters
  rwa [first] at visible

theorem IsTrimmed.trimChars_eq {characters : List Char} (trimmed : IsTrimmed characters) :
    trimChars characters = characters := by
  rw [trimChars, dropWhile_of_first trimmed.first, dropWhile_of_first, List.reverse_reverse]
  rw [List.head?_reverse]
  exact trimmed.last

theorem isTrimmed_trimChars (characters : List Char) : IsTrimmed (trimChars characters) where
  first := by
    intro character first
    have beginning : trimChars characters <+: characters.dropWhile isBlank := by
      rw [trimChars, ← List.reverse_suffix, List.reverse_reverse]
      exact List.dropWhile_suffix isBlank
    obtain ⟨rest, whole⟩ := beginning
    apply isBlank_first_dropWhile
    rw [← whole, List.head?_append, first, Option.some_or]
  last := by
    intro character last
    rw [trimChars, List.getLast?_reverse] at last
    exact isBlank_first_dropWhile last

theorem isTrimmed_iff {characters : List Char} :
    IsTrimmed characters ↔ trimChars characters = characters :=
  ⟨IsTrimmed.trimChars_eq, fun same => same ▸ isTrimmed_trimChars characters⟩

/-- A text without blanks is trimmed. -/
theorem isTrimmed_of_forall {characters : List Char}
    (visible : ∀ character ∈ characters, isBlank character = false) : IsTrimmed characters where
  first first := visible _ (List.mem_of_head? first)
  last last := visible _ (List.mem_of_getLast? last)

private theorem dropWhile_append_of_blank {blanks : List Char} (blank : blanks.all isBlank = true)
    (text : List Char) : (blanks ++ text).dropWhile isBlank = text.dropWhile isBlank :=
  List.dropWhile_append_of_pos (List.all_eq_true.1 blank)

/-- Blanks around a text are trimmed away with those that it has at its ends. -/
theorem trimChars_surrounded {before after : List Char} (blank : before.all isBlank = true)
    (blank' : after.all isBlank = true) (text : List Char) :
    trimChars (before ++ text ++ after) = trimChars text := by
  have ending : after.reverse.all isBlank = true := by rwa [List.all_reverse]
  rw [trimChars, trimChars, List.append_assoc, dropWhile_append_of_blank blank,
    List.dropWhile_append]
  split
  · next none =>
    have nothing : after.dropWhile isBlank = [] := by
      simpa using dropWhile_append_of_blank blank' []
    rw [nothing, List.isEmpty_iff.1 none]
  · rw [List.reverse_append, dropWhile_append_of_blank ending]

/-- Trimming leaves nothing of a text exactly if all of it is blank. -/
theorem isEmpty_trimChars (characters : List Char) :
    (trimChars characters).isEmpty = characters.all isBlank := by
  calc (trimChars characters).isEmpty
      = (characters.dropWhile isBlank).all isBlank := by
        rw [trimChars, List.isEmpty_reverse, Bool.eq_iff_iff, List.isEmpty_iff,
          List.dropWhile_eq_nil_iff, List.all_eq_true]
        simp only [List.mem_reverse]
    _ = (characters.takeWhile isBlank ++ characters.dropWhile isBlank).all isBlank := by
        rw [List.all_append, List.all_takeWhile, Bool.true_and]
    _ = characters.all isBlank := by rw [List.takeWhile_append_dropWhile]

/-- A change of characters that keeps the blanks can wait until the text is trimmed. -/
theorem trimChars_map {change : Char → Char}
    (same : ∀ character, isBlank (change character) = isBlank character) (text : List Char) :
    trimChars (text.map change) = (trimChars text).map change := by
  have kept : isBlank ∘ change = isBlank := funext same
  rw [trimChars, trimChars, List.dropWhile_map, ← List.map_reverse, List.dropWhile_map, kept,
    List.map_reverse]

end TokenRelay.Text
