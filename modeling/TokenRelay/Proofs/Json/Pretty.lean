/-
# Scanning values on several lines

Supplies that a value on several lines is spelled by its text as it is on one line: what the lines
add are blanks, and these mean nothing where a token may begin. So the same document is read.
-/

import TokenRelay.Json.Pretty
import TokenRelay.Proofs.Json.Reading

namespace TokenRelay

namespace Token

/-- A new line with its indentation may stand before what is spelled, and ends a number. -/
theorem Spells.newLine {tokens : List Token} {text : List Char} (spells : Spells tokens text)
    (level : Nat) : SpellsBehind tokens (Json.newLine level ++ text) := by
  have indentation (earlier : List Token) (count : Nat) :
      Walk.over ⟨earlier, .between⟩ (List.replicate count ' ') = ⟨earlier, .between⟩ := by
    induction count with
    | zero => rfl
    | succ count ih => exact ih
  intro earlier walk behind
  have broken : walk.step (some '\n') = ⟨earlier, .between⟩ := behind.step rfl
  rw [Json.newLine, List.cons_append, Walk.over_cons, broken, Walk.over_append, indentation]
  exact spells earlier

/-- A member of an object on a line of its own. -/
theorem Spells.member {tokens : List Token} {text : List Char} (spells : Spells tokens text)
    (level : Nat) (key : String) :
    Spells (.string (some key) :: .colon :: tokens)
      (Json.newLine level ++ quote key ++ ':' :: ' ' :: text) := by
  have spaced : Spells tokens (' ' :: text) := spells
  have value : Spells (.colon :: tokens) (':' :: ' ' :: text) := spaced.mark rfl fun _ => rfl
  rw [List.append_assoc]
  exact ((value.string key).newLine level).spells

end Token

open Token

mutual

/-- The text of a value on several lines spells it. -/
theorem Json.spells_prettyFrom (level : Nat) : (value : Json) →
    (∀ number ∈ value.numbers, number.Proper) → Spells value.tokens (value.prettyFrom level)
  | .null, _ => spells_singleton rfl fun _ => rfl
  | .bool true, _ => spells_singleton rfl fun _ => rfl
  | .bool false, _ => spells_singleton rfl fun _ => rfl
  | .number _, proper => spells_number (proper _ List.mem_cons_self)
  | .string text, _ => spells_string text
  | .array [], _ => (spells_singleton rfl fun _ => rfl).mark rfl fun _ => rfl
  | .array (item :: rest), proper =>
    have first := Json.spells_prettyFrom (level + 1) item fun _ inside =>
      proper _ (List.mem_append_left _ inside)
    have further := Json.spellsBehind_prettyItems level rest fun _ inside =>
      proper _ (List.mem_append_right _ inside)
    ((first.newLine (level + 1)).spells.append further).mark rfl fun _ => rfl
  | .object [], _ => (spells_singleton rfl fun _ => rfl).mark rfl fun _ => rfl
  | .object ((key, value) :: rest), proper =>
    have first := Json.spells_prettyFrom (level + 1) value fun _ inside =>
      proper _ (List.mem_append_left _ inside)
    have further := Json.spellsBehind_prettyMembers level rest fun _ inside =>
      proper _ (List.mem_append_right _ inside)
    ((first.append further).member (level + 1) key).mark rfl fun _ => rfl
termination_by structural value => value

theorem Json.spellsBehind_prettyItems (level : Nat) : (items : List Json) →
    (∀ number ∈ Json.itemNumbers items, number.Proper) →
    SpellsBehind (Json.furtherItemTokens items) (Json.prettyItems level items)
  | [], _ =>
    have closed : Spells [.closeArray] [']'] := spells_singleton rfl fun _ => rfl
    closed.newLine level
  | item :: rest, proper =>
    have first := Json.spells_prettyFrom (level + 1) item fun _ inside =>
      proper _ (List.mem_append_left _ inside)
    have further := Json.spellsBehind_prettyItems level rest fun _ inside =>
      proper _ (List.mem_append_right _ inside)
    ((first.newLine (level + 1)).spells.append further).behind rfl rfl fun _ => rfl
termination_by structural items => items

theorem Json.spellsBehind_prettyMembers (level : Nat) : (members : List (String × Json)) →
    (∀ number ∈ Json.memberNumbers members, number.Proper) →
    SpellsBehind (Json.furtherMemberTokens members) (Json.prettyMembers level members)
  | [], _ =>
    have closed : Spells [.closeObject] ['\x7d'] := spells_singleton rfl fun _ => rfl
    closed.newLine level
  | (key, value) :: rest, proper =>
    have first := Json.spells_prettyFrom (level + 1) value fun _ inside =>
      proper _ (List.mem_append_left _ inside)
    have further := Json.spellsBehind_prettyMembers level rest fun _ inside =>
      proper _ (List.mem_append_right _ inside)
    ((first.append further).member (level + 1) key).behind rfl rfl fun _ => rfl
termination_by structural members => members

end

/-- So the document of both texts of a value is the same. -/
theorem Document.ofText_pretty (value : Json) (proper : ∀ number ∈ value.numbers, number.Proper) :
    Document.ofText value.pretty = ⟨value.treeWith Number.reread, false⟩ := by
  refine ofText_of_spells ?_
  rw [Json.pretty, String.toList_ofList]
  exact value.spells_prettyFrom 0 proper

/-- A value is read from its text on several lines, with its objects settled, unless it nests too
deeply. -/
theorem Reader.run_pretty {value : Json} (proper : ∀ number ∈ value.numbers, number.Proper)
    (reads : ∀ number ∈ value.numbers, number.ReadsBack) :
    Reader.run Reader.value (.ofText value.pretty) =
      Reader.found (if value.nesting ≤ Reader.depthLimit then some value.resettle else none) := by
  have same : value.renumber Number.reread = some value := value.renumber_eq_self_iff.2 reads
  rw [Document.ofText_pretty value proper]
  refine (Reader.run_of_complete Reader.value _).trans ?_
  rw [Reader.value_treeWith, same, Option.map_some]

end TokenRelay
