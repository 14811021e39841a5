/-
# Trees of written values

Supplies the tree that grows from the text of a value: the tree of the value, with what is read from
the texts of its numbers in place of these. Nothing follows it.
-/

import TokenRelay.Json.Tree
import TokenRelay.Proofs.Json.Scan

namespace TokenRelay

mutual

/-- The tree of a value, with something else in place of its numbers. -/
def Json.treeWith (change : Number → Option Number) : Json → Tree
  | .null => .null
  | .bool value => .bool value
  | .number value => .number (change value)
  | .string value => .string (some value)
  | .array items => .array (Json.itemTreesWith change items) .closed
  | .object members => .object (Json.memberTreesWith change members) .closed
termination_by structural value => value

/-- The trees of the items of an array, with something else in place of their numbers. -/
def Json.itemTreesWith (change : Number → Option Number) : List Json → List Tree
  | [] => []
  | item :: rest => item.treeWith change :: Json.itemTreesWith change rest
termination_by structural items => items

/-- The trees of the members of an object, with something else in place of their numbers. -/
def Json.memberTreesWith (change : Number → Option Number) :
    List (String × Json) → List (Option String × Tree)
  | [] => []
  | (key, value) :: rest => (some key, value.treeWith change) :: Json.memberTreesWith change rest
termination_by structural members => members

end

namespace Document

/-- The tree that has grown behind some tokens. -/
def Growth.over (growth : Growth) (tokens : List Token) : Growth := tokens.foldl Growth.step growth

@[simp]
theorem Growth.over_nil (growth : Growth) : growth.over [] = growth := rfl

@[simp]
theorem Growth.over_cons (growth : Growth) (token : Token) (tokens : List Token) :
    growth.over (token :: tokens) = (growth.step token).over tokens := rfl

@[simp]
theorem Growth.over_append (growth : Growth) (first second : List Token) :
    growth.over (first ++ second) = (growth.over first).over second :=
  List.foldl_append

/-- A value may come next. -/
inductive Awaits : List Open → Expectation → Prop where
  | value (stack : List Open) : Awaits stack .value
  | firstItem (items : List Tree) (outer : List Open) : Awaits (.array items :: outer) .firstItem

end Document

open Document

mutual

/-- The tokens of a value grow to its tree. -/
theorem Json.grow_tokens : (value : Json) → {stack : List Open} → {expects : Expectation} →
    Awaits stack expects →
    Growth.over (.growing stack expects) (value.tokens.map Token.reread) =
      Growth.place stack (value.treeWith Number.reread)
  | .null, _, _, awaits => by cases awaits <;> rfl
  | .bool _, _, _, awaits => by cases awaits <;> rfl
  | .number _, _, _, awaits => by cases awaits <;> rfl
  | .string _, _, _, awaits => by cases awaits <;> rfl
  | .array items, stack, expects, awaits => by
    have opened : Growth.step (.growing stack expects) .openArray =
        .growing (.array [] :: stack) .firstItem := by cases awaits <;> rfl
    have grown := Json.grow_itemTokens items [] stack
    simpa [Json.tokens, Token.reread, opened, Json.treeWith] using grown
  | .object members, stack, expects, awaits => by
    have opened : Growth.step (.growing stack expects) .openObject =
        .growing (.object [] none :: stack) .firstKey := by cases awaits <;> rfl
    have grown := Json.grow_memberTokens members [] stack
    simpa [Json.tokens, Token.reread, opened, Json.treeWith] using grown
termination_by structural value => value

theorem Json.grow_itemTokens : (items : List Json) → (found : List Tree) → (outer : List Open) →
    Growth.over (.growing (.array found :: outer) .firstItem)
        ((Json.itemTokens items).map Token.reread) =
      Growth.place outer
        (.array (found.reverse ++ Json.itemTreesWith Number.reread items) .closed)
  | [], found, outer => by simp [Json.itemTokens, Token.reread, Growth.step, Json.itemTreesWith]
  | item :: rest, found, outer => by
    have grown := Json.grow_tokens item (.firstItem found outer)
    have further := Json.grow_furtherItemTokens rest (item.treeWith Number.reread :: found) outer
    simpa [Json.itemTokens, grown, Growth.place, Json.itemTreesWith] using further
termination_by structural items => items

theorem Json.grow_furtherItemTokens : (items : List Json) → (found : List Tree) →
    (outer : List Open) →
    Growth.over (.growing (.array found :: outer) .further)
        ((Json.furtherItemTokens items).map Token.reread) =
      Growth.place outer
        (.array (found.reverse ++ Json.itemTreesWith Number.reread items) .closed)
  | [], found, outer => by
    simp [Json.furtherItemTokens, Token.reread, Growth.step, Json.itemTreesWith]
  | item :: rest, found, outer => by
    have grown := Json.grow_tokens item (.value (.array found :: outer))
    have further := Json.grow_furtherItemTokens rest (item.treeWith Number.reread :: found) outer
    simpa [Json.furtherItemTokens, Token.reread, Growth.step, grown, Growth.place,
      Json.itemTreesWith] using further
termination_by structural items => items

theorem Json.grow_memberTokens : (members : List (String × Json)) →
    (found : List (Option String × Tree)) → (outer : List Open) →
    Growth.over (.growing (.object found none :: outer) .firstKey)
        ((Json.memberTokens members).map Token.reread) =
      Growth.place outer
        (.object (found.reverse ++ Json.memberTreesWith Number.reread members) .closed)
  | [], found, outer => by
    simp [Json.memberTokens, Token.reread, Growth.step, Json.memberTreesWith]
  | (key, value) :: rest, found, outer => by
    have grown := Json.grow_tokens value (.value (.object found (some (some key)) :: outer))
    have further := Json.grow_furtherMemberTokens rest
      ((some key, value.treeWith Number.reread) :: found) outer
    simpa [Json.memberTokens, Token.reread, Growth.step, grown, Growth.place,
      Json.memberTreesWith] using further
termination_by structural members => members

theorem Json.grow_furtherMemberTokens : (members : List (String × Json)) →
    (found : List (Option String × Tree)) → (outer : List Open) →
    Growth.over (.growing (.object found none :: outer) .further)
        ((Json.furtherMemberTokens members).map Token.reread) =
      Growth.place outer
        (.object (found.reverse ++ Json.memberTreesWith Number.reread members) .closed)
  | [], found, outer => by
    simp [Json.furtherMemberTokens, Token.reread, Growth.step, Json.memberTreesWith]
  | (key, value) :: rest, found, outer => by
    have grown := Json.grow_tokens value (.value (.object found (some (some key)) :: outer))
    have further := Json.grow_furtherMemberTokens rest
      ((some key, value.treeWith Number.reread) :: found) outer
    simpa [Json.furtherMemberTokens, Token.reread, Growth.step, grown, Growth.place,
      Json.memberTreesWith] using further
termination_by structural members => members

end

/-- The document of a text that spells a value. -/
theorem Document.ofText_of_spells {value : Json} {text : String}
    (spells : Token.Spells value.tokens text.toList) :
    Document.ofText text = ⟨value.treeWith Number.reread, false⟩ := by
  rw [ofText, ofUnits, spells.scan]
  exact congrArg Growth.finish (value.grow_tokens (.value []))

theorem Document.ofText_compact (value : Json) (proper : ∀ number ∈ value.numbers, number.Proper) :
    Document.ofText value.compact = ⟨value.treeWith Number.reread, false⟩ :=
  ofText_of_spells (value.spells_compact proper)

end TokenRelay
