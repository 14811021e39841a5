/-
# JSON on several lines

Supplies the written form of a value with one item or member per line, two blanks of indentation
for every level, and nothing between the brackets of an empty array or object.
-/

import TokenRelay.Json.Token

namespace TokenRelay.Json

/-- A new line with the indentation of a level. -/
def newLine (level : Nat) : List Char :=
  '\n' :: List.replicate (2 * level) ' '

mutual

/-- A value on several lines, at the given level. -/
def prettyFrom (level : Nat) : Json → List Char
  | .array [] => ['[', ']']
  | .array (item :: rest) =>
    '[' :: (newLine (level + 1) ++ prettyFrom (level + 1) item ++ prettyItems level rest)
  | .object [] => ['\x7b', '\x7d']
  | .object ((key, value) :: rest) =>
    '\x7b' :: (newLine (level + 1) ++ Token.quote key ++ ':' :: ' ' ::
      (prettyFrom (level + 1) value ++ prettyMembers level rest))
  | .null => Token.null.text
  | .bool value => (Token.bool value).text
  | .number value => (Token.number (some value)).text
  | .string value => (Token.string (some value)).text
termination_by structural value => value

/-- The items after the first of an array, up to the closing bracket. -/
def prettyItems (level : Nat) : List Json → List Char
  | [] => newLine level ++ [']']
  | item :: rest =>
    ',' :: (newLine (level + 1) ++ prettyFrom (level + 1) item ++ prettyItems level rest)
termination_by structural items => items

/-- The members after the first of an object, up to the closing brace. -/
def prettyMembers (level : Nat) : List (String × Json) → List Char
  | [] => newLine level ++ ['\x7d']
  | (key, value) :: rest =>
    ',' :: (newLine (level + 1) ++ Token.quote key ++ ':' :: ' ' ::
      (prettyFrom (level + 1) value ++ prettyMembers level rest))
termination_by structural members => members

end

/-- A value on several lines. -/
def pretty (value : Json) : String :=
  String.ofList (prettyFrom 0 value)

end TokenRelay.Json
