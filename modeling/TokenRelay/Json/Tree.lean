/-
# Syntax trees of JSON texts

Supplies the tree of a text, whether or not the text is JSON. A text that stops being JSON has a
tree up to that place: every array and object that was open there ends as `broken`. Readers walk
the tree from left to right, so of a type mismatch and a syntax error the one further left counts,
although the tree is built before any reader looks at it. Building is a fold over the tokens with
the open arrays and objects on a stack, so deep nesting costs no recursion.
-/

import TokenRelay.Json.Lexer

namespace TokenRelay

/-- How an array or object ends. -/
inductive Ending where
  | closed
  /-- A value stands where a key belongs; the text is no JSON from there on. -/
  | misplaced
  /-- The text ends or is no JSON from there on. -/
  | broken

/-- The tree of a JSON text. -/
inductive Tree where
  | null
  | bool (value : Bool)
  /-- A number; without a value if its magnitude overflows. -/
  | number (value : Option Number)
  /-- A string; without a value if it is no sequence of characters. -/
  | string (value : Option String)
  | array (items : List Tree) (ending : Ending)
  /-- An object; a key without a value is a string that is no sequence of characters. -/
  | object (members : List (Option String × Tree)) (ending : Ending)
  /-- No value: the text ends or is no JSON where one belongs. -/
  | broken

/-- The tree of a whole text: its value, and whether anything but blanks follows it. -/
structure Document where
  tree : Tree
  trailing : Bool

namespace Document

/-- An array or object that is not finished; its parts come latest first. -/
inductive Open where
  | array (items : List Tree)
  /-- An object, with the key whose value is awaited. -/
  | object (members : List (Option String × Tree)) (key : Option (Option String))

/-- What may come next. -/
inductive Expectation where
  | value
  /-- A value or the end of the array. -/
  | firstItem
  /-- A key or the end of the object. -/
  | firstKey
  | key
  | colon
  /-- A comma or the end of the array or object. -/
  | further

/-- A tree while it grows: what is open, innermost first, and what may come next; or the finished
document. -/
inductive Growth where
  | growing (stack : List Open) (expects : Expectation)
  | done (document : Document)

/-- The tree of an unfinished array or object, given the part that was being read. -/
def Open.end (part : Option Tree) (ending : Ending) : Open → Tree
  | .array items => .array (part.toList ++ items).reverse ending
  | .object members none => .object members.reverse ending
  | .object members (some key) => .object ((key, part.getD .broken) :: members).reverse ending

/-- The tree of a text that stops being JSON inside the given arrays and objects. -/
def abandon (part : Option Tree) (ending : Ending) : List Open → Tree
  | [] => part.getD .broken
  | innermost :: outer => abandon (some (innermost.end part ending)) .broken outer

/-- The document of a text that stops being JSON. -/
def Growth.halt (stack : List Open) (ending : Ending) : Growth :=
  .done ⟨abandon none ending stack, false⟩

/-- Puts a finished value where it belongs. -/
def Growth.place (stack : List Open) (value : Tree) : Growth :=
  match stack with
  | [] => .done ⟨value, false⟩
  | .array items :: outer => .growing (.array (value :: items) :: outer) .further
  | .object members (some key) :: outer =>
    .growing (.object ((key, value) :: members) none :: outer) .further
  | .object members none :: outer => .growing (.object members none :: outer) .further

/-- A token where a value belongs. -/
def Growth.value (stack : List Open) : Token → Growth
  | .null => place stack .null
  | .bool value => place stack (.bool value)
  | .number value => place stack (.number value)
  | .string value => place stack (.string value)
  | .openArray => .growing (.array [] :: stack) .firstItem
  | .openObject => .growing (.object [] none :: stack) .firstKey
  | .closeObject | .closeArray | .colon | .comma | .stop => halt stack .broken

/-- A token where a key belongs, that is no key. -/
def Growth.noKey (stack : List Open) : Token → Growth
  | .null | .bool _ | .number (some _) | .openArray | .openObject => halt stack .misplaced
  | .number none | .string _ | .closeObject | .closeArray | .colon | .comma | .stop =>
    halt stack .broken

/-- One more token. -/
def Growth.step (growth : Growth) (token : Token) : Growth :=
  match growth with
  | .done document => .done { document with trailing := true }
  | .growing stack expects =>
    match expects, stack, token with
    | .firstItem, .array items :: outer, .closeArray => place outer (.array items.reverse .closed)
    | .further, .array items :: outer, .closeArray => place outer (.array items.reverse .closed)
    | .further, .array _ :: _, .comma => .growing stack .value
    | .firstKey, .object members none :: outer, .closeObject =>
      place outer (.object members.reverse .closed)
    | .further, .object members none :: outer, .closeObject =>
      place outer (.object members.reverse .closed)
    | .further, .object _ none :: _, .comma => .growing stack .key
    | .firstKey, .object members none :: outer, .string key
    | .key, .object members none :: outer, .string key =>
      .growing (.object members (some key) :: outer) .colon
    | .firstKey, _, other | .key, _, other => noKey stack other
    | .colon, .object _ (some _) :: _, .colon => .growing stack .value
    | .value, _, other | .firstItem, _, other => value stack other
    | .colon, _, _ | .further, _, _ => halt stack .broken

/-- The document of a text that is over. -/
def Growth.finish : Growth → Document
  | .done document => document
  | .growing stack _ => ⟨abandon none .broken stack, false⟩

/-- The document that a list of tokens makes. -/
def ofTokens (tokens : List Token) : Document :=
  (tokens.foldl Growth.step (.growing [] .value)).finish

/-- The document of a text, with `none` in place of bytes that are no UTF-8. -/
def ofUnits (text : List (Option Char)) : Document :=
  ofTokens (Token.scan text)

/-- The document of a text. -/
def ofText (text : String) : Document :=
  ofUnits (text.toList.map some)

end Document

mutual

/-- The tree of a text that was written for a value. -/
def Json.tree : Json → Tree
  | .null => .null
  | .bool value => .bool value
  | .number value => .number (some value)
  | .string value => .string (some value)
  | .array items => .array (Json.itemTrees items) .closed
  | .object members => .object (Json.memberTrees members) .closed
termination_by structural value => value

/-- The trees of the items of an array. -/
def Json.itemTrees : List Json → List Tree
  | [] => []
  | item :: rest => item.tree :: Json.itemTrees rest
termination_by structural items => items

/-- The trees of the members of an object. -/
def Json.memberTrees : List (String × Json) → List (Option String × Tree)
  | [] => []
  | (key, value) :: rest => (some key, value.tree) :: Json.memberTrees rest
termination_by structural members => members

end

end TokenRelay
