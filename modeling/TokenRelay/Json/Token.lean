/-
# JSON tokens

Supplies the tokens of a JSON text and their written form. A token keeps a fault that concerns its
own value only: a string with half of a surrogate pair and a number too large for any word are
tokens without a value, because a reader that skips over them does not mind. `stop` stands where
the text ends or holds nothing that JSON allows; no token follows it.
-/

import TokenRelay.Json.Value
import TokenRelay.Text.Hex

namespace TokenRelay

/-- A token of a JSON text. -/
inductive Token where
  | openObject
  | closeObject
  | openArray
  | closeArray
  | colon
  | comma
  | null
  | bool (value : Bool)
  /-- A number; without a value if its magnitude overflows. -/
  | number (value : Option Number)
  /-- A string; without a value if it is no sequence of characters. -/
  | string (value : Option String)
  /-- The text ends here or is no JSON from here on. -/
  | stop

namespace Token

/-- One character inside a quoted string. The quotation mark, the backslash and the control
characters are escaped, five of them by a letter; everything else stands for itself. -/
def escape (character : Char) : List Char :=
  if character = '"' then ['\\', '"']
  else if character = '\\' then ['\\', '\\']
  else if character.toNat < 0x20 then
    match character.toNat with
    | 0x08 => ['\\', 'b']
    | 0x09 => ['\\', 't']
    | 0x0A => ['\\', 'n']
    | 0x0C => ['\\', 'f']
    | 0x0D => ['\\', 'r']
    | code => ['\\', 'u', '0', '0', Text.Hex.digit (code / 16), Text.Hex.digit (code % 16)]
  else [character]

/-- A string with its quotation marks. -/
def quote (text : String) : List Char :=
  '"' :: (text.toList.flatMap escape ++ ['"'])

/-- The written form of a token. Tokens without a value have none. -/
def text : Token → List Char
  | .openObject => ['\x7b']
  | .closeObject => ['\x7d']
  | .openArray => ['[']
  | .closeArray => [']']
  | .colon => [':']
  | .comma => [',']
  | .null => ['n', 'u', 'l', 'l']
  | .bool true => ['t', 'r', 'u', 'e']
  | .bool false => ['f', 'a', 'l', 's', 'e']
  | .number (some value) => value.text.toList
  | .string (some value) => quote value
  | .number none | .string none | .stop => []

end Token

mutual

/-- The tokens of a value, written without blanks. -/
def Json.tokens : Json → List Token
  | .null => [.null]
  | .bool value => [.bool value]
  | .number value => [.number (some value)]
  | .string value => [.string (some value)]
  | .array items => .openArray :: Json.itemTokens items
  | .object members => .openObject :: Json.memberTokens members
termination_by structural value => value

/-- The tokens of the items of an array, up to the closing bracket. -/
def Json.itemTokens : List Json → List Token
  | [] => [.closeArray]
  | item :: rest => item.tokens ++ Json.furtherItemTokens rest
termination_by structural items => items

/-- The tokens after an item of an array, up to the closing bracket. -/
def Json.furtherItemTokens : List Json → List Token
  | [] => [.closeArray]
  | item :: rest => .comma :: (item.tokens ++ Json.furtherItemTokens rest)
termination_by structural items => items

/-- The tokens of the members of an object, up to the closing brace. -/
def Json.memberTokens : List (String × Json) → List Token
  | [] => [.closeObject]
  | (key, value) :: rest =>
    .string (some key) :: .colon :: (value.tokens ++ Json.furtherMemberTokens rest)
termination_by structural members => members

/-- The tokens after a member of an object, up to the closing brace. -/
def Json.furtherMemberTokens : List (String × Json) → List Token
  | [] => [.closeObject]
  | (key, value) :: rest =>
    .comma :: .string (some key) :: .colon :: (value.tokens ++ Json.furtherMemberTokens rest)
termination_by structural members => members

end

/-- A value on one line without blanks. -/
def Json.compact (value : Json) : String :=
  String.ofList (value.tokens.flatMap Token.text)

end TokenRelay
