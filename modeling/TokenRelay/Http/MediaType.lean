/-
# Media types

Supplies the test whether the content type of a message announces JSON. A content type is a type, a
slash and a subtype, and after each semicolon a parameter. What follows the last plus sign of a
subtype is its suffix, except that a plus sign at the start is part of the subtype. JSON is the
subtype `json` with any suffix, and every subtype with the suffix `json`; the parameters do not
matter, but they have to be well formed.
-/

import TokenRelay.Text.Ascii

namespace TokenRelay.Http.MediaType

/-- Whether a character may stand in a type, in a subtype, and in a parameter without quotes. -/
def isToken (character : Char) : Bool :=
  character.isAlphanum ||
    ['!', '#', '$', '%', '&', '\'', '+', '-', '.', '^', '_', '\x60', '|', '~'].contains character

/-- Whether a character may stand in a quoted parameter. -/
def isQuotable (character : Char) : Bool :=
  0x1F < character.toNat && character.toNat ≠ 0x7F

/-- How far a list of parameters has been read. -/
inductive ParameterStage where
  /-- No part of the next parameter has been read. -/
  | between
  | name
  /-- The equals sign has been read. -/
  | equals
  | value
  /-- The opening quotation mark has been read. A quoted value has at least one character, which
  may be a quotation mark. -/
  | opened
  | quoted
  /-- The closing quotation mark has been read. -/
  | closed
  deriving DecidableEq, Repr

namespace ParameterStage

/-- Reads one more character, if it may stand there. -/
def next? (stage : ParameterStage) (character : Char) : Option ParameterStage :=
  match stage with
  | .between =>
    if character = ' ' then some .between else if isToken character then some .name else none
  | .name =>
    if character = '=' then some .equals else if isToken character then some .name else none
  | .equals =>
    if character = '"' then some .opened else if isToken character then some .value else none
  | .value =>
    if character = ';' then some .between else if isToken character then some .value else none
  | .opened => if isQuotable character then some .quoted else none
  | .quoted =>
    if character = '"' then some .closed else if isQuotable character then some .quoted else none
  | .closed =>
    if character = ';' then some .between else if character = ' ' then some .closed else none

/-- Whether a list of parameters may end there. -/
def isComplete : ParameterStage → Bool
  | .between | .equals | .value | .closed => true
  | .name | .opened | .quoted => false

end ParameterStage

/-- Whether what follows the first semicolon is a list of parameters. -/
def hasParameters (text : List Char) : Bool :=
  (text.foldlM ParameterStage.next? .between).any ParameterStage.isComplete

/-- The subtype before its suffix, and the suffix. -/
def splitSuffix : List Char → List Char × Option (List Char)
  | [] => ([], none)
  | first :: rest =>
    if rest.contains '+' then
      let backwards := rest.reverse
      let before := (backwards.dropWhile (· ≠ '+')).drop 1
      (first :: before.reverse, some (backwards.takeWhile (· ≠ '+')).reverse)
    else (first :: rest, none)

/-- Whether a subtype in lower case stands for JSON. -/
def isJsonSubtype (subtype : List Char) : Bool :=
  let (before, suffix) := splitSuffix subtype
  before == ['j', 's', 'o', 'n'] || suffix == some ['j', 's', 'o', 'n']

/-- Whether a content type announces JSON. The case of its letters does not matter. -/
def isJson (contentType : String) : Bool :=
  let text := (Text.asciiLower contentType).toList
  let essence := text.takeWhile (· ≠ ';')
  let subtype := (essence.dropWhile (· ≠ '/')).drop 1
  String.ofList (essence.takeWhile (· ≠ '/')) == "application" &&
    subtype.all isToken && isJsonSubtype subtype &&
    hasParameters ((text.dropWhile (· ≠ ';')).drop 1)

end TokenRelay.Http.MediaType
