/-
# TOML documents

Supplies `Document.ofText?`, the tree of a TOML text. The tokens of the text are folded over a draft
of the document: the table that is being filled, the values that are not finished, and what may come
next. Lists and tables in braces may span lines and may have a comma after the last part.
-/

import TokenRelay.Toml.Item
import TokenRelay.Toml.Token

namespace TokenRelay.Toml

/-- A value that is not finished. -/
inductive Open where
  /-- A key that awaits its value; the last part comes first. -/
  | pair (key : List String)
  /-- A list; the latest item comes first. -/
  | list (items : List Item)
  | table (entries : Entries)

/-- Whether an unfinished value is a list or a table. -/
def Open.isNest : Open → Bool
  | .pair _ => false
  | .list _ | .table _ => true

/-- What a key is read for. -/
inductive Purpose where
  | header
  /-- The header of one more table in a list of tables. -/
  | tables
  | value

/-- What may come next. The parts of a key that have been read come latest first, and so do the
characters of a word. -/
inductive Expectation where
  /-- A statement, or the end of the line. -/
  | statement
  | lineEnd
  /-- The second bracket of a header for a list of tables, or a key. -/
  | bracket
  | part (purpose : Purpose) (key : List String)
  /-- A dot, or what ends a key. -/
  | further (purpose : Purpose) (key : List String)
  /-- The second closing bracket of a header for a list of tables. -/
  | secondBracket (key : List String)
  | value
  /-- More of a word. -/
  | word (characters : List Char)
  /-- A time of day after a date and a space. -/
  | time (date : List Char)
  /-- A value, or the end of a list. -/
  | item
  /-- A comma, or the end of a list. -/
  | furtherItem
  /-- A key, or the end of a table. -/
  | member
  /-- A comma, or the end of a table. -/
  | furtherMember

/-- A document while it is read. -/
structure Draft where
  root : Entries
  /-- The path of the latest header. -/
  header : List String
  /-- The unfinished values, innermost first. -/
  stack : List Open
  expects : Expectation

namespace Draft

/-- The draft before the first token. -/
def start : Draft := ⟨[], [], [], .statement⟩

/-- Lists and tables in braces nest at most this deep. -/
def depthLimit : Nat := 80

/-- Changes the document at the end of a path from its root. -/
def edit (draft : Draft) (path : List String)
    (change : Origin → Entries → Option (Origin × Entries)) : Option Entries :=
  (Entries.change false change path .header draft.root).map (·.2)

/-- Puts a finished value where it belongs. -/
def place? (draft : Draft) (item : Item) : Option Draft :=
  match draft.stack with
  | [.pair (key :: path)] =>
    (draft.edit draft.header (Entries.addAt path.reverse key item)).map fun root =>
      { draft with root, stack := [], expects := .lineEnd }
  | .pair (key :: path) :: .table entries :: outer =>
    (Entries.addAt path.reverse key item .closed entries).map fun result =>
      { draft with stack := .table result.2 :: outer, expects := .furtherMember }
  | .list items :: outer =>
    some { draft with stack := .list (item :: items) :: outer, expects := .furtherItem }
  | _ => none

/-- Opens a list or a table in braces. -/
def nest? (draft : Draft) (opened : Open) (expects : Expectation) : Option Draft :=
  if draft.stack.countP Open.isNest < depthLimit then
    some { draft with stack := opened :: draft.stack, expects }
  else none

/-- Closes the innermost list or table. -/
def close? (draft : Draft) : Option Draft :=
  match draft.stack with
  | .list items :: outer => { draft with stack := outer }.place? (.list items.reverse)
  | .table entries :: outer => { draft with stack := outer }.place? (.table .closed entries)
  | _ => none

/-- A token where a value belongs. -/
def valueStep (draft : Draft) : Token → Option Draft
  | .string text _ => draft.place? (.scalar (.string text))
  | .word characters => some { draft with expects := .word characters.reverse }
  | .openBracket => draft.nest? (.list []) .item
  | .openBrace => draft.nest? (.table []) .member
  | _ => none

/-- Whether a character may stand in a key without quotation marks. -/
def isBare (character : Char) : Bool :=
  character.isAlphanum || character = '_' || character = '-'

/-- A token where a part of a key belongs. -/
def partStep (draft : Draft) (purpose : Purpose) (key : List String) :
    Token → Option Draft
  | .blank _ => some { draft with expects := .part purpose key }
  | .string text false => some { draft with expects := .further purpose (text :: key) }
  | .word characters =>
    if characters.all isBare then
      some { draft with expects := .further purpose (String.ofList characters :: key) }
    else none
  | _ => none

/-- A token after a part of a key. -/
def furtherStep (draft : Draft) (purpose : Purpose) (key : List String) (token : Token) :
    Option Draft :=
  match token, purpose, key with
  | .blank _, _, _ => some draft
  | .dot, _, _ => some { draft with expects := .part purpose key }
  | .equals, .value, _ =>
    some { draft with stack := .pair key :: draft.stack, expects := .value }
  | .closeBracket, .tables, _ => some { draft with expects := .secondBracket key }
  | .closeBracket, .header, name :: path =>
    (draft.edit path.reverse (Entries.openTable name)).map fun root =>
      { draft with root, header := key.reverse, expects := .lineEnd }
  | _, _, _ => none

/-- A token after the first closing bracket of a header for a list of tables. -/
def secondBracketStep (draft : Draft) (key : List String) (token : Token) :
    Option Draft :=
  match token, key with
  | .closeBracket, name :: path =>
    (draft.edit path.reverse (Entries.extendTables name)).map fun root =>
      { draft with root, header := key.reverse, expects := .lineEnd }
  | _, _ => none

/-- A token that does not continue a word. -/
def resume (draft : Draft) (token : Token) : Option Draft :=
  match draft.expects, token with
  | .statement, .blank _ | .statement, .newline => some draft
  | .statement, .openBracket => some { draft with expects := .bracket }
  | .statement, _ => draft.partStep .value [] token
  | .lineEnd, .blank _ => some draft
  | .lineEnd, .newline => some { draft with expects := .statement }
  | .lineEnd, _ => none
  | .bracket, .openBracket => some { draft with expects := .part .tables [] }
  | .bracket, _ => draft.partStep .header [] token
  | .part purpose key, _ => draft.partStep purpose key token
  | .further purpose key, _ => draft.furtherStep purpose key token
  | .secondBracket key, _ => draft.secondBracketStep key token
  | .value, .blank _ => some draft
  | .value, _ => draft.valueStep token
  | .item, .blank _ | .item, .newline => some draft
  | .item, .closeBracket => draft.close?
  | .item, _ => draft.valueStep token
  | .furtherItem, .blank _ | .furtherItem, .newline => some draft
  | .furtherItem, .comma => some { draft with expects := .item }
  | .furtherItem, .closeBracket => draft.close?
  | .furtherItem, _ => none
  | .member, .blank _ | .member, .newline => some draft
  | .member, .closeBrace => draft.close?
  | .member, _ => draft.partStep .value [] token
  | .furtherMember, .blank _ | .furtherMember, .newline => some draft
  | .furtherMember, .comma => some { draft with expects := .member }
  | .furtherMember, .closeBrace => draft.close?
  | .furtherMember, _ => none
  | .word _, _ | .time _, _ => none

/-- Ends a word, given its latest character first, and goes on with the token after it. -/
def endWord (draft : Draft) (characters : List Char) (token : Token) : Option Draft :=
  match Scalar.ofWord? characters.reverse with
  | none => none
  | some value => (draft.place? (.scalar value)).bind fun placed => placed.resume token

/-- One more token. -/
def step (draft : Draft) (token : Token) : Option Draft :=
  match draft.expects, token with
  | .word characters, .word more =>
    some { draft with expects := .word (more.reverse ++ characters) }
  | .word characters, .dot => some { draft with expects := .word ('.' :: characters) }
  | .word characters, .blank [' '] =>
    if Scalar.isDate characters.reverse then some { draft with expects := .time characters }
    else draft.endWord characters token
  | .word characters, _ => draft.endWord characters token
  | .time date, .word more =>
    if more.head?.any Char.isDigit then
      some { draft with expects := .word (more.reverse ++ ' ' :: date) }
    else none
  | .time date, _ => draft.endWord date token
  | _, _ => draft.resume token

/-- The document of a draft after the last token, which ends its line. -/
def finish (draft : Draft) : Option Entries :=
  match draft.step .newline with
  | some ⟨root, _, [], .statement⟩ => some root
  | _ => none

end Draft

/-- The document that a list of tokens makes. -/
def Document.ofTokens? (tokens : List Token) : Option Entries :=
  (tokens.foldlM Draft.step .start).bind Draft.finish

/-- The document of a text, if it is TOML. -/
def Document.ofText? (text : String) : Option Entries :=
  (Token.scan text.toList).bind Document.ofTokens?

end TokenRelay.Toml
