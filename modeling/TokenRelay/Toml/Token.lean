/-
# Cutting a text into TOML tokens

Supplies `Token.scan`, which walks over a text once and gives its tokens, or nothing if some
character cannot stand where it does. The walk is a fold, one state per character. Comments leave
no token. Blanks do, because two tokens that belong together must touch. A word is a run of
characters without a meaning of their own; whether it is a key, a number or a date depends on its
place, so it is not looked into here.
-/

import TokenRelay.Text.Hex

namespace TokenRelay.Toml

/-- A token of a TOML text. -/
inductive Token where
  | dot
  | equals
  | comma
  | openBracket
  | closeBracket
  | openBrace
  | closeBrace
  | newline
  /-- A run of spaces and tabs. -/
  | blank (characters : List Char)
  | word (characters : List Char)
  /-- A string; a long one has three quotation marks and may have several lines. -/
  | string (text : String) (long : Bool)
  deriving DecidableEq, Repr

namespace Token

/-- How a string is written. -/
structure Form where
  /-- Between quotation marks, with escapes; otherwise between apostrophes, without. -/
  escapes : Bool
  /-- Between three marks, with newlines; otherwise between single ones. -/
  long : Bool

/-- The mark that opens and closes a string. -/
def Form.mark (form : Form) : Char :=
  if form.escapes then '"' else '\''

/-- How far a string has been read. -/
inductive Phase where
  /-- After one or two marks, which may open a long string. -/
  | opening (marks : Nat)
  /-- After the marks of a long string; a newline here is left out. -/
  | first
  /-- After a carriage return in that place. -/
  | firstCarriage
  | inside
  /-- After marks in a long string; with at least three of them the string is over. -/
  | closing (marks : Nat)
  /-- After a carriage return in a long string. -/
  | carriage
  /-- After a backslash. -/
  | escape
  /-- Inside an escape with hexadecimal digits, of which some are still owed. -/
  | unit (owed value : Nat)
  /-- After a backslash that ends its line: blanks and newlines are left out, and at least one
  newline has to come. -/
  | fold (broken : Bool)
  /-- After a carriage return in that place. -/
  | foldCarriage

/-- Where the walk stands between two characters. -/
inductive Mode where
  | between
  | blank (characters : List Char)
  | word (characters : List Char)
  | comment
  /-- After a carriage return, which a line feed has to follow. -/
  | carriage
  /-- Inside a string; its characters come latest first. -/
  | quoted (form : Form) (phase : Phase) (characters : List Char)

/-- A walk over a text: the tokens so far, the latest first, and where it stands. -/
structure Walk where
  tokens : List Token
  mode : Mode

/-- The walk before the first character. -/
def Walk.start : Walk := ⟨[], .between⟩

/-- Whether a character may stand in a string or a comment: a tab, or anything that is no control
character. -/
def isPlain (character : Char) : Bool :=
  character = '\t' || (0x20 ≤ character.toNat && character.toNat ≠ 0x7F)

/-- One character between two tokens. -/
def beginToken (tokens : List Token) (character : Char) : Walk :=
  match character with
  | '.' => ⟨.dot :: tokens, .between⟩
  | '=' => ⟨.equals :: tokens, .between⟩
  | ',' => ⟨.comma :: tokens, .between⟩
  | '[' => ⟨.openBracket :: tokens, .between⟩
  | ']' => ⟨.closeBracket :: tokens, .between⟩
  | '\x7b' => ⟨.openBrace :: tokens, .between⟩
  | '\x7d' => ⟨.closeBrace :: tokens, .between⟩
  | '\n' => ⟨.newline :: tokens, .between⟩
  | '\r' => ⟨tokens, .carriage⟩
  | '#' => ⟨tokens, .comment⟩
  | ' ' | '\t' => ⟨tokens, .blank [character]⟩
  | '"' => ⟨tokens, .quoted ⟨true, false⟩ (.opening 1) []⟩
  | '\'' => ⟨tokens, .quoted ⟨false, false⟩ (.opening 1) []⟩
  | _ => ⟨tokens, .word [character]⟩

/-- Whether a character can be part of a word. -/
def isWord (character : Char) : Bool :=
  !(['.', '=', ',', '[', ']', '\x7b', '\x7d', '\n', '\r', '#', ' ', '\t', '"', '\''].contains
    character)

/-- The token of a finished string. -/
def finished (form : Form) (characters : List Char) : Token :=
  .string (String.ofList characters.reverse) form.long

/-- What an escape of one letter stands for. -/
def escaped? : Char → Option Char
  | '"' => some '"'
  | '\\' => some '\\'
  | 'b' => some '\x08'
  | 'e' => some '\x1b'
  | 'f' => some '\x0c'
  | 'n' => some '\n'
  | 'r' => some '\r'
  | 't' => some '\t'
  | _ => none

/-- How many digits an escape with hexadecimal digits has. -/
def unitDigits? : Char → Option Nat
  | 'x' => some 2
  | 'u' => some 4
  | 'U' => some 8
  | _ => none

/-- The character with a code, if there is one. -/
def character? (code : Nat) : Option Char :=
  if h : code.isValidChar then some (Char.ofNatAux code h) else none

/-- One character inside a string, where nothing special came before it. -/
def insideStep (tokens : List Token) (form : Form) (characters : List Char)
    (next : Char) : Option Walk :=
  if next = form.mark then
    if form.long then some ⟨tokens, .quoted form (.closing 1) characters⟩
    else some ⟨finished form characters :: tokens, .between⟩
  else if next = '\\' ∧ form.escapes then some ⟨tokens, .quoted form .escape characters⟩
  else if next = '\n' ∧ form.long then some ⟨tokens, .quoted form .inside ('\n' :: characters)⟩
  else if next = '\r' ∧ form.long then some ⟨tokens, .quoted form .carriage characters⟩
  else if isPlain next then some ⟨tokens, .quoted form .inside (next :: characters)⟩
  else none

/-- One character after a backslash. -/
def escapeStep (tokens : List Token) (form : Form) (characters : List Char)
    (next : Char) : Option Walk :=
  match escaped? next, unitDigits? next with
  | some character, _ => some ⟨tokens, .quoted form .inside (character :: characters)⟩
  | none, some digits => some ⟨tokens, .quoted form (.unit digits 0) characters⟩
  | none, none =>
    if !form.long then none
    else if next = ' ' ∨ next = '\t' then some ⟨tokens, .quoted form (.fold false) characters⟩
    else if next = '\n' then some ⟨tokens, .quoted form (.fold true) characters⟩
    else if next = '\r' then some ⟨tokens, .quoted form .foldCarriage characters⟩
    else none

/-- One character inside a string that has been read up to the given phase. -/
def quotedStep (tokens : List Token) (form : Form) (characters : List Char)
    (next : Char) : Phase → Option Walk
  | .opening marks =>
    if next = form.mark then
      if marks = 1 then some ⟨tokens, .quoted form (.opening 2) []⟩
      else some ⟨tokens, .quoted ⟨form.escapes, true⟩ .first []⟩
    else if marks = 1 then insideStep tokens form [] next
    else some (beginToken (finished form [] :: tokens) next)
  | .first =>
    if next = '\n' then some ⟨tokens, .quoted form .inside []⟩
    else if next = '\r' then some ⟨tokens, .quoted form .firstCarriage []⟩
    else insideStep tokens form [] next
  | .firstCarriage => if next = '\n' then some ⟨tokens, .quoted form .inside []⟩ else none
  | .inside => insideStep tokens form characters next
  | .closing marks =>
    if next = form.mark then
      if marks < 4 then some ⟨tokens, .quoted form (.closing (marks + 1)) characters⟩
      else some ⟨finished form (form.mark :: form.mark :: characters) :: tokens, .between⟩
    else if marks < 3 then
      insideStep tokens form (List.replicate marks form.mark ++ characters) next
    else
      some (beginToken
        (finished form (List.replicate (marks - 3) form.mark ++ characters) :: tokens) next)
  | .carriage =>
    if next = '\n' then some ⟨tokens, .quoted form .inside ('\n' :: '\r' :: characters)⟩ else none
  | .escape => escapeStep tokens form characters next
  | .unit owed value =>
    match Text.Hex.value? next with
    | none => none
    | some digit =>
      let value := value * 16 + digit
      if owed ≤ 1 then
        (character? value).map fun character =>
          ⟨tokens, .quoted form .inside (character :: characters)⟩
      else some ⟨tokens, .quoted form (.unit (owed - 1) value) characters⟩
  | .fold broken =>
    if next = ' ' ∨ next = '\t' then some ⟨tokens, .quoted form (.fold broken) characters⟩
    else if next = '\n' then some ⟨tokens, .quoted form (.fold true) characters⟩
    else if next = '\r' then some ⟨tokens, .quoted form .foldCarriage characters⟩
    else if broken then insideStep tokens form characters next
    else none
  | .foldCarriage =>
    if next = '\n' then some ⟨tokens, .quoted form (.fold true) characters⟩ else none

/-- One more character of the text. -/
def Walk.step (walk : Walk) (next : Char) : Option Walk :=
  match walk.mode with
  | .between => some (beginToken walk.tokens next)
  | .blank characters =>
    if next = ' ' ∨ next = '\t' then some ⟨walk.tokens, .blank (next :: characters)⟩
    else some (beginToken (.blank characters.reverse :: walk.tokens) next)
  | .word characters =>
    if isWord next then some ⟨walk.tokens, .word (next :: characters)⟩
    else some (beginToken (.word characters.reverse :: walk.tokens) next)
  | .comment =>
    if next = '\n' then some ⟨.newline :: walk.tokens, .between⟩
    else if next = '\r' then some ⟨walk.tokens, .carriage⟩
    else if isPlain next then some walk
    else none
  | .carriage => if next = '\n' then some ⟨.newline :: walk.tokens, .between⟩ else none
  | .quoted form phase characters => quotedStep walk.tokens form characters next phase

/-- The tokens of a walk over a whole text. -/
def Walk.finish (walk : Walk) : Option (List Token) :=
  match walk.mode with
  | .between | .comment => some walk.tokens.reverse
  | .blank characters => some (.blank characters.reverse :: walk.tokens).reverse
  | .word characters => some (.word characters.reverse :: walk.tokens).reverse
  | .quoted form (.opening 2) _ => some (finished form [] :: walk.tokens).reverse
  | .quoted form (.closing marks) characters =>
    if marks < 3 then none
    else
      some (finished form (List.replicate (marks - 3) form.mark ++ characters)
        :: walk.tokens).reverse
  | .carriage | .quoted _ _ _ => none

/-- The tokens of a text. A byte order mark at its start is no part of it. -/
def scan (text : List Char) : Option (List Token) :=
  let body :=
    match text with
    | '\uFEFF' :: rest => rest
    | other => other
  match body.foldlM Walk.step .start with
  | some walk => walk.finish
  | none => none

end Token

end TokenRelay.Toml
