/-
# Lines of a chat stream

Supplies the meaning of one line of a chat stream. Only lines that start with `data:` count; what
follows, without the blanks around it, is either the mark of the end or a JSON object with pieces
of the answer, token counts, or an error. Data that is neither is skipped.
-/

import TokenRelay.Json.Reader
import TokenRelay.Text.Blank

namespace TokenRelay.Chat

/-- Token counts of a turn. -/
structure Usage where
  promptTokens : UInt64
  completionTokens : UInt64
  deriving DecidableEq, Repr

/-- The data of a line. -/
structure Delta where
  /-- The content of every choice; a choice may have none. -/
  contents : List (Option String)
  usage : Option Usage
  /-- The message of an error. -/
  error : Option String
  deriving DecidableEq, Repr

/-- What a line means. -/
inductive Line where
  | skipped
  | done
  | failure (message : String)
  /-- Pieces of the answer, none of them empty, and token counts. -/
  | delta (pieces : List String) (usage : Option Usage)
  deriving DecidableEq, Repr

namespace Delta

/-- The content of a choice as a record. -/
def contentRecord : Record (Option String) :=
  Record.pure id |>.and (.defaulted "content" none (.option .string))

/-- A choice as a record; one without content has none. -/
def choiceRecord : Record (Option String) :=
  Record.pure id |>.and (.defaulted "delta" none (contentRecord.reader false))

/-- Token counts as a record. -/
def usageRecord : Record Usage :=
  Record.pure Usage.mk
    |>.and (.required "prompt_tokens" .word)
    |>.and (.required "completion_tokens" .word)

/-- An error as a record; only its message counts. -/
def errorRecord : Record String :=
  Record.pure id |>.and (.required "message" .string)

/-- The data of a line as a record; everything may be absent. -/
def record : Record Delta :=
  Record.pure Delta.mk
    |>.and (.defaulted "choices" [] (.list (choiceRecord.reader false)))
    |>.and (.defaulted "usage" none (.option (usageRecord.reader false)))
    |>.and (.defaulted "error" none (.option (errorRecord.reader false)))

/-- Reads the data of a line. -/
def reader : Reader Delta := record.reader false

end Delta

namespace Line

/-- What the data of a line starts with. -/
def label : List Char := ['d', 'a', 't', 'a', ':']

/-- The mark of the end. -/
def doneMark : List Char := ['[', 'D', 'O', 'N', 'E', ']']

/-- The meaning of the data of a line. An error outweighs everything else in its object. -/
def ofDelta (data : Delta) : Line :=
  match data.error with
  | some message => .failure message
  | none => .delta ((data.contents.filterMap id).filter (· ≠ "")) data.usage

/-- The meaning of data without the blanks around it. -/
def ofData (data : List Char) : Line :=
  if data = doneMark then .done
  else
    match Delta.reader.run (Document.ofUnits (data.map some)) with
    | .ok found => ofDelta found
    | .error _ => .skipped

/-- The meaning of a line. -/
def ofChars (line : List Char) : Line :=
  if label.isPrefixOf line then ofData (Text.trimChars (line.drop label.length)) else .skipped

/-- The lines of a text, without the newlines between them; the line that is being read comes
latest character first. -/
def splitFrom (line : List Char) : List Char → List (List Char)
  | [] => [line.reverse]
  | character :: rest =>
    if character = '\n' then line.reverse :: splitFrom [] rest
    else splitFrom (character :: line) rest

/-- The meanings of the lines of a text. -/
def ofText (text : List Char) : List Line :=
  (splitFrom [] text).map ofChars

end Line

end TokenRelay.Chat
