/-
# Names from a fixed list

Supplies the reading of a name that users write: blanks around it and the case of its ASCII letters
do not matter. A name that is not on the list is reported in the form in which it was compared.
-/

import TokenRelay.Text.Ascii
import TokenRelay.Text.Blank

namespace TokenRelay

/-- A name that is not on the list for its kind of thing. -/
structure UnknownName where
  kind : String
  name : String
  deriving DecidableEq, Repr

/-- The text of the error. -/
def UnknownName.message (error : UnknownName) : String :=
  "unknown " ++ error.kind ++ " '" ++ error.name ++ "'"

/-- What a name stands for in a list of names of the given kind. -/
def readName {α : Type} (kind : String) (names : List (String × α)) (text : String) :
    Except UnknownName α :=
  let name := Text.asciiLower (Text.trim text)
  match names.lookup name with
  | some value => .ok value
  | none => .error ⟨kind, name⟩

end TokenRelay
