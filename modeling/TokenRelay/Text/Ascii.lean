/-
# ASCII letters

Supplies the mapping between the cases of the 26 ASCII letters. Names that users write in settings
are compared without regard to it; other letters keep their case.
-/

namespace TokenRelay.Text

/-- A text with its ASCII letters in lower case. -/
def asciiLower (text : String) : String :=
  String.ofList (text.toList.map Char.toLower)

/-- A text whose first character is in upper case, if that is an ASCII letter. -/
def asciiCapitalize (text : String) : String :=
  match text.toList with
  | [] => ""
  | first :: rest => String.ofList (first.toUpper :: rest)

end TokenRelay.Text
