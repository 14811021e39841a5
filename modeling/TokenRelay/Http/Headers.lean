/-
# Headers

Supplies the headers of a message as a list of names with byte values. The case of the ASCII letters
of a name does not matter, and of several headers with one name the first counts. More characters
can be written into a value than are read from one.
-/

import TokenRelay.Text.Ascii

namespace TokenRelay.Http

/-- The headers of a message in order. -/
abbrev Headers : Type := List (String × List UInt8)

/-- Whether a character may be written into a header value: no control character but the tab. -/
def fitsHeader (character : Char) : Bool :=
  character = '\t' || (0x20 ≤ character.toNat && character.toNat ≠ 0x7F)

/-- The text of a header value: all of its bytes have to be tabs, spaces or visible ASCII
characters. -/
def visibleText? (value : List UInt8) : Option String :=
  if value.all fun byte => byte = 0x09 || (0x20 ≤ byte && byte ≤ 0x7E) then
    some (String.ofList (value.map fun byte => Char.ofNat byte.toNat))
  else none

namespace Headers

/-- The value of the first header with a name in lower case. -/
def find? (headers : Headers) (name : String) : Option (List UInt8) :=
  (List.find? (fun header => Text.asciiLower header.1 == name) headers).map Prod.snd

/-- The value of the first header with a name in lower case, if it is visible text. -/
def text? (headers : Headers) (name : String) : Option String :=
  (headers.find? name).bind visibleText?

end Headers

end TokenRelay.Http
