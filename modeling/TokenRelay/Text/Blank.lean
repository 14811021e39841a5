/-
# Blank characters

Supplies the characters that count as blank (the Unicode property `White_Space`) and the two
operations that depend on them: trimming a text and asking whether a text is blank. Every rule of
the library that says "blank" or "trimmed" means this property, unless it names an ASCII rule of its
own.
-/

namespace TokenRelay.Text

/-- The characters with the Unicode property `White_Space`. -/
def isBlank (character : Char) : Bool :=
  let code := character.toNat
  (0x09 ≤ code && code ≤ 0x0D) || code == 0x20 || code == 0x85 || code == 0xA0 ||
    code == 0x1680 || (0x2000 ≤ code && code ≤ 0x200A) || code == 0x2028 || code == 0x2029 ||
    code == 0x202F || code == 0x205F || code == 0x3000

/-- The characters of a text without the blank ones at either end. -/
def trimChars (characters : List Char) : List Char :=
  ((characters.dropWhile isBlank).reverse.dropWhile isBlank).reverse

/-- A text without the blank characters at either end. -/
def trim (text : String) : String :=
  String.ofList (trimChars text.toList)

/-- A text is blank when it has no character but blank ones; the empty text is blank. -/
def isBlankText (text : String) : Bool :=
  text.toList.all isBlank

end TokenRelay.Text
