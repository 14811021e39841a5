/-
# Text that arrives in chunks

Supplies the decoding of a byte stream that arrives in chunks of any size. A character or a pair of
carriage return and newline may straddle two chunks; the part that has arrived is held back until
the rest is there. The text has newlines only: every such pair becomes one newline.
-/

import TokenRelay.Text.Utf8

namespace TokenRelay.Chat

/-- A text with every pair of carriage return and newline replaced by the newline. -/
def joinLineEnds : List Char → List Char
  | '\r' :: '\n' :: rest => '\n' :: joinLineEnds rest
  | character :: rest => character :: joinLineEnds rest
  | [] => []

/-- The decoder of a chunked byte stream. -/
structure Feed where
  /-- The bytes held back: the start of a character, or a carriage return. -/
  held : List UInt8 := []

namespace Feed

/-- How many of the given bytes can be decoded now. The start of a character at the end is held
back, unless the bytes are no UTF-8 before it; and so is a carriage return at the end. -/
def readyCount (bytes : List UInt8) : Nat :=
  let (units, unfinished) := Text.Utf8.read bytes
  let count := if units.all Option.isSome then bytes.length - unfinished.length else bytes.length
  if (bytes.take count).getLast? = some 13 then count - 1 else count

/-- The text of decoded bytes. -/
def textOf (bytes : List UInt8) : List Char :=
  joinLineEnds (Text.Utf8.decodeLossy bytes)

/-- Takes one more chunk; returns the text that it completes. -/
def push (feed : Feed) (chunk : List UInt8) : List Char × Feed :=
  let bytes := feed.held ++ chunk
  let count := readyCount bytes
  (textOf (bytes.take count), ⟨bytes.drop count⟩)

/-- The text of what is held back when the stream ends. -/
def flush (feed : Feed) : List Char :=
  textOf feed.held

end Feed

end TokenRelay.Chat
