/-
# Entries for keys

Supplies the written form of a key with its owner: the owner, a colon, and the key. Blanks around
either part do not count, and the key may hold colons of its own.
-/

import TokenRelay.Text.Blank

namespace TokenRelay

/-- A key and the owner whom it identifies. -/
structure KeyEntry where
  owner : String
  key : String
  deriving DecidableEq, Repr

namespace KeyEntry

/-- What stands before and after the first colon of a text. -/
def atColon? (text : String) : Option (List Char × List Char) :=
  match text.toList.span (· ≠ ':') with
  | (_, []) => none
  | (before, _ :: after) => some (before, after)

/-- The entry that a text denotes: neither part may be blank. -/
def ofText? (text : String) : Option KeyEntry :=
  match atColon? text with
  | none => none
  | some (before, after) =>
    let owner := Text.trimChars before
    let key := Text.trimChars after
    if owner.isEmpty || key.isEmpty then none
    else some ⟨String.ofList owner, String.ofList key⟩

/-- A text that should be an entry, as it may be shown: without its key. Without a colon all of it
may be a key. -/
def redact (text : String) : String :=
  match atColon? text with
  | some (before, _) => String.ofList before ++ ":***"
  | none => "***"

end KeyEntry

end TokenRelay
