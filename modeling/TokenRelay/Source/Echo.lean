/-
# The echo source

Supplies the source that answers a query with the query itself, word by word. Every fragment but
the last ends with a blank character and has no other, so the fragments join to the whole text.
-/

import TokenRelay.Source.Script
import TokenRelay.Text.Blank

namespace TokenRelay.Source

/-- Cuts a text behind every blank character. The fragment that is being read and those before it
come latest first. -/
def cutFrom (fragments : List String) (fragment : List Char) : List Char → List String
  | [] =>
    (if fragment.isEmpty then fragments
      else String.ofList fragment.reverse :: fragments).reverse
  | character :: rest =>
    if Text.isBlank character then
      cutFrom (String.ofList (character :: fragment).reverse :: fragments) [] rest
    else cutFrom fragments (character :: fragment) rest

/-- The fragments of a text, each up to and with its next blank character. -/
def fragments (text : String) : List String :=
  cutFrom [] [] text.toList

/-- What stands before the query. -/
def echoLabel : String := "mock-echo: "

/-- The source that echoes a query, with a delay in milliseconds before every fragment. The token
counts are those of fragments. -/
def echo (query : String) (delay : Nat) : Script :=
  let answer := fragments (echoLabel ++ query)
  { steps := answer.map fun text => { action := .fragment text, delay := delay }
    metadata :=
      { inputTokens := some (UInt64.ofNat (fragments query).length)
        outputTokens := some (UInt64.ofNat answer.length) } }

end TokenRelay.Source
