/-
# Token sources

Supplies the source of the fragments of an answer as a script: what each pull brings, after which
delay, and what is known about the turn when the script is over. A pull that brings nothing uses
up its step all the same.
-/

import TokenRelay.Event.Basic

namespace TokenRelay

/-- Why a stream fails. -/
inductive StreamError where
  /-- The source failed after it was opened. -/
  | remote (message : String)
  /-- The source could not be opened. -/
  | backend (message : String)
  | transcript (message : String)
  | invalidFrame (message : String)
  | io (message : String)
  deriving DecidableEq, Repr

namespace StreamError

/-- The text of an error. -/
def text : StreamError → String
  | .remote message => "Upstream error: " ++ message
  | .backend message => "Inference backend unavailable: " ++ message
  | .transcript message => "Transcript error: " ++ message
  | .invalidFrame message => "Invalid event frame: " ++ message
  | .io message => "IO error: " ++ message

/-- An error as consumers of a stream see it: every failure of a source is one at the far end. -/
def asRemote : StreamError → StreamError
  | .remote message => .remote message
  | error => .remote error.text

end StreamError

/-- What a pull brings. -/
inductive Action where
  | fragment (text : String)
  | fail (error : StreamError)
  /-- The end of the source. Without such a step a source ends behind its last one, at once. -/
  | finish
  /-- Nothing, ever. -/
  | hang
  /-- The end of the work that pulled. -/
  | crash
  deriving DecidableEq, Repr

/-- One step of a script: what a pull brings, and how many milliseconds later. -/
structure Step where
  action : Action
  delay : Nat := 0
  deriving DecidableEq, Repr

/-- A token source: its steps, and what comes after them. -/
structure Script where
  steps : List Step
  metadata : TurnMetadata := {}
  /-- Whether pulls beyond the last step bring nothing, instead of the end. -/
  endless : Bool := false

/-- The result of one pull that is given up after a while. -/
inductive Pulled where
  | fragment (text : String)
  | finished
  | failed (error : StreamError)
  /-- Nothing came in time. -/
  | hung
  deriving DecidableEq, Repr

namespace Script

/-- A script of fragments without delays. -/
def ofFragments (fragments : List String) (metadata : TurnMetadata) : Script :=
  { steps := fragments.map fun text => { action := .fragment text }, metadata := metadata }

/-- Pulls once and waits for at most `limit` milliseconds; what is ready at that very moment
counts. Returns the result, the time it took and the rest of the script. -/
def pullWithin (limit : Nat) (script : Script) : Pulled × Nat × Script :=
  match script.steps with
  | [] => if script.endless then (.hung, limit, script) else (.finished, 0, script)
  | step :: rest =>
    let after := { script with steps := rest }
    if limit < step.delay then (.hung, limit, after)
    else
      match step.action with
      | .fragment text => (.fragment text, step.delay, after)
      | .fail error => (.failed error, step.delay, after)
      | .finish => (.finished, step.delay, after)
      | .hang | .crash => (.hung, limit, after)

end Script

end TokenRelay
