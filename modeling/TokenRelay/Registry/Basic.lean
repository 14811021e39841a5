/-
# The registry of live streams

Supplies the record of every stream that can be interrupted: under its request identifier, the
owner who started it and the handle of the work that produces it. A handle is a pair of flags
shared by everyone who knows it, so the registry keeps the flags of all handles apart from the
records that point at them. Only the owner of a stream can cancel it, and only while it is neither
cancelled nor finished.
-/

import TokenRelay.KeyMap

namespace TokenRelay

/-- The state of a unit of work that produces a stream. -/
structure Handle where
  /-- The work has been told to stop. -/
  cancelled : Bool := false
  /-- The work has reached its end by itself. -/
  finished : Bool := false
  deriving DecidableEq, Repr, Inhabited

/-- Whether the work is over or about to be. -/
def Handle.isDone (handle : Handle) : Bool := handle.finished || handle.cancelled

/-- A stream that can be interrupted. -/
structure ActiveStream where
  owner : String
  /-- The number of its handle. -/
  handle : Nat
  deriving DecidableEq, Repr

/-- The live streams and the flags of every handle there is. -/
structure Registry where
  streams : KeyMap ActiveStream := .empty
  handles : List Handle := []

/-- What became of an attempt to cancel a stream. -/
inductive CancelOutcome where
  /-- The stream was running and has been told to stop. -/
  | cancelled
  /-- Nothing is registered under the identifier. -/
  | notFound
  /-- The stream belongs to someone else. -/
  | forbidden
  /-- The stream is over or has been told to stop before. -/
  | alreadyDone
  deriving DecidableEq, Repr

/-- The name of an outcome. -/
def CancelOutcome.name : CancelOutcome → String
  | .cancelled => "cancelled"
  | .notFound => "not_found"
  | .forbidden => "forbidden"
  | .alreadyDone => "already_done"

namespace Registry

/-- The flags of a handle; a handle nobody made has none set. -/
def handle (registry : Registry) (number : Nat) : Handle :=
  registry.handles.getD number {}

/-- The number of the handle that is made next. -/
def nextHandle (registry : Registry) : Nat := registry.handles.length

/-- The registry with one more handle, whose number is `nextHandle`. -/
def addHandle (registry : Registry) : Registry :=
  { registry with handles := registry.handles ++ [{}] }

/-- Tells the work behind a handle to stop. -/
def cancelHandle (registry : Registry) (number : Nat) : Registry :=
  { registry with
    handles := registry.handles.modify number fun handle => { handle with cancelled := true } }

/-- Notes that the work behind a handle has reached its end. -/
def finishHandle (registry : Registry) (number : Nat) : Registry :=
  { registry with
    handles := registry.handles.modify number fun handle => { handle with finished := true } }

/-- The record of a request identifier. -/
def lookup (registry : Registry) (requestId : String) : Option ActiveStream :=
  registry.streams.find? requestId

/-- The number of live streams. -/
def size (registry : Registry) : Nat := registry.streams.size

/-- Enters a stream. A record that was there under the identifier is replaced. -/
def register (registry : Registry) (requestId owner : String) (number : Nat) : Registry :=
  { registry with streams := registry.streams.insert requestId ⟨owner, number⟩ }

/-- Removes the record of a request identifier, if there is one. -/
def deregister (registry : Registry) (requestId : String) : Registry :=
  { registry with streams := registry.streams.erase requestId }

/-- Cancels a stream for a caller. Everything but `cancelled` leaves the registry as it was. -/
def cancelStream (registry : Registry) (requestId caller : String) : CancelOutcome × Registry :=
  match registry.lookup requestId with
  | none => (.notFound, registry)
  | some stream =>
    if stream.owner ≠ caller then (.forbidden, registry)
    else if (registry.handle stream.handle).isDone then (.alreadyDone, registry)
    else (.cancelled, registry.cancelHandle stream.handle)

/-- Cancels the streams of a list that are not done yet, and counts them. -/
def cancelEach (count : Nat) (registry : Registry) :
    List (String × ActiveStream) → Nat × Registry
  | [] => (count, registry)
  | (_, stream) :: rest =>
    if (registry.handle stream.handle).isDone then cancelEach count registry rest
    else cancelEach (count + 1) (registry.cancelHandle stream.handle) rest

/-- Cancels every live stream that is not done yet, whoever owns it, and counts them. -/
def cancelAll (registry : Registry) : Nat × Registry :=
  cancelEach 0 registry registry.streams.entries

end Registry

end TokenRelay
