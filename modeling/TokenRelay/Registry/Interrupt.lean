/-
# Interrupts

Supplies the request to interrupt a stream, its condition, and the answer. An answer does not tell
whether a stream that was not interrupted belongs to someone else or is over already.
-/

import TokenRelay.Json.Reader
import TokenRelay.Registry.Basic
import TokenRelay.Text.Uuid

namespace TokenRelay

/-- A request to interrupt a stream. -/
structure InterruptRequest where
  requestId : String
  deriving DecidableEq, Repr

/-- Why an interrupt request is refused. -/
inductive InterruptError where
  | improperRequest (id : String)
  deriving DecidableEq, Repr

/-- The text of a refusal. -/
def InterruptError.message : InterruptError → String
  | .improperRequest id => "Improper request ID " ++ id

namespace InterruptRequest

/-- An interrupt request as a record. -/
def record : Record InterruptRequest :=
  Record.pure InterruptRequest.mk |>.and (.required "request_id" .string)

/-- Reads an interrupt request; it has no fields but its own. -/
def reader : Reader InterruptRequest := record.reader true

/-- The identifier must be a proper one. -/
def validate (request : InterruptRequest) : Except InterruptError Unit :=
  match Uuid.ofText? request.requestId with
  | some _ => .ok ()
  | none => .error (.improperRequest request.requestId)

end InterruptRequest

/-- The answer about a stream that was found. -/
structure InterruptResponse where
  requestId : String
  interrupted : Bool
  message : String
  deriving DecidableEq, Repr

/-- The JSON form of an answer. -/
def InterruptResponse.toJson (response : InterruptResponse) : Json :=
  .object [("request_id", .string response.requestId),
    ("interrupted", .bool response.interrupted), ("message", .string response.message)]

/-- What became of an interrupt request. -/
inductive InterruptResult where
  | interrupted (response : InterruptResponse)
  /-- The stream belongs to someone else or is over; the two are not told apart. -/
  | notInterrupted (response : InterruptResponse)
  | notFound (requestId : String)
  deriving DecidableEq, Repr

namespace Registry

/-- The result that an attempt to cancel a stream is reported as. -/
def interruptResult (requestId : String) : CancelOutcome → InterruptResult
  | .cancelled => .interrupted ⟨requestId, true, "Streaming request interrupted"⟩
  | .notFound => .notFound requestId
  | .forbidden | .alreadyDone =>
    .notInterrupted ⟨requestId, false,
      "Streaming request could not be interrupted; it is not active for this user"⟩

/-- Interrupts a stream for a caller. -/
def interrupt (registry : Registry) (requestId caller : String) : InterruptResult × Registry :=
  let (outcome, after) := registry.cancelStream requestId caller
  (interruptResult requestId outcome, after)

end Registry

end TokenRelay
