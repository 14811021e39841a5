/-
# Refusals

Supplies the refusals with which the server answers: a status, a title that depends on the kind of
refusal, and a cause. Their JSON form is the same for all of them.
-/

import TokenRelay.Json.Value
import TokenRelay.Text.Ascii

namespace TokenRelay.Http

/-- A refusal. -/
inductive Problem where
  | badRequest (cause : String)
  | unauthorized (cause : String)
  /-- Something is not there: what it would be, in lower case, and its identifier. -/
  | notFound (resource id : String)
  | unprocessable (cause : String)
  | serviceUnavailable (cause : String)
  | internal (cause : String)
  deriving DecidableEq, Repr

namespace Problem

/-- The status of the answer. -/
def status : Problem → Nat
  | .badRequest _ => 400
  | .unauthorized _ => 401
  | .notFound _ _ => 404
  | .unprocessable _ => 422
  | .serviceUnavailable _ => 503
  | .internal _ => 500

/-- The title of the refusal. -/
def title : Problem → String
  | .badRequest _ => "Invalid request"
  | .unauthorized _ => "Missing or invalid credentials provided by client"
  | .notFound resource _ => Text.asciiCapitalize resource ++ " not found"
  | .unprocessable _ => "Invalid request payload"
  | .serviceUnavailable _ => "Unable to connect to the inference backend"
  | .internal _ => "Internal server error"

/-- The cause of the refusal. -/
def cause : Problem → String
  | .badRequest cause | .unauthorized cause | .unprocessable cause
  | .serviceUnavailable cause | .internal cause => cause
  | .notFound resource id => Text.asciiCapitalize resource ++ " with ID " ++ id ++ " does not exist"

/-- The JSON form of the refusal. -/
def toJson (problem : Problem) : Json :=
  .object
    [("detail", .object [("response", .string problem.title), ("cause", .string problem.cause)])]

end Problem

end TokenRelay.Http
