/-
# Payloads

Supplies the reading of a JSON payload from a request. Its content type is looked at first, then its
length, and then the text; a text that is not JSON is told apart from one that does not have the
form that is asked for.
-/

import TokenRelay.Http.MediaType
import TokenRelay.Http.Message
import TokenRelay.Json.Reader
import TokenRelay.Text.Utf8

namespace TokenRelay.Http

/-- Why a payload is refused. -/
inductive PayloadError where
  | contentType
  | tooLong
  | malformed
  | mismatch
  deriving DecidableEq, Repr

/-- The text of the error. -/
def PayloadError.message : PayloadError → String
  | .contentType => "Expected request with \x60Content-Type: application/json\x60"
  | .tooLong => "Failed to buffer the request body: length limit exceeded"
  | .malformed => "Failed to parse the request body as JSON"
  | .mismatch => "Failed to deserialize the JSON body into the target type"

namespace Request

/-- How many bytes the body of a request may have. -/
def bodyLimit : Nat := 2 * 1024 * 1024

/-- Whether the first content type of a request announces JSON. -/
def announcesJson (request : Request) : Bool :=
  (request.headers.text? "content-type").any MediaType.isJson

/-- Reads the payload of a request. -/
def payload {α : Type} (request : Request) (reader : Reader α) : Except PayloadError α :=
  if !request.announcesJson then .error .contentType
  else if bodyLimit < request.body.length then .error .tooLong
  else
    match reader.run (Document.ofUnits (Text.Utf8.units request.body)) with
    | .ok value => .ok value
    | .error .malformed => .error .malformed
    | .error .mismatch => .error .mismatch

end Request

end TokenRelay.Http
