/-
# Requests and responses

Supplies the messages of the server. A response holds what was decided about a request: its status,
its content, and on what account it was made. Its headers follow from these, so two responses with
the same decisions have the same headers.
-/

import TokenRelay.Http.Headers
import TokenRelay.Http.Problem
import TokenRelay.Json.Token

namespace TokenRelay.Http

/-- A request. -/
structure Request where
  method : String
  /-- The path and what follows it. -/
  target : String
  headers : Headers := []
  body : List UInt8 := []

/-- The content of a response. -/
inductive Content where
  | empty
  | json (value : Json)
  /-- The events of a session, given by its number and the identifier of the request. -/
  | events (session : Nat) (requestId : String)

/-- A response. -/
structure Response where
  status : Nat
  content : Content := .empty
  /-- The methods of the target; none if the method of the request is one of them, or if there is
  no such target. -/
  allowed : List String := []
  /-- Whether the request only asks what requests from other sites may be like. -/
  preflight : Bool := false
  /-- Whether the request asks for the headers alone. -/
  headersOnly : Bool := false

namespace Content

/-- The headers that tell what the content is. No response with events is kept by a cache. -/
def headers : Content → List (String × String)
  | .empty => []
  | .json _ => [("content-type", "application/json")]
  | .events _ requestId =>
    [("cache-control", "no-cache"), ("content-type", "text/event-stream"),
      ("x-request-id", requestId)]

end Content

namespace Response

/-- The response that refuses a request. -/
def ofProblem (problem : Problem) : Response :=
  { status := problem.status, content := .json problem.toJson }

/-- The response with the events of a session, unless the identifier of the request cannot be
written into a header. -/
def ofEvents (session : Nat) (requestId : String) : Except Problem Response :=
  if requestId.toList.all fitsHeader then
    .ok { status := 200, content := .events session requestId }
  else .error (.internal "failed to parse header value")

/-- What requests from other sites may be like: they come from any site, and may read the
identifier of their request. -/
def sharing (response : Response) : List (String × String) :=
  if response.preflight then
    [("access-control-allow-headers", "content-type,authorization,x-user-id"),
      ("access-control-allow-methods", "GET,POST,OPTIONS"),
      ("access-control-allow-origin", "*")]
  else
    [("access-control-allow-origin", "*"), ("access-control-expose-headers", "x-request-id")]

/-- The headers of a response, sorted by name. -/
def headers (response : Response) : List (String × String) :=
  let allow :=
    if response.allowed.isEmpty then [] else [("allow", ",".intercalate response.allowed)]
  response.sharing ++ allow ++ response.content.headers

/-- The body of a response; none if it is a stream of events. -/
def body? (response : Response) : Option String :=
  match response.content with
  | .events _ _ => none
  | .empty => some ""
  | .json value => some (if response.headersOnly then "" else value.compact)

end Response

end TokenRelay.Http
