/-
# Responses of the server

Supplies the responses to requests. A request that only asks what requests from other sites may be
like is answered first, then one to an unknown target is refused. To the targets of streamed turns
the caller has to be identified before anything else is looked at, even the method. A turn is
streamed once its payload has been read, its conditions hold, its provider is the one there is, and
a source could be opened for it, in this order; so a refused request starts nothing, and a source is
opened only for a request that is refused for no other reason. There is no response at all if the
call that starts the session is broken off.
-/

import TokenRelay.Http.Payload
import TokenRelay.Http.Route
import TokenRelay.Query
import TokenRelay.Server.Basic

namespace TokenRelay.Server

open Http

/-- The identifiers that a streamed turn gets. -/
structure FreshIds where
  requestId : Uuid
  /-- The identifier of the conversation, for a turn that does not go on with one. -/
  conversationId : Uuid
  deriving DecidableEq, Repr

/-- The seconds since the start of 1970. -/
def now (server : Server) : Nat := server.relay.clock / 1000

/-- The cause of refusing a query for another provider than the one there is. -/
def unavailable (provider model : String) : String :=
  "Model " ++ model ++ " from provider " ++ provider ++ " not found in available models"

/-- The query in a request, if a turn may be streamed for it. -/
def accept (server : Server) (request : Request) : Except Problem Query := do
  let query ← (request.payload Query.reader).mapError (.unprocessable ·.message)
  query.validate.mapError (.unprocessable ·.message)
  match query.provider, query.model with
  | some provider, some model =>
    if provider = server.backend.provider then .ok query
    else .error (.badRequest (unavailable provider model))
  | _, _ => .ok query

/-- What a source is opened for. -/
def inference (server : Server) (ids : FreshIds) (query : Query) : InferenceRequest where
  query := query.text
  conversationId := query.conversationId.getD ids.conversationId.text
  systemPrompt := query.systemPrompt
  model := some (query.model.getD server.backend.model)

/-- Opens a source for a query and starts a session on it. Its stream is given up if there can be no
response with it. -/
def stream (server : Server) (ids : FreshIds) (caller : Identity) (query : Query) :
    Option Response × Server :=
  let inference := server.inference ids query
  let server := { server with opened := server.opened ++ [inference] }
  match (server.backend.openSource inference).source with
  | .error error => (some (.ofProblem (.serviceUnavailable error.text)), server)
  | .ok source =>
    let requestId := ids.requestId.text
    let session : SessionRequest :=
      { requestId := requestId
        conversationId := inference.conversationId
        owner := caller.userId
        query := query.text
        provider := some server.backend.provider
        model := inference.model }
    match server.relay.launch session source with
    | .brokenOff relay => (none, { server with relay })
    | .opened relay =>
      let number := server.relay.nextSession
      let server := { server with relay }
      match Response.ofEvents number requestId with
      | .error problem => (some (.ofProblem problem), server.abandon number)
      | .ok response => (some response, server)

/-- Answers a request for a streamed turn. -/
def answerQuery (server : Server) (ids : FreshIds) (caller : Identity) (request : Request) :
    Option Response × Server :=
  match server.accept request with
  | .error problem => (some (.ofProblem problem), server)
  | .ok query => server.stream ids caller query

/-- The interrupt request in a request, if it is in order. -/
def readInterrupt (request : Request) : Except Problem InterruptRequest := do
  let interrupt ← (request.payload InterruptRequest.reader).mapError (.unprocessable ·.message)
  interrupt.validate.mapError (.unprocessable ·.message)
  return interrupt

/-- The response about a stream that was to be interrupted. -/
def interruptResponse : InterruptResult → Response
  | .interrupted response | .notInterrupted response =>
    { status := 200, content := .json response.toJson }
  | .notFound requestId => .ofProblem (.notFound "streaming request" requestId)

/-- Answers a request to interrupt a streamed turn. -/
def answerInterrupt (server : Server) (caller : Identity) (request : Request) :
    Option Response × Server :=
  match readInterrupt request with
  | .error problem => (some (.ofProblem problem), server)
  | .ok interrupt =>
    let (result, relay) := server.relay.interrupt interrupt.requestId caller.userId
    (some (interruptResponse result), { server with relay })

/-- The response that tells that the server is alive. -/
def health (server : Server) : Response :=
  let active := server.relay.registry.size
  { status := 200
    content := .json (.object [("status", .string "ok"), ("active_streams", .ofNat active)]) }

/-- Answers an identified caller, with the given answer if the method of the request is one of the
route. -/
def answerMethod (server : Server) (route : Route) (method : String)
    (answer : Server → Option Response × Server) : Option Response × Server :=
  if route.methods.contains method then answer server else (some { status := 405 }, server)

/-- Answers a caller that has to be identified first. -/
def answerIdentified (server : Server) (request : Request)
    (answer : Identity → Server → Option Response × Server) : Option Response × Server :=
  let (result, authenticator) := server.authenticator.identify server.now request.headers
  let server := { server with authenticator }
  match result with
  | .error error => (some (.ofProblem (.unauthorized error.message)), server)
  | .ok caller => answer caller server

/-- Answers a request to a route. -/
def answerRoute (server : Server) (ids : FreshIds) (request : Request) (route : Route) :
    Option Response × Server :=
  match route with
  | .health =>
    server.answerMethod .health request.method fun server => (some server.health, server)
  | .query =>
    server.answerIdentified request fun caller server =>
      server.answerMethod .query request.method (·.answerQuery ids caller request)
  | .interrupt =>
    server.answerIdentified request fun caller server =>
      server.answerMethod .interrupt request.method (·.answerInterrupt caller request)

/-- The methods that a response to a route names: all of them, if the method of the request is none
of them. -/
def namedMethods (route : Route) (method : String) : List String :=
  if route.methods.contains method then [] else route.methods

/-- Answers a request. The identifiers are used if a turn is streamed for it. -/
def respond (server : Server) (ids : FreshIds) (request : Request) : Option Response × Server :=
  match Route.ofTarget? request.target with
  | none =>
    let preflight := request.method == "OPTIONS"
    (some { status := if preflight then 200 else 404, preflight }, server)
  | some route =>
    let allowed := namedMethods route request.method
    if request.method = "OPTIONS" then
      (some { status := 200, allowed, preflight := true }, server)
    else
      let (response?, server) := server.answerRoute ids request route
      let headersOnly := request.method == "HEAD"
      (response?.map fun response => { response with allowed, headersOnly }, server)

end TokenRelay.Server
