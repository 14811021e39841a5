/-
# Routes

Supplies the targets that the server knows and their methods. A target is known by its exact path;
a slash more at the end makes it another one, and so does an escaped character.
-/

namespace TokenRelay.Http

/-- A target of requests. -/
inductive Route where
  /-- Starts a streamed turn. -/
  | query
  /-- Interrupts a streamed turn. -/
  | interrupt
  /-- Tells that the server is alive. -/
  | health
  deriving DecidableEq, Repr

namespace Route

/-- The path of a route. -/
def path : Route → String
  | .query => "/v1/streaming_query"
  | .interrupt => "/v1/streaming_query/interrupt"
  | .health => "/health"

/-- Every route. -/
def all : List Route := [.query, .interrupt, .health]

/-- The path of the target of a request: what comes before a question mark or a number sign. -/
def pathOf (target : String) : String :=
  String.ofList (target.toList.takeWhile fun character => character ≠ '?' && character ≠ '#')

/-- The route that a request goes to. -/
def ofTarget? (target : String) : Option Route :=
  all.find? fun route => route.path == pathOf target

/-- The methods of a route. Where something may be got its headers may be got alone. -/
def methods : Route → List String
  | .query | .interrupt => ["POST"]
  | .health => ["GET", "HEAD"]

end Route

end TokenRelay.Http
