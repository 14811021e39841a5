/-
# Runs of the server

Supplies what happens to a server as data: requests, and everything else that lets its sessions go
on. A request does one of three things to the sessions: nothing, the start of one of them, or an
attempt to cancel one. So whatever happens to a server is a run of its relay.
-/

import TokenRelay.Proofs.Relay.Delivery
import TokenRelay.Proofs.Relay.Interruption
import TokenRelay.Proofs.Text.Uuid
import TokenRelay.Server.Respond

namespace TokenRelay

/-- A result can be compared by its value alone, which is decidable. -/
theorem eq_ok_of_toOption {ε α : Type} {result : Except ε α} {value : α}
    (same : result.toOption = some value) : result = .ok value := by
  cases result with
  | error error => cases same
  | ok other => exact congrArg Except.ok (Option.some.inj same)

namespace Http.Response

/-- The identifier of the stream that a response reports as interrupted. -/
def interrupted? (response : Response) : Option String :=
  match response.content with
  | .json (.object members) =>
    match members.lookup "request_id", members.lookup "interrupted" with
    | some (.string requestId), some (.bool true) => some requestId
    | _, _ => none
  | .json _ | .empty | .events _ _ => none

end Http.Response

namespace Relay

/-- Settling is a poll of every session. -/
theorem settle_eq_play (relay : Relay) :
    relay.settle = relay.play ((List.range relay.sessions.length).map .poll) := by
  rw [settle, play, List.foldl_map]
  rfl

theorem length_sessions_settle (relay : Relay) :
    relay.settle.sessions.length = relay.sessions.length := by
  rw [settle_eq_play]
  generalize List.range relay.sessions.length = numbers
  induction numbers generalizing relay with
  | nil => rfl
  | cons number numbers ih =>
      rw [List.map_cons, play_cons, ih, length_sessions_move]

/-- Only a start chooses how many items the channels hold. -/
theorem capacity_move (relay : Relay) (move : Move) (kept : move.isStart = false) :
    (relay.move move).capacity = relay.capacity := by
  cases move with
  | start => cases kept
  | poll number =>
      rw [Relay.move, poll]
      split
      · rfl
      · split
        · rfl
        · rw [run]
          split <;> rfl
  | receive number =>
      rw [Relay.move, receive]
      split
      · rfl
      · split
        · rfl
        · split <;> rfl
  | abandon number =>
      rw [Relay.move, abandon]
      split <;> rfl
  | advance | cancelStream | cancelAll => rfl

/-- A channel holds at least one item. -/
theorem Reachable.capacity_pos {relay : Relay} (reached : relay.Reachable) :
    1 ≤ relay.capacity := by
  induction reached with
  | new capacity transcripts => exact Nat.le_max_right capacity 1
  | @move relay _ move ih =>
      cases move with
      | start capacity request source =>
          rw [move_start]
          exact Nat.le_max_right capacity 1
      | poll | advance | receive | abandon | cancelStream | cancelAll =>
          rw [relay.capacity_move _ rfl]
          exact ih

/-- So a call that starts a session returns if its channel is not too large, and it is one of the
operations. -/
theorem Reachable.launch_eq_opened {relay : Relay} (reached : relay.Reachable)
    (fits : relay.capacity ≤ Channel.limit) (request : SessionRequest) (source : Script) :
    relay.launch request source =
      .opened
        (relay.move (.start ⟨relay.capacity, reached.capacity_pos, fits⟩ request source)) := by
  rw [← launch_eq_move, withCapacity, Nat.max_eq_left reached.capacity_pos]

theorem capacity_play (relay : Relay) {moves : List Move}
    (kept : ∀ move ∈ moves, move.isStart = false) :
    (relay.play moves).capacity = relay.capacity := by
  induction moves generalizing relay with
  | nil => rfl
  | cons move moves ih =>
      rw [play_cons, ih _ fun later inside => kept later (List.mem_cons_of_mem _ inside),
        relay.capacity_move move (kept move List.mem_cons_self)]

end Relay

/-- What may happen to a server. -/
inductive Happening where
  | request (ids : Server.FreshIds) (request : Http.Request)
  /-- A session goes on until it waits. -/
  | poll (number : Nat)
  /-- All sessions go on, and the new records are written under the given names. -/
  | settle (names : Nat → Uuid)
  | advance (milliseconds : Nat)
  | receive (number : Nat)
  | abandon (number : Nat)
  | cancelAll

namespace Server

/-- The server after something has happened to it. -/
def after (server : Server) : Happening → Server
  | .request ids request => (server.respond ids request).2
  | .poll number => { server with relay := server.relay.poll number }
  | .settle names => server.settle names
  | .advance milliseconds => server.advance milliseconds
  | .receive number => (server.receive number).2
  | .abandon number => server.abandon number
  | .cancelAll => server.cancelAll.2

/-- The response to what happens, if it is a request and there is one. -/
def answer? (server : Server) : Happening → Option Http.Response
  | .request ids request => (server.respond ids request).1
  | .poll _ | .settle _ | .advance _ | .receive _ | .abandon _ | .cancelAll => none

/-- The server after several things have happened to it in turn. -/
def run (server : Server) (happenings : List Happening) : Server :=
  happenings.foldl after server

/-- The responses to the requests among what happens, in order. -/
def answers (server : Server) : List Happening → List Http.Response
  | [] => []
  | happening :: rest =>
    (server.answer? happening).toList ++ (server.after happening).answers rest

theorem run_append (server : Server) (first second : List Happening) :
    server.run (first ++ second) = (server.run first).run second :=
  List.foldl_append

theorem run_concat (server : Server) (earlier : List Happening) (happening : Happening) :
    server.run (earlier ++ [happening]) = (server.run earlier).after happening :=
  server.run_append earlier [happening]

theorem answers_concat (server : Server) (earlier : List Happening) (happening : Happening) :
    server.answers (earlier ++ [happening]) =
      server.answers earlier ++ ((server.run earlier).answer? happening).toList := by
  induction earlier generalizing server with
  | nil => exact List.append_nil _
  | cons first rest ih => simp [answers, run, ih]

/-- The caller of a request, if it is identified. -/
def caller? (server : Server) (request : Http.Request) : Option Identity :=
  (server.authenticator.identify server.now request.headers).1.toOption

/-- A request is accepted: a turn is streamed for its caller as the session with a number. -/
structure Accepts (server : Server) (ids : FreshIds) (request : Http.Request) (number : Nat)
    (requestId owner : String) : Prop where
  method_eq : request.method = "POST"
  route_eq : Http.Route.ofTarget? request.target = some .query
  caller_eq : ∃ caller, server.caller? request = some caller ∧ caller.userId = owner
  responded : ∃ response, (server.respond ids request).1 = some response ∧
    response.status = 200 ∧ response.content = .events number requestId

/-- The caller is told the identifier. -/
theorem Accepts.mem_headers {server : Server} {ids : FreshIds} {request : Http.Request}
    {number : Nat} {requestId owner : String}
    (accepts : server.Accepts ids request number requestId owner) :
    ∃ response, (server.respond ids request).1 = some response ∧
      ("x-request-id", requestId) ∈ response.headers := by
  obtain ⟨response, responded, -, content⟩ := accepts.responded
  exact ⟨response, responded, by simp [Http.Response.headers, content, Http.Content.headers]⟩

/-- The identifier of the stream that is reported as interrupted in the response to a request. -/
def interrupted? (server : Server) (ids : FreshIds) (request : Http.Request) : Option String :=
  (server.respond ids request).1.bind Http.Response.interrupted?

/-- What a request can do to the sessions, and what its response then reports as interrupted. -/
inductive Answered (server : Server) (ids : FreshIds) (request : Http.Request) : Prop where
  /-- The request has to do with no session. -/
  | apart (relay_eq : (server.respond ids request).2.relay = server.relay)
      (interrupted?_eq : server.interrupted? ids request = none)
  /-- A turn is streamed, under a fresh identifier. -/
  | streamed (session : SessionRequest) (source : Script)
      (accepts : server.Accepts ids request server.relay.nextSession session.requestId
        session.owner)
      (requestId_eq : session.requestId = ids.requestId.text)
      (launch_eq : server.relay.launch session source =
        .opened (server.respond ids request).2.relay)
      (interrupted?_eq : server.interrupted? ids request = none)
  /-- The call that starts the session is broken off, and there is no response. -/
  | brokenOff (session : SessionRequest) (source : Script)
      (launch_eq : server.relay.launch session source =
        .brokenOff (server.respond ids request).2.relay)
      (respond_eq : (server.respond ids request).1 = none)
  /-- The caller asks to interrupt a turn, and is told that it has been interrupted if the registry
  says so. -/
  | asked (caller : Identity) (requestId : String)
      (caller_eq : server.caller? request = some caller)
      (relay_eq : (server.respond ids request).2.relay =
        (server.relay.cancelStream requestId caller.userId).2)
      (interrupted?_eq : server.interrupted? ids request =
        if (server.relay.cancelStream requestId caller.userId).1 = .cancelled then some requestId
        else none)

variable (server : Server) (ids : FreshIds) (request : Http.Request)

/-- A response that refuses a request before its payload is looked at. -/
inductive Unread : Http.Response → Prop
  | unidentified (error : AuthError) : Unread (.ofProblem (.unauthorized error.message))
  | improperMethod : Unread { status := 405 }

/-- A request to a target of streamed turns either reaches the answer of its target, with its caller
identified, or it is refused and changes at most what is known of callers. -/
theorem respond_eq_or {route : Http.Route}
    {answer : Identity → Server → Option Http.Response × Server}
    (routed : Http.Route.ofTarget? request.target = some route)
    (asks : request.method ≠ "OPTIONS") (methods_eq : route.methods = ["POST"])
    (answer_eq : server.answerRoute ids request route =
      server.answerIdentified request fun caller server =>
        server.answerMethod route request.method (answer caller)) :
    (∃ response authenticator allowed headersOnly, Unread response ∧
        server.respond ids request =
          (some { response with allowed, headersOnly }, { server with authenticator })) ∨
      ∃ caller authenticator response? after,
        request.method = "POST" ∧ server.caller? request = some caller ∧
        answer caller { server with authenticator } = (response?, after) ∧
        server.respond ids request =
          (response?.map fun response => { response with allowed := [], headersOnly := false },
            after) := by
  simp only [respond, routed, if_neg asks, answer_eq, answerIdentified, caller?]
  generalize server.authenticator.identify server.now request.headers = identified
  obtain ⟨result, authenticator⟩ := identified
  cases result with
  | error error => exact .inl ⟨_, authenticator, _, _, .unidentified error, rfl⟩
  | ok caller =>
      by_cases posted : request.method = "POST"
      · refine .inr ⟨caller, authenticator, _, _, posted, rfl, rfl, ?_⟩
        simp [answerMethod, namedMethods, methods_eq, posted]
      · refine .inl ⟨_, authenticator, namedMethods route request.method, request.method == "HEAD",
          .improperMethod, ?_⟩
        simp [answerMethod, methods_eq, posted]

/-- The turn that is streamed for a query. -/
def turn (caller : Identity) (query : Query) : SessionRequest where
  requestId := ids.requestId.text
  conversationId := (server.inference ids query).conversationId
  owner := caller.userId
  query := query.text
  provider := some server.backend.provider
  model := (server.inference ids query).model

/-- A turn is streamed as soon as its session has been started, since there is always a response for
it. -/
theorem stream_eq (caller : Identity) (query : Query) :
    server.stream ids caller query =
      let opened := server.opened ++ [server.inference ids query]
      match (server.backend.openSource (server.inference ids query)).source with
      | .error error => (some (.ofProblem (.serviceUnavailable error.text)), { server with opened })
      | .ok source =>
        match server.relay.launch (server.turn ids caller query) source with
        | .brokenOff relay => (none, { server with opened, relay })
        | .opened relay =>
          (some { status := 200, content := .events server.relay.nextSession ids.requestId.text },
            { server with opened, relay }) := by
  simp only [stream, Http.Response.ofEvents_text]
  cases (server.backend.openSource (server.inference ids query)).source with
  | error error => rfl
  | ok source => rfl

/-- What comes of the query of an identified caller: it is refused, a session is started for it, or
the call that starts the session is broken off. -/
inductive AnswersQuery (caller : Identity) : Option Http.Response × Server → Prop
  | refused (problem : Http.Problem) {after : Server} (relay_eq : after.relay = server.relay) :
      AnswersQuery caller (some (.ofProblem problem), after)
  | streamed (session : SessionRequest) (source : Script) {after : Server}
      (requestId_eq : session.requestId = ids.requestId.text)
      (owner_eq : session.owner = caller.userId)
      (launch_eq : server.relay.launch session source = .opened after.relay) :
      AnswersQuery caller
        (some { status := 200, content := .events server.relay.nextSession session.requestId },
          after)
  | brokenOff (session : SessionRequest) (source : Script) {after : Server}
      (launch_eq : server.relay.launch session source = .brokenOff after.relay) :
      AnswersQuery caller (none, after)

theorem answersQuery (caller : Identity) :
    server.AnswersQuery ids caller (server.answerQuery ids caller request) := by
  unfold answerQuery
  split
  · next problem refused => exact .refused problem rfl
  · next query accepted =>
    rw [stream_eq]
    dsimp only
    split
    · next error failed => exact .refused _ rfl
    · next source opened =>
      cases launched : server.relay.launch (server.turn ids caller query) source with
      | opened relay => exact .streamed (server.turn ids caller query) source rfl rfl launched
      | brokenOff relay => exact .brokenOff (server.turn ids caller query) source launched

/-- A request for a streamed turn starts a session for its caller, or it is refused. -/
theorem answered_query (routed : Http.Route.ofTarget? request.target = some .query)
    (asks : request.method ≠ "OPTIONS") : server.Answered ids request := by
  rcases server.respond_eq_or ids request routed asks rfl rfl with
    ⟨_, _, _, _, unread, responded⟩ | reached
  · exact .apart (by rw [responded]) (by rw [interrupted?, responded]; cases unread <;> rfl)
  · obtain ⟨caller, authenticator, response?, after, posted, identified, answer, responded⟩ :=
      reached
    have effect := answersQuery { server with authenticator } ids request caller
    rw [answer] at effect
    cases effect with
    | refused problem same =>
        exact .apart (by rw [responded]; exact same) (by rw [interrupted?, responded]; rfl)
    | streamed session source identifier owned launched =>
        refine .streamed session source ?_ identifier (by rw [responded]; exact launched)
          (by rw [interrupted?, responded]; rfl)
        constructor
        case method_eq => exact posted
        case route_eq => exact routed
        case caller_eq => exact ⟨caller, identified, owned.symm⟩
        case responded => exact ⟨_, by rw [responded]; rfl, rfl, rfl⟩
    | brokenOff session source launched =>
        exact .brokenOff session source (by rw [responded]; exact launched) (by rw [responded]; rfl)

/-- Only what has been cancelled is reported as interrupted. -/
theorem interrupted?_interruptResponse (requestId : String) (outcome : CancelOutcome) :
    (interruptResponse (Registry.interruptResult requestId outcome)).interrupted? =
      if outcome = .cancelled then some requestId else none := by
  cases outcome <;> rfl

/-- A request to interrupt a turn asks the registry in the name of its caller, or it is refused. -/
theorem answered_interrupt (routed : Http.Route.ofTarget? request.target = some .interrupt)
    (asks : request.method ≠ "OPTIONS") : server.Answered ids request := by
  rcases server.respond_eq_or ids request routed asks rfl rfl with
    ⟨_, _, _, _, unread, responded⟩ | reached
  · exact .apart (by rw [responded]) (by rw [interrupted?, responded]; cases unread <;> rfl)
  · obtain ⟨caller, authenticator, response?, after, -, identified, answer, responded⟩ := reached
    unfold answerInterrupt at answer
    split at answer
    · cases answer
      exact .apart (by rw [responded]) (by rw [interrupted?, responded]; rfl)
    · next interrupt read =>
      cases answer
      refine .asked caller interrupt.requestId identified (by rw [responded]; rfl) ?_
      rw [interrupted?, responded]
      exact interrupted?_interruptResponse interrupt.requestId _

/-- Every request is one of these, or it has to do with no session. -/
theorem answered : server.Answered ids request := by
  cases routed : Http.Route.ofTarget? request.target with
  | none =>
      exact .apart (by simp [respond, routed])
        (by simp [interrupted?, respond, routed, Http.Response.interrupted?])
  | some route =>
      by_cases asks : request.method = "OPTIONS"
      · exact .apart (by simp [respond, routed, asks])
          (by simp [interrupted?, respond, routed, asks, Http.Response.interrupted?])
      · cases route with
        | query => exact server.answered_query ids request routed asks
        | interrupt => exact server.answered_interrupt ids request routed asks
        | health =>
            obtain ⟨response, healthy, quiet⟩ : ∃ response,
                server.answerRoute ids request .health = (some response, server) ∧
                  response.interrupted? = none := by
              simp only [answerRoute, answerMethod]
              split <;> exact ⟨_, rfl, rfl⟩
            refine .apart (by simp [respond, routed, asks, healthy]) ?_
            simp only [interrupted?, respond, routed, if_neg asks, healthy]
            exact quiet

/-- Writing records changes the files and nothing else. -/
theorem exists_settle (names : Nat → Uuid) :
    ∃ files, server.settle names =
      { server with
        relay := server.relay.settle
        files
        written := server.relay.settle.records.length } := by
  have kept (fresh : List (TranscriptRecord × Nat)) (server : Server) :
      ∃ files, fresh.foldl (write names) server = { server with files } := by
    induction fresh generalizing server with
    | nil => exact ⟨server.files, rfl⟩
    | cons numbered rest ih =>
        rw [List.foldl_cons, write]
        split
        · exact ih server
        · exact ih { server with files := _ }
  exact kept _ _

theorem relay_settle (names : Nat → Uuid) : (server.settle names).relay = server.relay.settle := by
  obtain ⟨files, same⟩ := server.exists_settle names
  rw [same]

/-- Nothing that happens changes how many items the channels are to hold. -/
theorem capacity_after (happening : Happening) :
    (server.after happening).relay.capacity = server.relay.capacity := by
  cases happening with
  | request ids request =>
      cases server.answered ids request with
      | apart same => exact congrArg Relay.capacity same
      | streamed session source accepts identifier launched =>
          have kept := server.relay.capacity_launch session source
          rwa [launched] at kept
      | brokenOff session source launched =>
          have kept := server.relay.capacity_launch session source
          rwa [launched] at kept
      | asked caller requestId identified cancelled =>
          exact (congrArg Relay.capacity cancelled).trans rfl
  | settle names =>
      rw [after, relay_settle, Relay.settle_eq_play]
      refine server.relay.capacity_play fun move inside => ?_
      obtain ⟨number, -, rfl⟩ := List.mem_map.1 inside
      rfl
  | poll number => exact server.relay.capacity_move (.poll number) rfl
  | receive number => exact server.relay.capacity_move (.receive number) rfl
  | abandon number => exact server.relay.capacity_move (.abandon number) rfl
  | advance | cancelAll => rfl

/-- What happens to a server is a run of its relay, if its channels are not too large. -/
theorem exists_play (reached : server.relay.Reachable)
    (fits : server.relay.capacity ≤ Channel.limit) (happening : Happening) :
    ∃ moves, (server.after happening).relay = server.relay.play moves := by
  cases happening with
  | request ids request =>
      cases server.answered ids request with
      | apart same => exact ⟨[], same⟩
      | streamed session source accepts identifier launched =>
          rw [reached.launch_eq_opened fits] at launched
          exact ⟨[.start _ session source], (Launch.opened.inj launched).symm⟩
      | brokenOff session source launched =>
          rw [reached.launch_eq_opened fits] at launched
          cases launched
      | asked caller requestId identified cancelled =>
          exact ⟨[.cancelStream requestId caller.userId], cancelled⟩
  | poll number => exact ⟨[.poll number], rfl⟩
  | settle names => exact ⟨_, (server.relay_settle names).trans server.relay.settle_eq_play⟩
  | advance milliseconds => exact ⟨[.advance milliseconds], rfl⟩
  | receive number => exact ⟨[.receive number], rfl⟩
  | abandon number => exact ⟨[.abandon number], rfl⟩
  | cancelAll => exact ⟨[.cancelAll], rfl⟩

/-- Only an accepted request adds a session. -/
theorem accepts_or_length_sessions (happening : Happening) :
    (∃ ids request session source, happening = .request ids request ∧
      server.Accepts ids request server.relay.nextSession session.requestId session.owner ∧
      server.relay.launch session source = .opened (server.after happening).relay) ∨
    (server.after happening).relay.sessions.length = server.relay.sessions.length := by
  cases happening with
  | request ids request =>
      cases server.answered ids request with
      | apart same => exact .inr (congrArg (·.sessions.length) same)
      | streamed session source accepts identifier launched =>
          exact .inl ⟨ids, request, session, source, rfl, accepts, launched⟩
      | brokenOff session source launched =>
          exact .inr (congrArg (·.sessions.length) (Relay.eq_enter_of_brokenOff launched))
      | asked caller requestId identified cancelled =>
          exact .inr (congrArg (·.sessions.length) cancelled)
  | poll number => exact .inr (server.relay.length_sessions_move (.poll number))
  | settle names =>
      refine .inr ((congrArg (·.sessions.length) (server.relay_settle names)).trans ?_)
      exact server.relay.length_sessions_settle
  | receive number => exact .inr (server.relay.length_sessions_move (.receive number))
  | abandon number => exact .inr (server.relay.length_sessions_move (.abandon number))
  | advance | cancelAll => exact .inr rfl

end Server

end TokenRelay
