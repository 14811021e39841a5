/-
# Refused requests change nothing

Supplies what a request can do to the server as a whole. A request that is not answered with status
200 leaves the sessions, their flags and the transcripts as they were; so does one that is told that
a turn was not interrupted. A source is opened only for a request that nothing is left to refuse
for but the source itself. And since there is always a response for a session that has been started,
no request meets with an error of the server, and none goes without a response whose channel can be
made.
-/

import TokenRelay.Proofs.Server.Discretion

namespace TokenRelay

private theorem mapError_ok {ε ε' α : Type} (change : ε → ε') (value : α) :
    (Except.ok value).mapError change = .ok value := rfl

private theorem mapError_error {ε ε' α : Type} (change : ε → ε') (error : ε) :
    (Except.error error : Except ε α).mapError change = .error (change error) := rfl

namespace Http.Response

/-- What a response tells of an attempt to interrupt a turn, if it is about one. -/
def told? (response : Response) : Option Bool :=
  match response.content with
  | .json (.object members) =>
    match members.lookup "interrupted" with
    | some (.bool interrupted) => some interrupted
    | _ => none
  | .json _ | .empty | .events _ _ => none

/-- The status of a response, and what it tells of an attempt to interrupt a turn. -/
def summary (response : Response) : Nat × Option Bool := (response.status, response.told?)

end Http.Response

namespace Server

/-- The sessions, their flags and the transcripts are as before. What is known of callers may have
changed, and sources may have been opened. -/
structure Untouched (server after : Server) : Prop where
  relay_eq : after.relay = server.relay
  backend_eq : after.backend = server.backend
  store_eq : after.store = server.store
  files_eq : after.files = server.files
  written_eq : after.written = server.written

theorem Untouched.refl (server : Server) : server.Untouched server := ⟨rfl, rfl, rfl, rfl, rfl⟩

theorem Untouched.trans {first second third : Server} (one : first.Untouched second)
    (other : second.Untouched third) : first.Untouched third where
  relay_eq := other.relay_eq.trans one.relay_eq
  backend_eq := other.backend_eq.trans one.backend_eq
  store_eq := other.store_eq.trans one.store_eq
  files_eq := other.files_eq.trans one.files_eq
  written_eq := other.written_eq.trans one.written_eq

/-- Nothing is left to refuse a request for: its caller is identified, its payload reads as a query,
the conditions of the query hold, and its provider is the one there is. -/
structure Admits (server : Server) (request : Http.Request) (caller : Identity) (query : Query) :
    Prop where
  method_eq : request.method = "POST"
  route_eq : Http.Route.ofTarget? request.target = some .query
  caller_eq : server.caller? request = some caller
  payload_eq : request.payload Query.reader = .ok query
  validate_eq : query.validate = .ok ()
  provider_eq : ∀ provider, query.provider = some provider → provider = server.backend.provider

/-- Why a request with an identified caller is refused although its method is right. -/
inductive Declined : Http.Problem → Prop
  | badRequest (cause : String) : Declined (.badRequest cause)
  | unprocessable (cause : String) : Declined (.unprocessable cause)

/-- A query in order names its model together with its provider. -/
theorem exists_model {query : Query} (valid : query.validate = .ok ()) {provider : String}
    (named : query.provider = some provider) : ∃ model, query.model = some model := by
  cases missing : query.model with
  | some model => exact ⟨model, rfl⟩
  | none =>
      simp only [Query.validate, named, missing] at valid
      split at valid
      · cases valid
      · split at valid <;> cases valid

/-- The query of a request is accepted if it can be read, is in order, and is for the provider there
is. -/
theorem accept_cases (server : Server) (request : Http.Request) :
    (∃ problem, server.accept request = .error problem ∧ Declined problem) ∨
      ∃ query, server.accept request = .ok query ∧
        request.payload Query.reader = .ok query ∧ query.validate = .ok () ∧
        ∀ provider, query.provider = some provider → provider = server.backend.provider := by
  unfold accept
  cases read : request.payload Query.reader with
  | error error => exact .inl ⟨_, rfl, .unprocessable error.message⟩
  | ok query =>
      cases valid : query.validate with
      | error error =>
          refine .inl ⟨_, ?_, .unprocessable error.message⟩
          simp [valid, mapError_ok, mapError_error, bind, Except.bind]
      | ok =>
          simp only [valid, mapError_ok, bind, Except.bind]
          cases named : query.provider with
          | none => exact .inr ⟨query, rfl, rfl, valid, by simp [named]⟩
          | some provider =>
              obtain ⟨model, modelNamed⟩ := exists_model valid named
              simp only [modelNamed]
              by_cases same : provider = server.backend.provider
              · refine .inr ⟨query, if_pos same, rfl, valid, fun other chosen => ?_⟩
                rw [← same]
                exact Option.some.inj (chosen.symm.trans named)
              · exact .inl ⟨_, if_neg same, .badRequest _⟩

theorem readInterrupt_cases (request : Http.Request) :
    (∃ problem, readInterrupt request = .error problem ∧ Declined problem) ∨
      ∃ interrupt, readInterrupt request = .ok interrupt := by
  unfold readInterrupt
  cases request.payload InterruptRequest.reader with
  | error error => exact .inl ⟨_, rfl, .unprocessable error.message⟩
  | ok interrupt =>
      cases valid : interrupt.validate with
      | error error =>
          refine .inl ⟨_, ?_, .unprocessable error.message⟩
          simp [valid, mapError_ok, mapError_error, bind, Except.bind]
      | ok =>
          refine .inr ⟨interrupt, ?_⟩
          simp [valid, mapError_ok, bind, Except.bind, pure, Except.pure]

/-- The statuses of responses to requests that have no effect. -/
def idleStatuses : List Nat := [200, 400, 401, 404, 405, 422]

/-- What a request can do to the server as a whole: the status of the response and what it tells of
an attempt to interrupt a turn, if there is a response, and the server after it. -/
inductive Handled (server : Server) (ids : FreshIds) (request : Http.Request) :
    Option (Nat × Option Bool) → Server → Prop where
  /-- At most something is learned about callers. -/
  | idle (authenticator : Authenticator) {status : Nat} (idle : status ∈ idleStatuses) :
    Handled server ids request (some (status, none)) { server with authenticator }
  /-- No source could be opened. -/
  | unopened (authenticator : Authenticator) (caller : Identity) (query : Query)
      (admits : server.Admits request caller query) (error : StreamError)
      (failed : (server.backend.openSource (server.inference ids query)).source = .error error) :
    Handled server ids request (some (503, none))
      { server with authenticator, opened := server.opened ++ [server.inference ids query] }
  /-- A turn is streamed. -/
  | streamed (authenticator : Authenticator) (caller : Identity) (query : Query)
      (admits : server.Admits request caller query) (source : Script)
      (opened : (server.backend.openSource (server.inference ids query)).source = .ok source)
      {relay : Relay}
      (launched : server.relay.launch (server.turn ids caller query) source = .opened relay) :
    Handled server ids request (some (200, none))
      { server with
        authenticator, opened := server.opened ++ [server.inference ids query], relay }
  /-- The call that starts the session is broken off. -/
  | brokenOff (authenticator : Authenticator) (caller : Identity) (query : Query)
      (admits : server.Admits request caller query) (source : Script)
      (opened : (server.backend.openSource (server.inference ids query)).source = .ok source)
      {relay : Relay}
      (launched : server.relay.launch (server.turn ids caller query) source = .brokenOff relay) :
    Handled server ids request none
      { server with
        authenticator, opened := server.opened ++ [server.inference ids query], relay }
  /-- The registry is asked to cancel a turn. -/
  | asked (authenticator : Authenticator) (caller : Identity) (requestId : String) :
    Handled server ids request
      (some (interruptResponse (server.relay.interrupt requestId caller.userId).1).summary)
      { server with
        authenticator, relay := (server.relay.interrupt requestId caller.userId).2 }

variable {server : Server} {ids : FreshIds} {request : Http.Request}

theorem handled_of_unread {response : Http.Response} (unread : Unread response)
    (authenticator : Authenticator) :
    server.Handled ids request (some response.summary) { server with authenticator } := by
  cases unread with
  | unidentified error =>
      exact .idle authenticator
        (by simp [Http.Response.ofProblem, Http.Problem.status, idleStatuses])
  | improperMethod => exact .idle authenticator (by decide)

theorem handled_of_declined {problem : Http.Problem} (declined : Declined problem)
    (authenticator : Authenticator) :
    server.Handled ids request (some (problem.status, none)) { server with authenticator } := by
  refine .idle authenticator ?_
  cases declined <;> simp [Http.Problem.status, idleStatuses]

/-- A request for a streamed turn. -/
theorem handled_query (routed : Http.Route.ofTarget? request.target = some .query)
    (asks : request.method ≠ "OPTIONS") :
    server.Handled ids request ((server.respond ids request).1.map Http.Response.summary)
      (server.respond ids request).2 := by
  rcases server.respond_eq_or ids request routed asks rfl rfl with
    ⟨response, authenticator, _, _, unread, responded⟩ | reached
  · rw [responded]
    exact handled_of_unread unread authenticator
  · obtain ⟨caller, authenticator, response?, after, posted, identified, answer, responded⟩ :=
      reached
    unfold answerQuery at answer
    rw [responded]
    rcases accept_cases { server with authenticator } request with
      ⟨problem, refused, declined⟩ | ⟨query, accepted, read, valid, provided⟩
    · rw [refused] at answer
      cases answer
      exact handled_of_declined declined authenticator
    · have admits : server.Admits request caller query :=
        ⟨posted, routed, identified, read, valid, provided⟩
      simp only [accepted, stream_eq] at answer
      split at answer
      · next error failed =>
        cases answer
        exact .unopened authenticator caller query admits error failed
      · next source opened =>
        split at answer
        · next relay launched =>
          cases answer
          exact .brokenOff authenticator caller query admits source opened launched
        · next relay launched =>
          cases answer
          exact .streamed authenticator caller query admits source opened launched

/-- A request to interrupt a turn. -/
theorem handled_interrupt (routed : Http.Route.ofTarget? request.target = some .interrupt)
    (asks : request.method ≠ "OPTIONS") :
    server.Handled ids request ((server.respond ids request).1.map Http.Response.summary)
      (server.respond ids request).2 := by
  rcases server.respond_eq_or ids request routed asks rfl rfl with
    ⟨response, authenticator, _, _, unread, responded⟩ | reached
  · rw [responded]
    exact handled_of_unread unread authenticator
  · obtain ⟨caller, authenticator, response?, after, -, -, answer, responded⟩ := reached
    unfold answerInterrupt at answer
    rw [responded]
    rcases readInterrupt_cases request with ⟨problem, refused, declined⟩ | ⟨interrupt, read⟩
    · rw [refused] at answer
      cases answer
      exact handled_of_declined declined authenticator
    · rw [read] at answer
      cases answer
      exact .asked authenticator caller interrupt.requestId

/-- Every request is handled in one of these ways. -/
theorem handled (server : Server) (ids : FreshIds) (request : Http.Request) :
    server.Handled ids request ((server.respond ids request).1.map Http.Response.summary)
      (server.respond ids request).2 := by
  cases routed : Http.Route.ofTarget? request.target with
  | none =>
      simp only [respond, routed]
      refine .idle server.authenticator ?_
      split <;> simp [idleStatuses]
  | some route =>
      by_cases asks : request.method = "OPTIONS"
      · simp only [respond, routed, if_pos asks]
        exact .idle server.authenticator (by simp [idleStatuses])
      · cases route with
        | query => exact handled_query routed asks
        | interrupt => exact handled_interrupt routed asks
        | health =>
            simp only [respond, routed, if_neg asks, answerRoute, answerMethod]
            split
            · exact .idle server.authenticator (by simp [health, idleStatuses])
            · exact .idle server.authenticator (by simp [idleStatuses])

/-- What is told of an attempt to interrupt a turn. -/
theorem interruptResponse_eq (requestId : String) (outcome : CancelOutcome) :
    let response := interruptResponse (Registry.interruptResult requestId outcome)
    (response.status = if outcome = .notFound then 404 else 200) ∧
      response.told? =
        match outcome with
        | .cancelled => some true
        | .notFound => none
        | .forbidden | .alreadyDone => some false := by
  cases outcome <;> exact ⟨rfl, rfl⟩

/-- An attempt to interrupt a turn that is not reported as its interruption changes nothing. -/
theorem snd_interrupt {requestId caller : String}
    (refused : (interruptResponse (server.relay.interrupt requestId caller).1).status ≠ 200 ∨
      (interruptResponse (server.relay.interrupt requestId caller).1).told? = some false) :
    (server.relay.interrupt requestId caller).2 = server.relay := by
  have answered : (server.relay.interrupt requestId caller).1 =
      Registry.interruptResult requestId (server.relay.registry.cancelStream requestId caller).1 :=
    rfl
  obtain ⟨status_eq, told?_eq⟩ := interruptResponse_eq requestId
    (server.relay.registry.cancelStream requestId caller).1
  have notCancelled : (server.relay.registry.cancelStream requestId caller).1 ≠ .cancelled := by
    intro cancelled
    rw [answered, status_eq, told?_eq, cancelled] at refused
    simp at refused
  show { server.relay with registry := (server.relay.registry.cancelStream requestId caller).2 } =
    server.relay
  rw [server.relay.registry.cancelStream_of_not_cancelled notCancelled]

section Handled

variable {status : Nat} {told : Option Bool} {after : Server}

theorem Handled.untouched (handled : server.Handled ids request (some (status, told)) after)
    (refused : status ≠ 200 ∨ told = some false) : server.Untouched after := by
  cases handled with
  | idle | unopened => exact ⟨rfl, rfl, rfl, rfl, rfl⟩
  | streamed => simp at refused
  | asked authenticator caller requestId => exact ⟨snd_interrupt refused, rfl, rfl, rfl, rfl⟩

/-- A source is opened for a request with nothing else to refuse it for, or not at all. -/
theorem Handled.opened_eq_or (handled : server.Handled ids request (some (status, told)) after) :
    (after.opened = server.opened ∧ status ≠ 503) ∨
      ∃ caller query, server.Admits request caller query ∧
        after.opened = server.opened ++ [server.inference ids query] ∧
        ((status = 503 ∧ ∃ error,
            (server.backend.openSource (server.inference ids query)).source = .error error) ∨
          status = 200 ∧ ∃ source,
            (server.backend.openSource (server.inference ids query)).source = .ok source ∧
            server.relay.launch (server.turn ids caller query) source = .opened after.relay) := by
  cases handled with
  | idle authenticator idle =>
      refine .inl ⟨rfl, ?_⟩
      rintro rfl
      exact absurd idle (by decide)
  | unopened authenticator caller query admits error failed =>
      exact .inr ⟨caller, query, admits, rfl, .inl ⟨rfl, error, failed⟩⟩
  | streamed authenticator caller query admits source opened launched =>
      exact .inr ⟨caller, query, admits, rfl, .inr ⟨rfl, source, opened, launched⟩⟩
  | asked authenticator caller requestId =>
      refine .inl ⟨rfl, ?_⟩
      cases (server.relay.interrupt requestId caller.userId).1 <;> nofun

theorem Handled.opened_eq_of_told
    (handled : server.Handled ids request (some (status, told)) after)
    (refused : told = some false) : after.opened = server.opened := by
  cases handled with
  | idle | unopened | streamed => cases refused
  | asked => rfl

theorem Handled.status_ne (handled : server.Handled ids request (some (status, told)) after) :
    status ≠ 500 := by
  cases handled with
  | idle authenticator idle =>
      rintro rfl
      exact absurd idle (by decide)
  | unopened | streamed => decide
  | asked authenticator caller requestId =>
      cases (server.relay.interrupt requestId caller.userId).1 <;> nofun

end Handled

theorem Admits.accept_eq {caller : Identity} {query : Query}
    (admits : server.Admits request caller query) : server.accept request = .ok query := by
  unfold accept
  simp only [admits.payload_eq, admits.validate_eq, mapError_ok, bind, Except.bind]
  split
  · next provider model named modelNamed => exact if_pos (admits.provider_eq provider named)
  · rfl

/-- If nothing is left to refuse a request for and its source can be opened, a turn is streamed as
soon as its session has been started. -/
theorem Admits.respond_eq {caller : Identity} {query : Query}
    (admits : server.Admits request caller query) {source : Script}
    (opened : (server.backend.openSource (server.inference ids query)).source = .ok source) :
    ∃ authenticator, server.respond ids request =
      match server.relay.launch (server.turn ids caller query) source with
      | .brokenOff relay =>
        (none, { server with
          authenticator, opened := server.opened ++ [server.inference ids query], relay })
      | .opened relay =>
        (some { status := 200, content := .events server.relay.nextSession ids.requestId.text },
          { server with
            authenticator, opened := server.opened ++ [server.inference ids query], relay }) := by
  have notOptions : request.method ≠ "OPTIONS" := by simp [admits.method_eq]
  have identified := admits.caller_eq
  simp only [respond, admits.route_eq, if_neg notOptions, answerRoute, answerIdentified]
  simp only [caller?] at identified
  generalize server.authenticator.identify server.now request.headers = result at identified ⊢
  obtain ⟨result, authenticator⟩ := result
  cases result with
  | error error => cases identified
  | ok found =>
      cases identified
      have accepted : accept { server with authenticator } request = .ok query := admits.accept_eq
      have same : inference { server with authenticator } ids query = server.inference ids query :=
        rfl
      refine ⟨authenticator, ?_⟩
      simp [answerMethod, answerQuery, accepted, stream_eq, same, opened, admits.method_eq,
        namedMethods, Http.Route.methods]
      have turned : turn { server with authenticator } ids caller query =
          server.turn ids caller query := rfl
      rw [turned]
      cases server.relay.launch (server.turn ids caller query) source <;> rfl

/-- A request is refused: it is answered with another status than 200. -/
def Refuses (server : Server) (happening : Happening) : Prop :=
  ∃ ids request response, happening = .request ids request ∧
    (server.respond ids request).1 = some response ∧ response.status ≠ 200

theorem Refuses.untouched {happening : Happening} (refuses : server.Refuses happening) :
    server.Untouched (server.after happening) := by
  obtain ⟨ids, request, response, rfl, responded, refused⟩ := refuses
  have handled := server.handled ids request
  rw [responded] at handled
  exact handled.untouched (.inl refused)

/-- Requests that are all refused leave the server as it was. The induction is on the requests. -/
theorem untouched_run {happenings : List Happening}
    (refused : ∀ earlier happening later, happenings = earlier ++ happening :: later →
      (server.run earlier).Refuses happening) :
    server.Untouched (server.run happenings) := by
  induction happenings generalizing server with
  | nil => exact .refl server
  | cons happening rest ih =>
      have first : server.Untouched (server.after happening) :=
        Refuses.untouched (refused [] happening rest rfl)
      refine first.trans (ih fun earlier other later same => ?_)
      exact refused (happening :: earlier) other later (by rw [same]; rfl)

/-- There is no response only if the call that starts the session is broken off. -/
theorem Handled.brokenOff_of_none {after : Server}
    (handled : server.Handled ids request none after) :
    ∃ caller query source, server.Admits request caller query ∧
      after.opened = server.opened ++ [server.inference ids query] ∧
      (server.backend.openSource (server.inference ids query)).source = .ok source ∧
      server.relay.launch (server.turn ids caller query) source = .brokenOff after.relay := by
  cases handled with
  | brokenOff authenticator caller query admits source opened launched =>
      exact ⟨caller, query, source, admits, rfl, opened, launched⟩

/-- So there is one if channels can be made. -/
theorem exists_response (server : Server) (ids : FreshIds) (request : Http.Request)
    (holds : 1 ≤ server.relay.capacity) (fits : server.relay.capacity ≤ Channel.limit) :
    ∃ response, (server.respond ids request).1 = some response := by
  cases answered : (server.respond ids request).1 with
  | some response => exact ⟨response, rfl⟩
  | none =>
      have handled := server.handled ids request
      rw [answered] at handled
      obtain ⟨caller, query, source, -, -, -, launched⟩ := Handled.brokenOff_of_none handled
      rw [server.relay.launch_eq_opened _ source holds fits] at launched
      cases launched

/-- A request that is refused changes nothing, in any state of the server. If its status is not 200,
or if it is told that a turn was not interrupted, then the sessions, their flags and the transcripts
are as before. A source is opened only for a request with nothing else to refuse it for; then the
turn is streamed, or the source could not be opened and the status is 503, which it is for no other
cause. No request meets with an error of the server. And there is a response to every request,
unless there is nothing to refuse it for and the call that starts its session is broken off, which
it is only if its channel is too large. -/
theorem refused_request_changes_nothing (server : Server) (ids : FreshIds)
    (request : Http.Request) :
    let after := (server.respond ids request).2
    (∀ response, (server.respond ids request).1 = some response →
      (response.status ≠ 200 → server.Untouched after) ∧
      (response.told? = some false → server.Untouched after ∧ after.opened = server.opened) ∧
      ((after.opened = server.opened ∧ response.status ≠ 503) ∨
        ∃ caller query, server.Admits request caller query ∧
          after.opened = server.opened ++ [server.inference ids query] ∧
          ((response.status = 503 ∧ ∃ error,
              (server.backend.openSource (server.inference ids query)).source = .error error) ∨
            response.status = 200 ∧ ∃ source,
              (server.backend.openSource (server.inference ids query)).source = .ok source ∧
              server.relay.launch (server.turn ids caller query) source = .opened after.relay)) ∧
      response.status ≠ 500) ∧
    ((server.respond ids request).1 = none →
      ∃ caller query source, server.Admits request caller query ∧
        after.opened = server.opened ++ [server.inference ids query] ∧
        (server.backend.openSource (server.inference ids query)).source = .ok source ∧
        server.relay.launch (server.turn ids caller query) source = .brokenOff after.relay) ∧
    (1 ≤ server.relay.capacity → server.relay.capacity ≤ Channel.limit →
      ∃ response, (server.respond ids request).1 = some response) := by
  intro after
  have handled := server.handled ids request
  refine ⟨fun response responded => ?_, fun silent => ?_, server.exists_response ids request⟩
  · rw [responded] at handled
    have handled : server.Handled ids request (some (response.status, response.told?)) after :=
      handled
    exact ⟨fun refused => handled.untouched (.inl refused),
      fun refused => ⟨handled.untouched (.inr refused), handled.opened_eq_of_told refused⟩,
      handled.opened_eq_or, handled.status_ne⟩
  · rw [silent] at handled
    exact Handled.brokenOff_of_none handled

/-- A server whose sources cannot be opened. -/
def sourceless : Server where
  backend :=
    { provider := "mock"
      model := "echo"
      openSource := fun _ => { source := .error (.backend "connection refused") } }
  relay := .new 8 .discard

/-- A request that the server could stream a turn for is refused without an effect, and so is one to
interrupt the turn of somebody else, which goes on. -/
theorem sourceless_and_besideBob_untouched :
    let request := keyedRequest "/v1/streaming_query" "alice" "\x7b\"query\":\"hi\"\x7d"
    (sourceless.respond ⟨⟨1⟩, ⟨2⟩⟩ request).1.map (·.status) = some 503 ∧
      sourceless.Untouched (sourceless.respond ⟨⟨1⟩, ⟨2⟩⟩ request).2 ∧
      (besideBob.respond ⟨⟨3⟩, ⟨4⟩⟩ (asking "2" "alice")).1.map (·.told?) = some (some false) ∧
      besideBob.Untouched (besideBob.respond ⟨⟨3⟩, ⟨4⟩⟩ (asking "2" "alice")).2 := by
  intro request
  have unavailable : (sourceless.respond ⟨⟨1⟩, ⟨2⟩⟩ request).1.map (·.status) = some 503 := by
    decide +kernel
  have told : (besideBob.respond ⟨⟨3⟩, ⟨4⟩⟩ (asking "2" "alice")).1.map (·.told?) =
      some (some false) := by
    decide +kernel
  obtain ⟨refusal, responded, status⟩ := Option.map_eq_some_iff.1 unavailable
  obtain ⟨answer, responded', notInterrupted⟩ := Option.map_eq_some_iff.1 told
  obtain ⟨refused, -⟩ := refused_request_changes_nothing sourceless ⟨⟨1⟩, ⟨2⟩⟩ request
  obtain ⟨refused', -⟩ :=
    refused_request_changes_nothing besideBob ⟨⟨3⟩, ⟨4⟩⟩ (asking "2" "alice")
  exact ⟨unavailable, (refused refusal responded).1 (by simp [status]), told,
    ((refused' answer responded').2.1 notInterrupted).1⟩

end Server

end TokenRelay
