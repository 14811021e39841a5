/-
# Interrupts belong to owners

Supplies that nobody can interrupt the turn of somebody else, for the server as a whole. Every
session goes back to a request that was accepted, and belongs to the caller of that request; a
response reports a turn as interrupted only to its owner, and never twice. Unless callers say
themselves who they are, what they say about it in the header for it has no effect on anything.
-/

import TokenRelay.Proofs.Relay.Mirror
import TokenRelay.Proofs.Server.Run

namespace TokenRelay

namespace Session

end Session

namespace Relay

/-- Every session follows the ideal stream of a source. -/
theorem Reachable.follows {relay : Relay} (reached : relay.Reachable) {number : Nat}
    {session : Session} (found : relay.sessions[number]? = some session) :
    ∃ source given, session.Follows session.request source given := by
  induction reached generalizing session with
  | new capacity transcripts => simp [Relay.new] at found
  | @move relay _ move ih =>
      cases before : relay.sessions[number]? with
      | none =>
          obtain ⟨capacity, request, source, -, -, rfl⟩ := start_of_getElem?_sessions before found
          exact ⟨source, [], follows_freshSession _ request source⟩
      | some earlier =>
          obtain ⟨source, given, follows⟩ := ih before
          obtain rfl : _ = session :=
            Option.some.inj ((getElem?_sessions_move before move).symm.trans found)
          rw [request_afterMove]
          exact ⟨source, follows_afterMove ⟨given, follows⟩ relay number move⟩

end Relay

namespace Server

/-- A server that nothing has happened to. -/
def Blank (server : Server) : Prop :=
  ∃ capacity transcripts, server.relay = .new capacity transcripts

/-- In the course of what has happened a request was accepted, and a turn was streamed for its
caller as the session with a number. -/
def Began (server : Server) (happenings : List Happening) (number : Nat)
    (requestId owner : String) : Prop :=
  ∃ earlier ids request later, happenings = earlier ++ .request ids request :: later ∧
    (server.run earlier).Accepts ids request number requestId owner

/-- What a server has become since nothing had happened to it. -/
structure Traced (server : Server) (happenings : List Happening) : Prop where
  reached : (server.run happenings).relay.Reachable
  fits : (server.run happenings).relay.capacity ≤ Channel.limit
  /-- Every session goes back to an accepted request. -/
  began : ∀ {number session}, (server.run happenings).relay.sessions[number]? = some session →
    server.Began happenings number session.request.requestId session.request.owner
  /-- What has been reported as interrupted is a session that has been told to stop. -/
  told : ∀ requestId ∈ (server.answers happenings).filterMap Http.Response.interrupted?,
    ∃ number session, (server.run happenings).relay.sessions[number]? = some session ∧
      session.request.requestId = requestId ∧
      ((server.run happenings).relay.registry.handle number).cancelled = true
  nodup : (server.run happenings).relay.Distinct →
    ((server.answers happenings).filterMap Http.Response.interrupted?).Nodup

theorem Began.concat {server : Server} {happenings : List Happening} {number : Nat}
    {requestId owner : String} (began : server.Began happenings number requestId owner)
    (happening : Happening) :
    server.Began (happenings ++ [happening]) number requestId owner := by
  obtain ⟨earlier, ids, request, later, rfl, accepts⟩ := began
  exact ⟨earlier, ids, request, later ++ [happening], by simp, accepts⟩

theorem traced_nil {server : Server} (blank : server.Blank)
    (fits : server.relay.capacity ≤ Channel.limit) : server.Traced [] := by
  obtain ⟨capacity, transcripts, same⟩ := blank
  have empty : (server.run []).relay = .new capacity transcripts := same
  constructor
  case reached =>
    rw [empty]
    exact .new capacity transcripts
  case fits => exact fits
  case began =>
    intro number session found
    rw [empty] at found
    simp [Relay.new] at found
  case told => simp [answers]
  case nodup => simp [answers]

/-- Happenings never change what the session at a place was started for, and it stays told to
stop. -/
theorem Traced.kept {server : Server} {happenings : List Happening}
    (traced : server.Traced happenings) (happening : Happening) {number : Nat} {session : Session}
    (found : (server.run happenings).relay.sessions[number]? = some session) :
    ∃ later, ((server.run happenings).after happening).relay.sessions[number]? = some later ∧
      later.request = session.request ∧
      (((server.run happenings).relay.registry.handle number).cancelled = true →
        (((server.run happenings).after happening).relay.registry.handle number).cancelled =
          true) := by
  obtain ⟨moves, played⟩ :=
    (server.run happenings).exists_play traced.reached traced.fits happening
  obtain ⟨later, there, same⟩ := Relay.request_play found moves
  rw [played]
  exact ⟨later, there, same, fun told => Relay.cancelled_play told moves⟩

/-- A session that has been added is that of an accepted request. -/
theorem began_of_new {server : Server} {happenings : List Happening} {happening : Happening}
    {number : Nat} {session : Session}
    (free : (server.run happenings).relay.sessions[number]? = none)
    (found : ((server.run happenings).after happening).relay.sessions[number]? = some session) :
    server.Began (happenings ++ [happening]) number session.request.requestId
      session.request.owner := by
  have beyond := List.getElem?_eq_none_iff.1 free
  have inside := (List.getElem?_eq_some_iff.1 found).1
  rcases (server.run happenings).accepts_or_length_sessions happening with
    ⟨ids, request, fresh, source, rfl, accepts, launched⟩ | same
  · have sessions := congrArg Relay.sessions (Relay.eq_add_of_opened launched)
    rw [Relay.sessions_add] at sessions
    rw [sessions, List.length_append, List.length_singleton] at inside
    obtain rfl : number = (server.run happenings).relay.nextSession :=
      Nat.le_antisymm (Nat.le_of_lt_succ inside) beyond
    rw [sessions, Relay.nextSession, List.getElem?_concat_length] at found
    cases found
    exact ⟨happenings, ids, request, [], rfl, accepts⟩
  · rw [same] at inside
    exact absurd inside (Nat.not_lt_of_le beyond)

/-- What a response reports as interrupted is a session of the caller that had not been told to stop
before. -/
theorem Traced.of_interrupted {server : Server} {happenings : List Happening}
    (traced : server.Traced happenings) {ids : FreshIds} {request : Http.Request}
    {requestId : String}
    (interrupted : (server.run happenings).interrupted? ids request = some requestId) :
    ∃ caller number session, (server.run happenings).caller? request = some caller ∧
      (server.run happenings).relay.sessions[number]? = some session ∧
      session.request.requestId = requestId ∧ session.request.owner = caller.userId ∧
      ((server.run happenings).relay.registry.handle number).cancelled = false ∧
      ((server.run (happenings ++ [.request ids request])).relay.registry.handle
        number).cancelled = true := by
  cases (server.run happenings).answered ids request with
  | apart same quiet => exact nomatch quiet.symm.trans interrupted
  | streamed session source accepts identifier launched quiet =>
      exact nomatch quiet.symm.trans interrupted
  | brokenOff session source launched silent => simp [interrupted?, silent] at interrupted
  | asked caller asked identified cancelled reported =>
      rw [interrupted] at reported
      obtain ⟨accepted, same⟩ := Option.ite_none_right_eq_some.1 reported.symm
      cases same
      obtain ⟨stream, entered, owned, running⟩ :=
        (Registry.cancelStream_eq_cancelled_iff _ requestId caller.userId).1 accepted
      obtain ⟨session, place, identifier, owner, -⟩ :=
        traced.reached.coherent.registered entered
      have interrupts := Relay.Interrupts.caller entered accepted
      obtain ⟨-, -, -, -, told⟩ := interrupts.found traced.reached.coherent
      simp only [Handle.isDone, Bool.or_eq_false_iff] at running
      refine ⟨caller, stream.handle, session, identified, place, identifier,
        owner.trans owned, running.2, ?_⟩
      rw [run_concat]
      simp only [after, cancelled]
      exact told

theorem Traced.concat {server : Server} {happenings : List Happening}
    (traced : server.Traced happenings) (happening : Happening) :
    server.Traced (happenings ++ [happening]) := by
  obtain ⟨moves, played⟩ :=
    (server.run happenings).exists_play traced.reached traced.fits happening
  -- What is reported as interrupted now has not been reported before.
  have news : ∀ {requestId : String},
      requestId ∈ ((server.run happenings).answer? happening).toList.filterMap
        Http.Response.interrupted? →
      ∃ ids request, happening = .request ids request ∧
        (server.run happenings).interrupted? ids request = some requestId := by
    intro requestId inside
    cases happening with
    | request ids request =>
        refine ⟨ids, request, rfl, ?_⟩
        simpa [answer?, interrupted?, Option.bind_eq_some_iff] using inside
    | poll | settle | advance | receive | abandon | cancelAll => simp [answer?] at inside
  constructor
  case reached =>
    rw [run_concat, played]
    exact traced.reached.play moves
  case fits =>
    rw [run_concat, capacity_after]
    exact traced.fits
  case began =>
    intro number session found
    rw [run_concat] at found
    cases before : (server.run happenings).relay.sessions[number]? with
    | none => exact began_of_new before found
    | some earlier =>
        obtain ⟨later, there, same, -⟩ := traced.kept happening before
        obtain rfl : later = session := Option.some.inj (there.symm.trans found)
        rw [same]
        exact (traced.began before).concat happening
  case told =>
    intro requestId inside
    rw [answers_concat, List.filterMap_append, List.mem_append] at inside
    rcases inside with earlier | new
    · obtain ⟨number, session, found, identifier, told⟩ := traced.told requestId earlier
      obtain ⟨later, there, same, stays⟩ := traced.kept happening found
      rw [run_concat]
      exact ⟨number, later, there, same.symm ▸ identifier, stays told⟩
    · obtain ⟨ids, request, rfl, interrupted⟩ := news new
      obtain ⟨caller, number, session, -, found, identifier, -, -, told⟩ :=
        traced.of_interrupted interrupted
      obtain ⟨later, there, same, -⟩ := traced.kept (.request ids request) found
      refine ⟨number, later, ?_, same.symm ▸ identifier, told⟩
      rw [run_concat]
      exact there
  case nodup =>
    intro distinct
    rw [run_concat, played] at distinct
    rw [answers_concat, List.filterMap_append, List.nodup_append]
    refine ⟨traced.nodup distinct.of_play, ?_, ?_⟩
    · cases happening with
      | request ids request =>
          simp only [answer?]
          cases ((server.run happenings).respond ids request).1 with
          | none => simp
          | some response =>
              simp only [Option.toList_some, List.filterMap_cons, List.filterMap_nil]
              split <;> simp
      | poll | settle | advance | receive | abandon | cancelAll => simp [answer?]
    · rintro requestId earlier other new rfl
      obtain ⟨ids, request, rfl, interrupted⟩ := news new
      obtain ⟨first, firstSession, found, identifier, told⟩ := traced.told requestId earlier
      obtain ⟨caller, second, secondSession, -, found', identifier', -, quiet, -⟩ :=
        traced.of_interrupted interrupted
      obtain rfl := distinct.of_play.place_eq found found' (identifier.trans identifier'.symm)
      exact nomatch told.symm.trans quiet

theorem traced {server : Server} (blank : server.Blank)
    (fits : server.relay.capacity ≤ Channel.limit) (happenings : List Happening) :
    server.Traced happenings := by
  have turned (backwards : List Happening) : server.Traced backwards.reverse := by
    induction backwards with
    | nil => exact traced_nil blank fits
    | cons last backwards ih =>
        rw [List.reverse_cons]
        exact ih.concat last
  rw [← happenings.reverse_reverse]
  exact turned happenings.reverse

end Server

namespace Http

end Http

namespace Authenticator

end Authenticator

namespace Server

/-- A caller is identified once for each answer that needs it. -/
theorem authenticator_answerIdentified (server : Server) (request : Http.Request)
    {answer : Identity → Server → Option Http.Response × Server}
    (kept : ∀ caller server, (answer caller server).2.authenticator = server.authenticator) :
    (server.answerIdentified request answer).2.authenticator =
      (server.authenticator.identify server.now request.headers).2 := by
  simp only [answerIdentified]
  split
  · rfl
  · rw [kept]

theorem authenticator_answerMethod (server : Server) (route : Http.Route) (method : String)
    {answer : Server → Option Http.Response × Server}
    (kept : (answer server).2.authenticator = server.authenticator) :
    (server.answerMethod route method answer).2.authenticator = server.authenticator := by
  unfold answerMethod
  split
  · exact kept
  · rfl

theorem authenticator_answerQuery (server : Server) (ids : FreshIds) (caller : Identity)
    (request : Http.Request) :
    (server.answerQuery ids caller request).2.authenticator = server.authenticator := by
  unfold answerQuery
  split
  · rfl
  · rw [stream_eq]
    dsimp only
    split
    · rfl
    · split <;> rfl

theorem authenticator_answerInterrupt (server : Server) (caller : Identity)
    (request : Http.Request) :
    (server.answerInterrupt caller request).2.authenticator = server.authenticator := by
  unfold answerInterrupt
  split <;> rfl

/-- A request changes no more about the authenticator than what its identification does. -/
theorem authenticator_respond (server : Server) (ids : FreshIds) (request : Http.Request) :
    (server.respond ids request).2.authenticator = server.authenticator ∨
      (server.respond ids request).2.authenticator =
        (server.authenticator.identify server.now request.headers).2 := by
  unfold respond
  split
  · exact .inl rfl
  · next route found =>
    split
    · exact .inl rfl
    · cases route with
      | health =>
          exact .inl (server.authenticator_answerMethod .health request.method rfl)
      | query =>
          exact .inr (server.authenticator_answerIdentified request fun caller server =>
            server.authenticator_answerMethod .query request.method
              (server.authenticator_answerQuery ids caller request))
      | interrupt =>
          exact .inr (server.authenticator_answerIdentified request fun caller server =>
            server.authenticator_answerMethod .interrupt request.method
              (server.authenticator_answerInterrupt caller request))

/-- A server that knows one key. -/
def keyedServer : Server where
  backend :=
    { provider := "mock"
      model := "echo"
      openSource := fun inference => { source := .ok (Source.echo inference.query 0) } }
  authenticator := .apiKey (.ofEntries ["alice:k1"])
  relay := .new 8 .discard

/-- A request of the owner of that key, who says that she is somebody else. -/
def keyedRequest (target userId body : String) : Http.Request where
  method := "POST"
  target := target
  headers :=
    [("Content-Type", "application/json".toUTF8.toList),
      ("Authorization", "Bearer k1".toUTF8.toList), ("X-User-Id", userId.toUTF8.toList)]
  body := body.toUTF8.toList

end Server

end TokenRelay
