/-
# Answers to interrupts tell nothing about others

Supplies that a caller learns nothing about the streams of other callers by interrupting, neither
from the results nor from the responses of the server: two servers that differ only in what belongs
to others answer all its requests to interrupt turns alike. And a caller that asks about the stream
of somebody else gets the answer that its owner gets once the stream is done.
-/

import TokenRelay.Proofs.Registry.Discretion
import TokenRelay.Proofs.Server.Ownership

namespace TokenRelay

/-- What a ring tells of a key is what it has recorded. -/
theorem KeyRing.fst_use (ring : KeyRing) (key : String) :
    (ring.use key).1 = ring.records.find? (digest key) := by
  unfold use
  split <;> simp [*]

/-- Using a key does not change whose it is, nor whose any other is. -/
theorem KeyRing.owner_use_use (ring : KeyRing) (key other : String) :
    ((ring.use key).2.use other).1.map KeyRecord.owner =
      (ring.use other).1.map KeyRecord.owner := by
  rw [fst_use, fst_use]
  unfold use
  split
  · rfl
  · next record found =>
    rw [KeyMap.find?_insert]
    split
    · next same => rw [same, found]; rfl
    · rfl

namespace Authenticator

/-- Who the bearer of a key is depends on its owner alone. -/
theorem identify_apiKey (ring : KeyRing) (now : Nat) (headers : Http.Headers) :
    (apiKey ring).identify now headers =
      match bearer? headers with
      | none => (.error .noCredentials, apiKey ring)
      | some key =>
        (match (ring.use key).1.map KeyRecord.owner with
          | none => .error .unknownKey
          | some owner => .ok ⟨owner, owner⟩,
          apiKey (ring.use key).2) := by
  simp only [identify]
  cases bearer? headers with
  | none => rfl
  | some key =>
      dsimp only
      obtain ⟨record, after⟩ := ring.use key
      cases record <;> rfl

/-- Who one caller is does not depend on who has been identified before. -/
theorem identify_identify (authenticator : Authenticator) (now later : Nat)
    (headers others : Http.Headers) :
    ((authenticator.identify now headers).2.identify later others).1 =
      (authenticator.identify later others).1 := by
  cases authenticator with
  | noop =>
      have same : (noop.identify now headers).2 = noop := by
        simp only [identify]
        split <;> rfl
      rw [same]
  | jwt secret =>
      have same : ((jwt secret).identify now headers).2 = jwt secret := by
        simp only [identify]
        split
        · rfl
        · split <;> rfl
      rw [same]
  | apiKey ring =>
      rw [identify_apiKey ring now headers]
      cases bearer? headers with
      | none => rfl
      | some key =>
          simp only [identify_apiKey]
          cases bearer? others with
          | none => rfl
          | some other => simp only [KeyRing.owner_use_use]

end Authenticator

/-- In a relay each record has a handle of its own. -/
theorem Relay.Coherent.separate {relay : Relay} (coherent : relay.Coherent) :
    relay.registry.Separate where
  sound requestId stream found := by
    obtain ⟨session, place, -⟩ := coherent.registered found
    rw [coherent.length_handles]
    exact (List.getElem?_eq_some_iff.1 place).1
  own found found' same := by
    obtain ⟨session, place, rfl, -⟩ := coherent.registered found
    obtain ⟨session', place', rfl, -⟩ := coherent.registered found'
    rw [same] at place
    rw [Option.some.inj (place.symm.trans place')]

namespace Server

/-- The servers identify callers in the same way and at the same time, and their registries differ
only in what belongs to others than the caller. -/
structure Alike (caller : String) (first second : Server) : Prop where
  authenticator_eq : second.authenticator = first.authenticator
  clock_eq : second.relay.clock = first.relay.clock
  registry_alike : first.relay.registry.Alike caller second.relay.registry

/-- A request to interrupt a turn that comes from nobody but the caller. -/
def InterruptsAs (server : Server) (caller : String) : Happening → Prop
  | .request _ request =>
    Http.Route.ofTarget? request.target = some .interrupt ∧
      ∀ identity, server.caller? request = some identity → identity.userId = caller
  | .poll _ | .settle _ | .advance _ | .receive _ | .abandon _ | .cancelAll => False

/-- What alike servers keep while they answer such requests. -/
structure Indistinct (caller : String) (first second : Server) : Prop where
  authenticator_eq : second.authenticator = first.authenticator
  clock_eq : second.relay.clock = first.relay.clock
  registry : first.relay.registry.Indistinct caller second.relay.registry

variable {caller : String} {first second : Server}

theorem Alike.indistinct (alike : first.Alike caller second) : Indistinct caller first second :=
  ⟨alike.authenticator_eq, alike.clock_eq, alike.registry_alike.indistinct⟩

/-- No request changes the time. -/
theorem clock_respond (server : Server) (ids : FreshIds) (request : Http.Request) :
    (server.respond ids request).2.relay.clock = server.relay.clock := by
  cases server.answered ids request with
  | apart same => rw [same]
  | streamed session source accepts identifier launched => rw [Relay.eq_add_of_opened launched]; rfl
  | brokenOff session source launched => rw [Relay.eq_enter_of_brokenOff launched]; rfl
  | asked identity requestId identified cancelled => rw [cancelled]; rfl

/-- Who the caller of a request is does not depend on the requests before it. -/
theorem caller?_respond (server : Server) (ids : FreshIds) (request other : Http.Request) :
    (server.respond ids request).2.caller? other = server.caller? other := by
  have sameTime : (server.respond ids request).2.now = server.now := by
    rw [now, now, clock_respond]
  unfold caller?
  rw [sameTime]
  rcases server.authenticator_respond ids request with same | used
  · rw [same]
  · rw [used, Authenticator.identify_identify]

theorem Indistinct.answerInterrupt (indistinct : Indistinct caller first second)
    {identity : Identity} (asks : identity.userId = caller) (request : Http.Request) :
    (first.answerInterrupt identity request).1 = (second.answerInterrupt identity request).1 ∧
      Indistinct caller (first.answerInterrupt identity request).2
        (second.answerInterrupt identity request).2 := by
  subst asks
  unfold Server.answerInterrupt
  cases readInterrupt request with
  | error problem => exact ⟨rfl, indistinct⟩
  | ok interrupt =>
      obtain ⟨answered, after⟩ := indistinct.registry.interrupt interrupt.requestId
      exact ⟨congrArg (fun result => some (interruptResponse result)) answered,
        indistinct.authenticator_eq, indistinct.clock_eq, after⟩

/-- A request to interrupt a turn is answered alike, and leaves the servers alike. -/
theorem Indistinct.respond (indistinct : Indistinct caller first second) (ids : FreshIds)
    {request : Http.Request} (asks : first.InterruptsAs caller (.request ids request)) :
    (first.respond ids request).1 = (second.respond ids request).1 ∧
      Indistinct caller (first.respond ids request).2 (second.respond ids request).2 := by
  obtain ⟨routed, asker⟩ := asks
  simp only [Server.respond, routed]
  split
  · exact ⟨rfl, indistinct⟩
  · simp only [answerRoute, answerIdentified, now, indistinct.authenticator_eq,
      indistinct.clock_eq]
    simp only [caller?, now] at asker
    generalize first.authenticator.identify (first.relay.clock / 1000) request.headers =
      identified at asker
    obtain ⟨result, authenticator⟩ := identified
    have identifies : Indistinct caller { first with authenticator }
        { second with authenticator } :=
      ⟨rfl, indistinct.clock_eq, indistinct.registry⟩
    cases result with
    | error error => exact ⟨rfl, identifies⟩
    | ok identity =>
        dsimp only [answerMethod]
        split
        · obtain ⟨answered, after⟩ := identifies.answerInterrupt (asker identity rfl) request
          exact ⟨by rw [answered], after⟩
        · exact ⟨rfl, identifies⟩

/-- So are all requests of a sequence. The induction is on the requests, of which each leaves the
caller of every other one the same. -/
theorem Indistinct.answers_eq (indistinct : Indistinct caller first second)
    {happenings : List Happening}
    (asks : ∀ happening ∈ happenings, first.InterruptsAs caller happening) :
    first.answers happenings = second.answers happenings := by
  induction happenings generalizing first second with
  | nil => rfl
  | cons happening rest ih =>
      have asksFirst := asks happening List.mem_cons_self
      cases happening with
      | request ids request =>
          obtain ⟨answered, after⟩ := indistinct.respond ids asksFirst
          have asksRest : ∀ happening ∈ rest,
              (first.respond ids request).2.InterruptsAs caller happening := by
            intro happening inside
            have before := asks happening (List.mem_cons_of_mem _ inside)
            cases happening with
            | request others other => exact ⟨before.1, by rw [caller?_respond]; exact before.2⟩
            | poll | settle | advance | receive | abandon | cancelAll => exact before.elim
          simp only [answers, answer?, Server.after, answered, ih after asksRest]
      | poll | settle | advance | receive | abandon | cancelAll => exact asksFirst.elim

/-- A caller asks, with a request that is in order, to interrupt the turn with an identifier. -/
structure Asks (server : Server) (request : Http.Request) (caller requestId : String) : Prop where
  method_eq : request.method = "POST"
  route_eq : Http.Route.ofTarget? request.target = some .interrupt
  caller_eq : ∃ identity, server.caller? request = some identity ∧ identity.userId = caller
  read_eq : (readInterrupt request).toOption = some ⟨requestId⟩

/-- It is answered with what the registry says. -/
theorem Asks.respond_eq {server : Server} {request : Http.Request} {requestId : String}
    (asks : server.Asks request caller requestId) (ids : FreshIds) :
    (server.respond ids request).1 =
      some (interruptResponse (server.relay.registry.interrupt requestId caller).1) := by
  obtain ⟨posted, routed, ⟨identity, identified, rfl⟩, read⟩ := asks
  have read : readInterrupt request = .ok ⟨requestId⟩ := eq_ok_of_toOption read
  have notOptions : request.method ≠ "OPTIONS" := by simp [posted]
  simp only [respond, routed, if_neg notOptions, answerRoute, answerIdentified]
  simp only [caller?] at identified
  generalize server.authenticator.identify server.now request.headers = result at identified ⊢
  obtain ⟨result, authenticator⟩ := result
  cases result with
  | error error => cases identified
  | ok caller =>
      cases identified
      have registry_eq : (Relay.interrupt server.relay requestId identity.userId).1 =
          (server.relay.registry.interrupt requestId identity.userId).1 := rfl
      simp only [answerMethod, answerInterrupt, read, posted, registry_eq]
      cases (server.relay.registry.interrupt requestId identity.userId).1 <;> rfl

/-- A caller learns nothing about the streams of others by interrupting. Registries that differ only
in what belongs to others give it the same results, whatever it asks for one after the other, and
servers with such registries give it the same responses. And who asks about the stream of somebody
else is told what its owner is told once the stream is done, in the result and in the response. -/
theorem interrupts_tell_nothing_about_others (caller : String) :
    (∀ first second : Registry, first.Alike caller second → ∀ requestIds,
      first.interruptAll caller requestIds = second.interruptAll caller requestIds) ∧
    (∀ first second : Server, first.Alike caller second → ∀ happenings,
      (∀ happening ∈ happenings, first.InterruptsAs caller happening) →
      first.answers happenings = second.answers happenings) ∧
    ∀ (first second : Server) (requestId : String) (one other : ActiveStream),
      first.relay.registry.lookup requestId = some one → one.owner ≠ caller →
      second.relay.registry.lookup requestId = some other →
      (second.relay.registry.handle other.handle).isDone = true →
      (∃ response,
        (first.relay.registry.interrupt requestId caller).1 = .notInterrupted response ∧
        (second.relay.registry.interrupt requestId other.owner).1 = .notInterrupted response) ∧
      ∀ ids ids' request request', first.Asks request caller requestId →
        second.Asks request' other.owner requestId →
        (first.respond ids request).1 = (second.respond ids' request').1 := by
  refine ⟨fun first second alike => alike.indistinct.interruptAll_eq,
    fun first second alike happenings => alike.indistinct.answers_eq, ?_⟩
  intro first second requestId one other found foreign found' done
  obtain ⟨response, refused⟩ : ∃ response,
      Registry.interruptResult requestId .forbidden = .notInterrupted response := ⟨_, rfl⟩
  have toStranger : (first.relay.registry.interrupt requestId caller).1 =
      .notInterrupted response := by
    rw [Registry.fst_interrupt, ← refused]
    simp [Registry.standing, found, foreign, Registry.Standing.outcome]
  have toOwner : (second.relay.registry.interrupt requestId other.owner).1 =
      .notInterrupted response := by
    rw [Registry.fst_interrupt, ← refused]
    simp [Registry.standing, found', done, Registry.Standing.outcome, Registry.interruptResult]
  refine ⟨⟨response, toStranger, toOwner⟩, fun ids ids' request request' asks asks' => ?_⟩
  rw [asks.respond_eq, asks'.respond_eq, toStranger, toOwner]

/-- The identifiers of three streams, by their last digit. -/
def streamId (digit : String) : String := "00000000-0000-0000-0000-00000000000" ++ digit

/-- The start of a session whose source never answers. -/
def tenancy (digit owner : String) : Move :=
  .start .ample { requestId := streamId digit, conversationId := "c", owner, query := "q" }
    { steps := [], endless := true }

/-- A server whose callers say themselves who they are, after some operations on its relay. -/
def hosting (moves : List Move) : Server :=
  { backend := keyedServer.backend, relay := (Relay.new 8 .discard).play moves }

/-- A server with a stream of Alice's and one of Bob's that goes on. -/
def besideBob : Server := hosting [tenancy "1" "alice", tenancy "2" "bob"]

/-- A server with a stream of Alice's and one of Carol's that has been cancelled. -/
def besideCarol : Server :=
  hosting [tenancy "2" "carol", tenancy "1" "alice", .cancelStream (streamId "2") "carol"]

/-- A request to interrupt a stream. -/
def asking (digit userId : String) : Http.Request :=
  keyedRequest "/v1/streaming_query/interrupt" userId
    ("\x7b\"request_id\":\"" ++ streamId digit ++ "\"\x7d")

/-- Alice cannot tell the servers apart by her own records. -/
theorem besideBob_alike_besideCarol : besideBob.Alike "alice" besideCarol := by
  have reached (moves : List Move) : ((Relay.new 8 .discard).play moves).Reachable :=
    (Relay.Reachable.new 8 .discard).play moves
  have entries : besideBob.relay.registry.streams.entries =
      [(streamId "1", ⟨"alice", 0⟩), (streamId "2", ⟨"bob", 1⟩)] := by decide
  have entries' : besideCarol.relay.registry.streams.entries =
      [(streamId "1", ⟨"alice", 1⟩), (streamId "2", ⟨"carol", 0⟩)] := by decide
  have pairs {requestId : String} {one other : ActiveStream}
      (found : besideBob.relay.registry.lookup requestId = some one)
      (found' : besideCarol.relay.registry.lookup requestId = some other) :
      one = ⟨"alice", 0⟩ ∧ other = ⟨"alice", 1⟩ ∨ one = ⟨"bob", 1⟩ ∧ other = ⟨"carol", 0⟩ := by
    have inside := (KeyMap.mem_entries_iff _ _ _).2 found
    have inside' := (KeyMap.mem_entries_iff _ _ _).2 found'
    have different : streamId "1" ≠ streamId "2" := by decide
    rw [entries] at inside
    rw [entries'] at inside'
    simp only [List.mem_cons, Prod.mk.injEq, List.not_mem_nil, or_false] at inside inside'
    rcases inside with ⟨rfl, rfl⟩ | ⟨rfl, rfl⟩ <;> rcases inside' with ⟨same, rfl⟩ | ⟨same, rfl⟩
    · exact .inl ⟨rfl, rfl⟩
    · exact absurd same different
    · exact absurd same.symm different
    · exact .inr ⟨rfl, rfl⟩
  refine ⟨rfl, by decide, ⟨(reached _).coherent.separate, (reached _).coherent.separate⟩,
    ?_, ?_, ?_⟩
  · intro requestId
    rw [Registry.lookup, Registry.lookup, ← KeyMap.mem_keys_iff, ← KeyMap.mem_keys_iff, entries,
      entries']
    rfl
  · intro requestId one other found found'
    rcases pairs found found' with ⟨rfl, rfl⟩ | ⟨rfl, rfl⟩ <;> decide
  · intro requestId one other found found' mine
    rcases pairs found found' with ⟨rfl, rfl⟩ | ⟨rfl, rfl⟩
    · decide
    · simp at mine

/-- So whatever she asks for, she is answered alike; and about the stream that is not hers she is
told on the one server what Carol is told on the other. -/
theorem alice_learns_nothing_about_others :
    let asked : List Happening := ["1", "2", "1", "3"].map fun digit =>
      .request ⟨⟨3⟩, ⟨4⟩⟩ (asking digit "alice")
    besideBob.Alike "alice" besideCarol ∧
      (∀ happening ∈ asked, besideBob.InterruptsAs "alice" happening) ∧
      besideBob.relay.registry.interruptAll "alice" ["1", "2", "1", "3"] =
        besideCarol.relay.registry.interruptAll "alice" ["1", "2", "1", "3"] ∧
      (besideBob.answers asked).map Http.Response.interrupted? =
        [some (streamId "1"), none, none, none] ∧
      besideBob.answers asked = besideCarol.answers asked ∧
      besideBob.Asks (asking "2" "alice") "alice" (streamId "2") ∧
      besideCarol.Asks (asking "2" "carol") "carol" (streamId "2") ∧
      (besideBob.respond ⟨⟨3⟩, ⟨4⟩⟩ (asking "2" "alice")).1 =
        (besideCarol.respond ⟨⟨3⟩, ⟨4⟩⟩ (asking "2" "carol")).1 := by
  intro asked
  obtain ⟨results, responses, strangers⟩ := interrupts_tell_nothing_about_others "alice"
  have routed (digit userId : String) :
      Http.Route.ofTarget? (asking digit userId).target = some .interrupt := by
    change Http.Route.ofTarget? "/v1/streaming_query/interrupt" = some .interrupt
    decide
  -- The body of a request plays no part in who its caller is.
  have alice (digit : String) :
      besideBob.caller? (asking digit "alice") = some ⟨"alice", "streamgate-user"⟩ := by
    change besideBob.caller? (keyedRequest "/v1/streaming_query/interrupt" "alice" "") = _
    decide +kernel
  have carol : besideCarol.caller? (asking "2" "carol") = some ⟨"carol", "streamgate-user"⟩ := by
    decide +kernel
  have asks : ∀ happening ∈ asked, besideBob.InterruptsAs "alice" happening := by
    intro happening inside
    obtain ⟨digit, -, rfl⟩ := List.mem_map.1 inside
    refine ⟨routed digit "alice", fun identity identified => ?_⟩
    obtain rfl := Option.some.inj ((alice digit).symm.trans identified)
    rfl
  have asksAlice : besideBob.Asks (asking "2" "alice") "alice" (streamId "2") :=
    ⟨rfl, routed "2" "alice", ⟨_, alice "2", rfl⟩, by decide +kernel⟩
  have asksCarol : besideCarol.Asks (asking "2" "carol") "carol" (streamId "2") :=
    ⟨rfl, routed "2" "carol", ⟨_, carol, rfl⟩, by decide +kernel⟩
  refine ⟨besideBob_alike_besideCarol, asks,
    results _ _ besideBob_alike_besideCarol.registry_alike _, by decide +kernel,
    responses _ _ besideBob_alike_besideCarol _ asks, asksAlice, asksCarol, ?_⟩
  have told := strangers besideBob besideCarol (streamId "2") ⟨"bob", 1⟩ ⟨"carol", 0⟩
    (by decide) (by decide) (by decide) (by decide)
  exact told.2 _ _ _ _ asksAlice asksCarol

end Server

end TokenRelay
