/-
# Echoed queries

Supplies what a caller gets from a server that echoes queries, from the request to the last frame.
A request with a query in order is never refused, and whoever reads its stream to the end without
interrupting it has the fragments of the query in the frames, in order and counted. Only a server
whose channels are too large to be made has nothing to say to such a request.
-/

import TokenRelay.Proofs.Event.Bodies
import TokenRelay.Proofs.Json.Length
import TokenRelay.Proofs.Relay.Reading
import TokenRelay.Proofs.Server.Capacity
import TokenRelay.Proofs.Server.Refusal
import TokenRelay.Proofs.Source.Echo

namespace TokenRelay

namespace Event

/-- The events of fragments, numbered from zero. -/
def tokens (fragments : List String) : List Event :=
  fragments.zipIdx.map fun (text, index) => .token (UInt64.ofNat index) text

/-- The events of an echoed query: its fragments, numbered from zero behind the label, and their
numbers. -/
def echoed (conversationId requestId : String) (fragments : List String) (count : Nat) :
    List Event :=
  .start conversationId requestId :: (tokens fragments ++
    [.finish { inputTokens := some (UInt64.ofNat count)
               outputTokens := some (UInt64.ofNat (count + 1)) } .empty])

end Event

/-- The frame of an item; an error has none. -/
def Item.frame? : Item → Option String
  | .event sent => some sent.encode
  | .failure _ => none

/-- The body that its reader gets of a stream; an error breaks it off. -/
def Item.body? (items : List Item) : Option String := (items.mapM Item.frame?).map String.join

theorem Item.body?_events (events : List Event) :
    Item.body? (events.map .event) = some (Event.body (events.map some)) := by
  have frames : (events.map Item.event).mapM Item.frame? = some (events.map Event.encode) := by
    induction events with
    | nil => rfl
    | cons event rest ih => simp [ih, Item.frame?]
  rw [Item.body?, frames]
  simp [Event.body, Event.partText, Function.comp_def]

theorem Event.events_map_some (events : List Event) : Event.events (events.map some) = events := by
  simp [Event.events]

namespace Script

theorem fragments_echo (query : String) (delay : Nat) :
    (Source.echo query delay).fragments = Source.echoLabel :: Source.fragments query := by
  have fragments (texts : List String) :
      fragmentsOf (texts.map fun text => { action := .fragment text, delay := delay }) = texts := by
    induction texts with
    | nil => rfl
    | cons text rest ih => simp [fragmentsOf, ih]
  rw [← Source.fragments_echoLabel]
  exact fragments _

theorem ending_echo (query : String) (delay : Nat) :
    (Source.echo query delay).ending = .finished := by
  have ending (texts : List String) :
      endingOf false (texts.map fun text => { action := .fragment text, delay := delay }) =
        .finished := by
    induction texts with
    | nil => rfl
    | cons text rest ih => simp [endingOf, ih]
  exact ending _

end Script

/-- The ideal stream of an echoed query. -/
theorem SessionRequest.ideal_echo (request : SessionRequest) (plain : request.quotas = .empty)
    (query : String) (delay : Nat) :
    request.ideal (Source.echo query delay) =
      (Event.echoed request.conversationId request.requestId
        (Source.echoLabel :: Source.fragments query)
        (Source.fragments query).length).map .event := by
  have metadata : (Source.echo query delay).metadata =
      { inputTokens := some (UInt64.ofNat (Source.fragments query).length)
        outputTokens := some (UInt64.ofNat ((Source.fragments query).length + 1)) } := by
    simp [Source.echo, Source.fragments_echoLabel]
  simp only [ideal, closing, Script.ending_echo, Script.fragments_echo, metadata, plain,
    Event.echoed, opening, Item.tokens, Event.tokens]
  simp [Function.comp_def, Item.token]

namespace Server

/-- A server that echoes queries, for callers who say themselves who they are. -/
structure Echoes (server : Server) : Prop where
  backend_eq : ∃ (settings : BackendSettings) (network : Network),
    settings.provider = .mock ∧ server.backend = settings.build network
  authenticator_eq : server.authenticator = .noop
  reached : server.relay.Reachable

/-- A request for a turn with a query in order, which names the provider and any model of it, or
neither. -/
structure Queries (request : Http.Request) (query : Query) : Prop where
  method_eq : request.method = "POST"
  route_eq : Http.Route.ofTarget? request.target = some .query
  announces : request.announcesJson = true
  fits : request.body.length ≤ Http.Request.bodyLimit
  read : Query.reader.run (Document.ofUnits (Text.Utf8.units request.body)) = .ok query
  text : Text.isBlankText query.text = false
  conversation : ∀ id, query.conversationId = some id → (Uuid.ofText? id).isSome = true
  model : query.provider = none ∧ query.model = none ∨
    query.provider = some "mock" ∧ ∃ model, query.model = some model

variable {server : Server} {request : Http.Request} {query : Query}

theorem Queries.payload_eq (queries : Queries request query) :
    request.payload Query.reader = .ok query := by
  simp [Http.Request.payload, queries.announces, Nat.not_lt_of_le queries.fits, queries.read]

theorem Queries.validate_eq (queries : Queries request query) : query.validate = .ok () := by
  have proper : (query.conversationId.filter fun id => (Uuid.ofText? id).isNone) = none := by
    cases given : query.conversationId with
    | none => rfl
    | some id =>
        have spelled := queries.conversation id given
        simp [Option.filter, Option.isNone_iff_eq_none, Option.isSome_iff_ne_none.1 spelled]
  simp only [Query.validate, queries.text, Bool.false_eq_true, if_false, proper]
  rcases queries.model with ⟨noProvider, noModel⟩ | ⟨provider, model, chosen⟩
  · simp [noProvider, noModel]
  · simp [provider, chosen]

/-- Callers who say themselves who they are are always identified. -/
theorem Echoes.exists_caller (echoes : server.Echoes) (request : Http.Request) :
    ∃ caller, server.caller? request = some caller := by
  rw [caller?, echoes.authenticator_eq]
  simp only [Authenticator.identify]
  split <;> exact ⟨_, rfl⟩

/-- Nothing is left to refuse such a request for. -/
theorem Queries.exists_admits (queries : Queries request query) (echoes : server.Echoes) :
    ∃ caller, server.Admits request caller query := by
  obtain ⟨caller, identified⟩ := echoes.exists_caller request
  obtain ⟨settings, network, mock, built⟩ := echoes.backend_eq
  refine ⟨caller, queries.method_eq, queries.route_eq, identified, queries.payload_eq,
    queries.validate_eq, fun provider named => ?_⟩
  rcases queries.model with ⟨noProvider, -⟩ | ⟨mocks, -⟩
  · rw [noProvider] at named
    cases named
  · obtain rfl := Option.some.inj (mocks.symm.trans named)
    rw [built, BackendSettings.build, mock]
    rfl

/-- A query has few enough fragments to count them in a word. -/
theorem Queries.length_fragments_lt (queries : Queries request query) :
    (Source.fragments query.text).length + 1 < UInt64.size := by
  have fragments := Source.length_fragments_le query.text
  have text := Query.length_text_le queries.read
  have units := Text.Utf8.length_units_le request.body
  have body := queries.fits
  have small : Http.Request.bodyLimit + 1 < UInt64.size := by decide
  omega

/-- A session is started for such a request, and the response is that of its start. -/
theorem Queries.respond_eq (queries : Queries request query) (echoes : server.Echoes)
    (ids : FreshIds) :
    ∃ caller delay authenticator, server.respond ids request =
      match server.relay.launch (server.turn ids caller query) (Source.echo query.text delay) with
      | .brokenOff relay =>
        (none, { server with
          authenticator, opened := server.opened ++ [server.inference ids query], relay })
      | .opened relay =>
        (some { status := 200, content := .events server.relay.nextSession ids.requestId.text },
          { server with
            authenticator, opened := server.opened ++ [server.inference ids query], relay }) := by
  obtain ⟨caller, admits⟩ := queries.exists_admits echoes
  obtain ⟨settings, network, mock, built⟩ := echoes.backend_eq
  have opened : (server.backend.openSource (server.inference ids query)).source =
      .ok (Source.echo query.text settings.mockTokenDelay.toNat) := by
    rw [built, BackendSettings.build, mock]
    rfl
  exact ⟨caller, settings.mockTokenDelay.toNat, admits.respond_eq opened⟩

/-- The turn of an echoed query is streamed, if its channel is not too large. -/
theorem Queries.streamed (queries : Queries request query) (echoes : server.Echoes)
    (fits : server.relay.capacity ≤ Channel.limit) (ids : FreshIds) :
    ∃ capacity turn delay, turn.requestId = ids.requestId.text ∧
      turn.conversationId = query.conversationId.getD ids.conversationId.text ∧
      turn.quotas = .empty ∧
      (server.respond ids request).1 =
        some { status := 200, content := .events server.relay.nextSession ids.requestId.text } ∧
      (server.respond ids request).2.relay =
        server.relay.move (.start capacity turn (Source.echo query.text delay)) := by
  obtain ⟨caller, delay, authenticator, responded⟩ := queries.respond_eq echoes ids
  rw [echoes.reached.launch_eq_opened fits] at responded
  rw [responded]
  exact ⟨_, server.turn ids caller query, delay, rfl, rfl, rfl, rfl, rfl⟩

/-- If it is, there is no response. -/
theorem Queries.unanswered (queries : Queries request query) (echoes : server.Echoes)
    (exceeds : Channel.limit < server.relay.capacity) (ids : FreshIds) :
    (server.respond ids request).1 = none := by
  obtain ⟨caller, delay, authenticator, responded⟩ := queries.respond_eq echoes ids
  rw [responded, server.relay.launch_eq_brokenOff _ _ exceeds]

/-- What was sent of an echoed query in full is read back from the body. -/
theorem decodeAll_echoed {items : List Item} {conversationId requestId : String}
    {fragments : List String} {count : Nat}
    (whole : items = (Event.echoed conversationId requestId fragments count).map .event) :
    ∃ body, Item.body? items = some body ∧
      Event.decodeAll body = .ok (Event.echoed conversationId requestId fragments count) := by
  generalize echoed : Event.echoed conversationId requestId fragments count = events at whole ⊢
  have recoverable : ∀ event ∈ events, event.Recoverable := by
    intro event inside
    have nothing : event.supplied = [] := by
      simp only [← echoed, Event.echoed, Event.tokens, List.mem_cons, List.mem_append,
        List.mem_map, List.not_mem_nil, or_false] at inside
      rcases inside with rfl | ⟨_, -, rfl⟩ | rfl <;> rfl
    constructor
    · simp [Event.Proper, nothing]
    · simp [Event.Shallow, nothing]
    · simp [Event.FloatsReadBack, nothing]
  refine ⟨_, by rw [whole, Item.body?_events], ?_⟩
  rw [← Event.events_map_some events] at recoverable
  have read := Event.decodeAll_body_of_recoverable recoverable
  rwa [Event.events_map_some] at read

/-- An echoed query is right from end to end, whatever the capacity of the channels, if they can be
made. A request with a query in order is answered with its events, under the identifier in the
header. Whoever reads them to the end without an interrupt, whatever else happens on the way, gets a
body that is decoded as the start event, the fragments of the query behind the label, numbered from
zero, and the end event, which counts them and those of the query alone. And on every fair schedule
that leaves the stream alone it is read to the end. -/
theorem echo_is_right_end_to_end (echoes : server.Echoes)
    (fits : server.relay.capacity ≤ Channel.limit) (queries : Queries request query)
    (ids : FreshIds) :
    let relay := (server.respond ids request).2.relay
    let number := server.relay.nextSession
    ∃ response, (server.respond ids request).1 = some response ∧
      response.status = 200 ∧ response.content = .events number ids.requestId.text ∧
      ("x-request-id", ids.requestId.text) ∈ response.headers ∧
      ∃ fragments count, Source.Cuts ("mock-echo: " ++ query.text) fragments ∧
        fragments.length = count + 1 ∧ count + 1 < UInt64.size ∧
        (∀ moves, relay.ReadToEnd number moves →
          ∃ body, Item.body? (relay.heard number moves) = some body ∧
            Event.decodeAll body =
              .ok (Event.echoed (query.conversationId.getD ids.conversationId.text)
                ids.requestId.text fragments count)) ∧
        ∀ schedule, relay.Fair schedule number → relay.Undisturbed schedule number →
          ∃ count, relay.ReadToEnd number (Relay.firstMoves schedule count) := by
  intro relay number
  obtain ⟨capacity, turn, delay, requestId, conversationId, plain, responded, started⟩ :=
    queries.streamed echoes fits ids
  have finished := Script.ending_echo query.text delay
  refine ⟨_, responded, rfl, rfl, ?_,
    Source.echoLabel :: Source.fragments query.text, (Source.fragments query.text).length, ?_, rfl,
    queries.length_fragments_lt, fun moves read => ?_, fun schedule fair undisturbed => ?_⟩
  · simp [Http.Response.headers, Http.Content.headers]
  · rw [← Source.fragments_echoLabel]
    exact Source.cuts_fragments _
  · have whole : relay.heard number moves = turn.ideal (Source.echo query.text delay) := by
      simp only [relay, started] at read ⊢
      exact Relay.heard_of_readToEnd echoes.reached _ (.inl finished) read
    rw [turn.ideal_echo plain, requestId, conversationId] at whole
    exact decodeAll_echoed whole
  · simp only [relay, started] at fair undisturbed ⊢
    exact Relay.exists_readToEnd echoes.reached _ finished fair undisturbed

/-- A server that echoes queries through channels that hold one item. -/
def echoServer : Server where
  backend := BackendSettings.build {} fun _ => none
  relay := .new 1 .discard

/-- A request that has a greeting echoed. -/
def greetingRequest : Http.Request :=
  keyedRequest "/v1/streaming_query" "alice" "\x7b\"query\":\"hi there\"\x7d"

theorem queries_greetingRequest :
    Queries greetingRequest ⟨"hi there", none, none, none, none⟩ := by
  constructor
  case method_eq => rfl
  case route_eq => decide
  case announces => decide +kernel
  case fits => decide +kernel
  case read => exact eq_ok_of_toOption (by decide +kernel)
  case text => decide
  case conversation => nofun
  case model => exact .inl ⟨rfl, rfl⟩

/-- A greeting is echoed in full. -/
theorem greeting_echoed :
    let relay := (echoServer.respond ⟨⟨1⟩, ⟨2⟩⟩ greetingRequest).2.relay
    echoServer.Echoes ∧ echoServer.relay.capacity ≤ Channel.limit ∧
      Queries greetingRequest ⟨"hi there", none, none, none, none⟩ ∧
      (echoServer.respond ⟨⟨1⟩, ⟨2⟩⟩ greetingRequest).1.map (·.status) = some 200 ∧
      relay.Fair Relay.roundRobin 0 ∧ relay.Undisturbed Relay.roundRobin 0 ∧
      ∃ moves body fragments count, relay.ReadToEnd 0 moves ∧
        Source.Cuts "mock-echo: hi there" fragments ∧ fragments.length = count + 1 ∧
        Item.body? (relay.heard 0 moves) = some body ∧
        Event.decodeAll body =
          .ok (Event.echoed "00000000-0000-0000-0000-000000000002"
            "00000000-0000-0000-0000-000000000001" fragments count) := by
  intro relay
  have echoes : echoServer.Echoes :=
    ⟨⟨{}, fun _ => none, rfl, rfl⟩, rfl, Relay.Reachable.new 1 .discard⟩
  have fits : echoServer.relay.capacity ≤ Channel.limit := by decide
  obtain ⟨response, responded, status, -, -, fragments, count, cuts, length, -, decoded,
      readable⟩ :=
    echo_is_right_end_to_end echoes fits queries_greetingRequest ⟨⟨1⟩, ⟨2⟩⟩
  have fair := Relay.fair_roundRobin relay
  have undisturbed := Relay.undisturbed_roundRobin relay
  obtain ⟨steps, read⟩ := readable Relay.roundRobin fair undisturbed
  obtain ⟨body, framed, events⟩ := decoded _ read
  exact ⟨echoes, fits, queries_greetingRequest, by rw [responded, Option.map_some, status], fair,
    undisturbed, _, body, fragments, count, read, cuts, length, framed, events⟩

/-- The same greeting is not even answered if the channels are to hold one item more than a channel
can be made for. -/
theorem oversized_channel_leaves_greeting_unanswered :
    let server := ofSettings Settings.oversized fun _ => none
    server.Echoes ∧ 1 ≤ server.relay.capacity ∧
      Queries greetingRequest ⟨"hi there", none, none, none, none⟩ ∧
      (server.respond ⟨⟨1⟩, ⟨2⟩⟩ greetingRequest).1 = none := by
  intro server
  have echoes : server.Echoes :=
    ⟨⟨{}, fun _ => none, rfl, rfl⟩, rfl, Relay.Reachable.new 2305843009213693952 .discard⟩
  exact ⟨echoes, by decide, queries_greetingRequest,
    queries_greetingRequest.unanswered echoes (by decide) _⟩

end Server

end TokenRelay
