/-
# The registry mirrors the live sessions

Supplies that records and live sessions are the same thing, as long as no two sessions have the same
identifier: a session is on record from its start to the poll in which it ends, and leaves the
registry in that poll and never again. With a repeated identifier it is not so, since the later
session takes the place of the record of the earlier one.
-/

import TokenRelay.Proofs.Relay.Coherence
import TokenRelay.Server.Respond

namespace TokenRelay.Relay

/-- No two sessions have the same identifier. -/
def Distinct (relay : Relay) : Prop :=
  (relay.sessions.map (·.request.requestId)).Nodup

/-- The sessions that have not ended. -/
def live (relay : Relay) : List Session :=
  relay.sessions.filter (·.outcome?.isNone)

/-- The registry shows the live sessions, and nothing else. -/
structure Mirrors (relay : Relay) : Prop where
  /-- No two sessions share a handle. -/
  handle_eq : ∀ {number : Nat} {session : Session}, relay.sessions[number]? = some session →
    session.handle = number
  /-- The record of a session is there as long as the session goes on, with its owner and its
  handle. -/
  lookup_eq : ∀ {number : Nat} {session : Session}, relay.sessions[number]? = some session →
    relay.registry.lookup session.request.requestId =
      if session.outcome?.isNone then some ⟨session.request.owner, session.handle⟩ else none
  /-- Nothing is on record that no session has been started for. -/
  lookup_eq_none : ∀ {requestId : String},
    (∀ session ∈ relay.sessions, session.request.requestId ≠ requestId) →
    relay.registry.lookup requestId = none
  size_eq : relay.registry.size = relay.live.length
  /-- Who asks how the server is gets the number of live sessions. -/
  health_eq : ∀ server : Server, server.relay = relay →
    server.health.content =
      .json (.object [("status", .string "ok"), ("active_streams", .ofNat relay.live.length)])
  /-- Who sees the end of a stream finds no record of it. -/
  closed : ∀ number, (relay.receive number).1 = .endOfStream →
    ∃ session, relay.sessions[number]? = some session ∧
      relay.registry.lookup session.request.requestId = none

/-- How often the record of an identifier leaves the registry in the course of some operations. -/
def departures (relay : Relay) (requestId : String) : List Move → Nat
  | [] => 0
  | move :: moves =>
    (if (relay.registry.lookup requestId).isSome ∧
        ((relay.move move).registry.lookup requestId).isNone then 1 else 0) +
      (relay.move move).departures requestId moves

theorem Distinct.place_eq {relay : Relay} (distinct : relay.Distinct) {first second : Nat}
    {session other : Session} (found : relay.sessions[first]? = some session)
    (found' : relay.sessions[second]? = some other)
    (same : session.request.requestId = other.request.requestId) : first = second := by
  have inside : first < (relay.sessions.map (·.request.requestId)).length := by
    rw [List.length_map]
    exact (List.getElem?_eq_some_iff.1 found).1
  apply (List.getElem?_inj inside distinct).1
  simp only [List.getElem?_map, found, found', Option.map_some, same]

/-- Identifiers are only ever added. -/
theorem Distinct.of_move {relay : Relay} {move : Move} (distinct : (relay.move move).Distinct) :
    relay.Distinct := by
  have kept : relay.sessions.map (·.request.requestId) <+:
      (relay.move move).sessions.map (·.request.requestId) := by
    rw [List.prefix_iff_getElem?]
    intro number inside
    rw [List.length_map] at inside
    have found := List.getElem?_eq_getElem inside
    rw [List.getElem?_map, getElem?_sessions_move found move, Option.map_some,
      request_afterMove, List.getElem_map]
  exact distinct.sublist kept.sublist

theorem Distinct.of_play {relay : Relay} {moves : List Move}
    (distinct : (relay.play moves).Distinct) : relay.Distinct := by
  induction moves generalizing relay with
  | nil => exact distinct
  | cons move moves ih => exact (ih distinct).of_move

/-- What can become of the record of an identifier: a start may replace it, the last poll of a
session removes it, and nothing else touches it. -/
theorem lookup_move {relay : Relay} {requestId : String} {move : Move}
    (noStart : ∀ capacity request source, move = .start capacity request source →
      request.requestId ≠ requestId)
    (noEnd : ∀ target session, move = .poll target → relay.sessions[target]? = some session →
      session.request.requestId = requestId → session.outcome? = none →
      (relay.afterMove target session (.poll target)).outcome? = none) :
    (relay.move move).registry.lookup requestId = relay.registry.lookup requestId := by
  cases move with
  | start capacity request source =>
      have other := noStart capacity request source rfl
      rw [registry_start]
      exact KeyMap.find?_insert_of_ne _ _ (Ne.symm other)
  | poll target =>
      simp only [Relay.move, poll]
      split
      · rfl
      · next session found =>
        split
        · rfl
        · next goesOn =>
          rw [lookup_run]
          split
          · next isOver =>
            obtain ⟨ended, same⟩ := isOver
            have still := noEnd target session rfl found same.symm (by simpa using goesOn)
            simp only [afterMove, if_true] at still
            rw [still] at ended
            cases ended
          · rfl
  | advance milliseconds => rfl
  | receive target => rw [Relay.move, registry_receive]
  | abandon target => rw [Relay.move, registry_abandon]
  | cancelStream named caller =>
      exact congrArg (·.find? requestId) (relay.registry.streams_cancelStream named caller)
  | cancelAll => exact congrArg (·.find? requestId) (relay.registry.streams_cancelEach 0 _)

/-- A session that goes on is on record. -/
theorem Reachable.enrolled {relay : Relay} (reached : relay.Reachable)
    (distinct : relay.Distinct) :
    ∀ {number : Nat} {session : Session}, relay.sessions[number]? = some session →
      session.outcome? = none →
      relay.registry.lookup session.request.requestId =
        some ⟨session.request.owner, number⟩ := by
  induction reached with
  | new capacity transcripts =>
      intro number session found
      simp [Relay.new] at found
  | @move relay reached move ih =>
      intro number after found goesOn
      cases before : relay.sessions[number]? with
      | none =>
          obtain ⟨capacity, request, source, rfl, rfl, rfl⟩ :=
            start_of_getElem?_sessions before found
          have handle : relay.registry.nextHandle = relay.nextSession :=
            reached.coherent.length_handles
          rw [registry_start, ← handle]
          exact relay.lookup_enter request
      | some session =>
          have next := getElem?_sessions_move before move
          obtain rfl : relay.afterMove number session move = after :=
            Option.some.inj (next.symm.trans found)
          have wentOn : session.outcome? = none := by
            cases ended : session.outcome? with
            | none => rfl
            | some outcome =>
                rw [(afterMove_of_ended ended relay number move).1] at goesOn
                cases goesOn
          rw [request_afterMove]
          refine (lookup_move ?_ ?_).trans (ih distinct.of_move before wentOn)
          · -- A new session has an identifier of its own.
            rintro capacity request source rfl same
            have fresh := relay.getElem?_sessions_start capacity request source
            have place := distinct.place_eq fresh found (by rw [request_afterMove]; exact same)
            have inside := (List.getElem?_eq_some_iff.1 before).1
            rw [← place] at inside
            exact Nat.lt_irrefl _ inside
          · -- The session that ends is another one.
            rintro target polled rfl there same -
            obtain rfl := distinct.of_move.place_eq there before same
            obtain rfl : polled = session := Option.some.inj (there.symm.trans before)
            exact goesOn

theorem Reachable.mirrors {relay : Relay} (reached : relay.Reachable)
    (distinct : relay.Distinct) : relay.Mirrors := by
  have coherent := reached.coherent
  have lookup_eq {number : Nat} {session : Session}
      (found : relay.sessions[number]? = some session) :
      relay.registry.lookup session.request.requestId =
        if session.outcome?.isNone then some ⟨session.request.owner, session.handle⟩
        else none := by
    cases ended : session.outcome? with
    | none =>
        rw [coherent.handle_eq found]
        exact reached.enrolled distinct found ended
    | some outcome =>
        cases entered : relay.registry.lookup session.request.requestId with
        | none => rfl
        | some stream =>
            obtain ⟨other, there, same, -, goesOn⟩ := coherent.registered entered
            obtain rfl := distinct.place_eq there found same
            obtain rfl : other = session := Option.some.inj (there.symm.trans found)
            rw [ended] at goesOn
            cases goesOn
  have size_eq : relay.registry.size = relay.live.length := by
    -- Records and live sessions have the same identifiers, and none of them twice.
    have same : (relay.registry.streams.entries.map Prod.fst).Perm
        (relay.live.map (·.request.requestId)) := by
      refine (List.perm_ext_iff_of_nodup relay.registry.streams.nodup_keys
        (distinct.sublist (List.filter_sublist.map _))).2 fun requestId => ?_
      rw [KeyMap.mem_keys_iff, List.mem_map, Option.isSome_iff_exists]
      constructor
      · rintro ⟨stream, entered⟩
        obtain ⟨session, there, same, -, goesOn⟩ := coherent.registered entered
        refine ⟨session, List.mem_filter.2 ⟨List.mem_of_getElem? there, ?_⟩, same⟩
        simp [goesOn]
      · rintro ⟨session, inside, rfl⟩
        obtain ⟨there, goesOn⟩ := List.mem_filter.1 inside
        obtain ⟨number, found⟩ := List.mem_iff_getElem?.1 there
        exact ⟨_, reached.enrolled distinct found (by simpa using goesOn)⟩
    simpa [Registry.size, KeyMap.size] using same.length_eq
  constructor
  case handle_eq => exact coherent.handle_eq
  case lookup_eq => exact lookup_eq
  case lookup_eq_none =>
    intro requestId unknown
    cases entered : relay.registry.lookup requestId with
    | none => rfl
    | some stream =>
        obtain ⟨session, there, same, -⟩ := coherent.registered entered
        exact absurd same (unknown session (List.mem_of_getElem? there))
  case size_eq => exact size_eq
  case health_eq =>
    rintro server rfl
    rw [← size_eq]
    rfl
  case closed =>
    intro number isOver
    unfold receive at isOver
    split at isOver
    · cases isOver
    · next session found =>
      refine ⟨session, found, ?_⟩
      rw [lookup_eq found]
      split at isOver
      · cases isOver
      · split at isOver
        · cases isOver
        · split at isOver
          · next ended => simp [Option.isSome_iff_ne_none.1 ended]
          · cases isOver

/-- Whether the session at a place has ended, as a number. -/
def endings (relay : Relay) (number : Nat) : Nat :=
  match relay.sessions[number]? with
  | some session => if session.outcome?.isSome then 1 else 0
  | none => 0

/-- A record leaves the registry in the operation in which its session ends, and in no other. -/
theorem endings_move {relay : Relay} {move : Move} (reached : relay.Reachable)
    (distinct : (relay.move move).Distinct) {number : Nat} {requestId : String}
    (known : ∀ session, relay.sessions[number]? = some session →
      session.request.requestId = requestId)
    (unknown : relay.sessions[number]? = none →
      ∀ session ∈ relay.sessions, session.request.requestId ≠ requestId) :
    (if (relay.registry.lookup requestId).isSome ∧
        ((relay.move move).registry.lookup requestId).isNone then 1 else 0) +
      relay.endings number = (relay.move move).endings number := by
  have before := reached.mirrors distinct.of_move
  have after := (reached.move move).mirrors distinct
  cases found : relay.sessions[number]? with
  | none =>
      have absent := before.lookup_eq_none (unknown found)
      have later : (relay.move move).endings number = 0 := by
        cases found' : (relay.move move).sessions[number]? with
        | none => simp [endings, found']
        | some session =>
            obtain ⟨capacity, request, source, -, -, rfl⟩ :=
              start_of_getElem?_sessions found found'
            simp [endings, found', freshSession, Session.outcome?]
      rw [later]
      simp [absent, endings, found]
  | some session =>
      have next := getElem?_sessions_move found move
      have recorded := before.lookup_eq found
      have recorded' := after.lookup_eq next
      rw [request_afterMove] at recorded'
      rw [known session found] at recorded recorded'
      cases ended : session.outcome? with
      | some outcome =>
          have isOver := (afterMove_of_ended ended relay number move).1
          simp [endings, found, next, ended, isOver, recorded]
      | none =>
          cases ended' : (relay.afterMove number session move).outcome? with
          | none => simp [endings, found, next, ended, ended', recorded, recorded']
          | some outcome => simp [endings, found, next, ended, ended', recorded, recorded']

/-- The record of a session leaves the registry as often as the session ends. -/
theorem departures_add_endings {relay : Relay} {moves : List Move} (reached : relay.Reachable)
    (distinct : (relay.play moves).Distinct) {number : Nat} {session : Session}
    (found : (relay.play moves).sessions[number]? = some session) :
    relay.departures session.request.requestId moves + relay.endings number =
      (relay.play moves).endings number := by
  induction moves generalizing relay with
  | nil => simp [departures]
  | cons move moves ih =>
      have rest := ih (reached.move move) distinct found
      have known (earlier : Session) (there : relay.sessions[number]? = some earlier) :
          earlier.request.requestId = session.request.requestId := by
        obtain ⟨later, place, same⟩ := request_play there (move :: moves)
        obtain rfl : later = session := Option.some.inj (place.symm.trans found)
        rw [same]
      have unknown (free : relay.sessions[number]? = none) (earlier : Session)
          (inside : earlier ∈ relay.sessions) :
          earlier.request.requestId ≠ session.request.requestId := by
        intro equal
        obtain ⟨other, there⟩ := List.mem_iff_getElem?.1 inside
        obtain ⟨later, place, same⟩ := request_play there (move :: moves)
        obtain rfl := distinct.place_eq place found (same ▸ equal)
        rw [free] at there
        cases there
      have onward : ((relay.move move).play moves).Distinct := distinct
      have step := endings_move reached onward.of_play known unknown
      rw [play_cons, departures]
      omega

/-- The registry mirrors the live sessions, whatever has happened, and the record of a session
leaves it once if the session has ended and never before. -/
theorem registry_mirrors_sessions (capacity : Nat) (transcripts : TranscriptPolicy)
    (moves : List Move) (distinct : ((new capacity transcripts).play moves).Distinct) :
    ((new capacity transcripts).play moves).Mirrors ∧
      ∀ {number : Nat} {session : Session},
        ((new capacity transcripts).play moves).sessions[number]? = some session →
        (new capacity transcripts).departures session.request.requestId moves =
          if session.outcome?.isSome then 1 else 0 := by
  have reached := Reachable.new capacity transcripts
  refine ⟨(reached.play moves).mirrors distinct, ?_⟩
  intro number session found
  have counted := departures_add_endings reached distinct found
  have none : (new capacity transcripts).endings number = 0 := rfl
  rw [none, Nat.add_zero] at counted
  rw [counted]
  simp only [endings, found]

/-- Two sessions of which the first has come to its end. -/
def twoSessions : List Move :=
  [.start .ample { requestId := "r1", conversationId := "c1", owner := "alice", query := "q" }
      (.ofFragments ["a"] {}),
    .start .ample { requestId := "r2", conversationId := "c2", owner := "bob", query := "q" }
      (.ofFragments ["b"] {}),
    .poll 0]

theorem mirrors_twoSessions :
    ((new 8 .discard).play twoSessions).Distinct ∧
      ((new 8 .discard).play twoSessions).Mirrors ∧
      (new 8 .discard).departures "r1" twoSessions = 1 ∧
      (new 8 .discard).departures "r2" twoSessions = 0 := by
  have distinct : ((new 8 .discard).play twoSessions).Distinct := by
    unfold Distinct
    decide
  obtain ⟨mirrors, departures⟩ := registry_mirrors_sessions 8 .discard twoSessions distinct
  refine ⟨distinct, mirrors, ?_, ?_⟩
  · exact @departures 0 _ rfl
  · exact @departures 1 _ rfl

end TokenRelay.Relay
