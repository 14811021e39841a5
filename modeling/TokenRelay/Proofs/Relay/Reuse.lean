/-
# Identifiers that are used again

Supplies what becomes of a record when several sessions are started under one identifier. The record
is that of the latest of them, and it stays until a session with the identifier ends, be it the
latest or one that it replaced: a session that ends takes away whatever record its identifier has.
So a record lives until its own session ends as long as nobody starts a session under an identifier
that is still in use, and it is up to the callers to see to that.
-/

import TokenRelay.Proofs.Relay.Mirror
import TokenRelay.Proofs.Relay.Unwinding

namespace TokenRelay.Relay

/-- A session with the identifier goes on, and has ended after some operations. -/
def SeesEnd (relay : Relay) (requestId : String) (moves : List Move) : Prop :=
  ∃ (number : Nat) (session later : Session), relay.sessions[number]? = some session ∧
    session.request.requestId = requestId ∧ session.outcome? = none ∧
    (relay.play moves).sessions[number]? = some later ∧ later.outcome?.isSome = true

/-- No session is started under the identifier. -/
def Unstarted (requestId : String) (moves : List Move) : Prop :=
  ∀ capacity request source, .start capacity request source ∈ moves →
    request.requestId ≠ requestId

variable {relay : Relay} {requestId : String} {move : Move} {moves : List Move}

theorem Unstarted.head (unstarted : Unstarted requestId (move :: moves)) :
    Unstarted requestId [move] := by
  intro capacity request source inside
  obtain rfl := List.mem_singleton.1 inside
  exact unstarted capacity request source List.mem_cons_self

theorem Unstarted.tail (unstarted : Unstarted requestId (move :: moves)) :
    Unstarted requestId moves :=
  fun capacity request source inside =>
    unstarted capacity request source (List.mem_cons_of_mem _ inside)

/-- A session that has ended after some operations has ended in the first one or in the others. -/
theorem seesEnd_cons (unstarted : Unstarted requestId (move :: moves)) :
    relay.SeesEnd requestId (move :: moves) ↔
      relay.SeesEnd requestId [move] ∨ (relay.move move).SeesEnd requestId moves := by
  constructor
  · rintro ⟨number, session, later, found, same, goesOn, there, ended⟩
    have next := getElem?_sessions_move found move
    cases isOver : (relay.afterMove number session move).outcome? with
    | none =>
        refine .inr ⟨number, _, later, next, ?_, isOver, there, ended⟩
        rw [request_afterMove, same]
    | some outcome =>
        exact .inl ⟨number, session, _, found, same, goesOn, next, by simp [isOver]⟩
  · rintro (⟨number, session, ended, found, same, goesOn, there, isOver⟩ |
      ⟨number, session, later, there, same, goesOn, place, ended⟩)
    · obtain ⟨outcome, isOver⟩ := Option.isSome_iff_exists.1 isOver
      obtain ⟨later, place, stays, -⟩ := play_of_ended there isOver moves
      exact ⟨number, session, later, found, same, goesOn, place, by simp [stays]⟩
    · cases before : relay.sessions[number]? with
      | none =>
          obtain ⟨capacity, request, source, rfl, -, rfl⟩ :=
            start_of_getElem?_sessions before there
          exact absurd same (unstarted capacity request source List.mem_cons_self)
      | some earlier =>
          obtain rfl : relay.afterMove number earlier move = session :=
            Option.some.inj ((getElem?_sessions_move before move).symm.trans there)
          refine ⟨number, earlier, later, before, ?_, ?_, place, ended⟩
          · rwa [request_afterMove] at same
          · cases isOver : earlier.outcome? with
            | none => rfl
            | some outcome =>
                rw [(afterMove_of_ended isOver relay number move).1] at goesOn
                cases goesOn

/-- An operation that starts nothing under an identifier takes its record away if a session with it
ends, and keeps it otherwise. -/
theorem lookup_move_of_unstarted (relay : Relay) (unstarted : Unstarted requestId [move]) :
    (relay.SeesEnd requestId [move] → (relay.move move).registry.lookup requestId = none) ∧
      (¬ relay.SeesEnd requestId [move] →
        (relay.move move).registry.lookup requestId = relay.registry.lookup requestId) := by
  constructor
  · rintro ⟨number, session, later, found, rfl, goesOn, there, ended⟩
    obtain rfl : relay.afterMove number session move = later :=
      Option.some.inj ((getElem?_sessions_move found move).symm.trans there)
    by_cases polled : move = .poll number
    · subst polled
      simp only [afterMove, if_true] at ended
      exact lookup_move_poll found goesOn ended
    · -- Nothing but its poll ends a session.
      rw [(untouched_afterMove relay session polled).outcome?_eq, goesOn] at ended
      cases ended
  · intro unseen
    refine lookup_move ?_ ?_
    · rintro capacity request source rfl
      exact unstarted capacity request source List.mem_cons_self
    · rintro target session rfl found same goesOn
      cases isOver : (relay.afterMove target session (.poll target)).outcome? with
      | none => rfl
      | some outcome =>
          exact absurd ⟨target, session, _, found, same, goesOn,
            getElem?_sessions_move found (.poll target), by simp [isOver]⟩ unseen

/-- So a run that starts nothing under an identifier keeps its record exactly as long as no session
with it ends. The induction is on the operations. -/
theorem lookup_play_of_unstarted (relay : Relay) (unstarted : Unstarted requestId moves) :
    (relay.SeesEnd requestId moves → (relay.play moves).registry.lookup requestId = none) ∧
      (¬ relay.SeesEnd requestId moves →
        (relay.play moves).registry.lookup requestId = relay.registry.lookup requestId) := by
  induction moves generalizing relay with
  | nil =>
      refine ⟨?_, fun _ => rfl⟩
      rintro ⟨number, session, later, found, -, goesOn, there, ended⟩
      obtain rfl : session = later := Option.some.inj (found.symm.trans there)
      rw [goesOn] at ended
      cases ended
  | cons move moves ih =>
      obtain ⟨taken, kept⟩ := relay.lookup_move_of_unstarted unstarted.head
      obtain ⟨takenLater, keptLater⟩ := ih (relay.move move) unstarted.tail
      rw [seesEnd_cons unstarted, not_or]
      refine ⟨?_, fun unseen => (keptLater unseen.2).trans (kept unseen.1)⟩
      rintro (first | rest)
      · by_cases rest : (relay.move move).SeesEnd requestId moves
        · exact takenLater rest
        · exact (keptLater rest).trans (taken first)
      · exact takenLater rest

/-- What a record is good for: it is that of the session with a number, which has been started for
the request and goes on, and as long as the session is neither cancelled nor past its source its
owner and a shutdown can interrupt it. -/
structure OnRecord (relay : Relay) (request : SessionRequest) (number : Nat) : Prop where
  goesOn : ∃ session, relay.sessions[number]? = some session ∧ session.request = request ∧
    session.handle = number ∧ session.outcome? = none
  lookup_eq : relay.registry.lookup request.requestId = some ⟨request.owner, number⟩
  interruptible : (relay.registry.handle number).isDone = false →
    ∀ move ∈ [Move.cancelStream request.requestId request.owner, .cancelAll],
      relay.Interrupts move number ∧
        ((relay.move move).registry.handle number).cancelled = true

theorem Reachable.onRecord (reached : relay.Reachable) {request : SessionRequest} {number : Nat}
    {session : Session} (found : relay.sessions[number]? = some session)
    (same : session.request = request) (goesOn : session.outcome? = none)
    (registered : relay.registry.lookup request.requestId = some ⟨request.owner, number⟩) :
    relay.OnRecord request number := by
  refine ⟨⟨session, found, same, reached.coherent.handle_eq found, goesOn⟩, registered, ?_⟩
  intro running move asked
  have interrupts : relay.Interrupts move number := by
    simp only [List.mem_cons, List.not_mem_nil, or_false] at asked
    rcases asked with rfl | rfl
    · refine .caller registered ?_
      exact (relay.registry.cancelStream_eq_cancelled_iff _ _).2 ⟨_, registered, rfl, running⟩
    · exact .shutdown registered running
  obtain ⟨-, -, -, -, told⟩ := interrupts.found reached.coherent
  exact ⟨interrupts, told⟩

/-- A record lives until a session with its identifier ends. After the latest start under an
identifier, whether or not that is still in use, the record is that of the session that was started,
which can be found and interrupted through it, until that session or one that it has replaced ends;
then there is none. If no other session with the identifier goes on when it is started, it is the
end of the session itself that takes its record away. -/
theorem record_lives_until_end (reached : relay.Reachable) (capacity : Channel.Capacity)
    (request : SessionRequest) (source : Script)
    (latest : Unstarted request.requestId moves) :
    let started := relay.move (.start capacity request source)
    let current := started.play moves
    (¬ started.SeesEnd request.requestId moves → current.OnRecord request relay.nextSession) ∧
      (started.SeesEnd request.requestId moves →
        current.registry.lookup request.requestId = none) ∧
      ((∀ earlier ∈ relay.sessions, earlier.request.requestId = request.requestId →
          earlier.outcome?.isSome = true) →
        ∀ session, current.sessions[relay.nextSession]? = some session →
          (started.SeesEnd request.requestId moves ↔ session.outcome?.isSome = true)) := by
  intro started current
  have reachedNow : current.Reachable :=
    (reached.move (.start capacity request source)).play moves
  have fresh := relay.getElem?_sessions_start capacity request source
  obtain ⟨taken, kept⟩ := started.lookup_play_of_unstarted latest
  -- The new session is one that may be seen to end.
  have own {session : Session} (found : current.sessions[relay.nextSession]? = some session)
      (ended : session.outcome?.isSome = true) : started.SeesEnd request.requestId moves :=
    ⟨relay.nextSession, _, session, fresh, rfl, rfl, found, ended⟩
  refine ⟨fun unseen => ?_, taken, fun unused session found => ⟨?_, own found⟩⟩
  · obtain ⟨session, found, same⟩ := request_play fresh moves
    have goesOn : session.outcome? = none := by
      cases ended : session.outcome? with
      | none => rfl
      | some outcome => exact absurd (own found (by simp [ended])) unseen
    refine reachedNow.onRecord found same goesOn ((kept unseen).trans ?_)
    have number : relay.registry.nextHandle = relay.nextSession := reached.coherent.length_handles
    rw [registry_start, ← number]
    exact relay.lookup_enter request
  · rintro ⟨number, earlier, later, there, same, goesOn, place, ended⟩
    cases before : relay.sessions[number]? with
    | none =>
        obtain ⟨-, -, -, -, rfl, -⟩ := start_of_getElem?_sessions before there
        obtain rfl : later = session := Option.some.inj (place.symm.trans found)
        exact ended
    | some old =>
        have unmoved : started.sessions[number]? = some old :=
          getElem?_sessions_move before (.start capacity request source)
        obtain rfl : old = earlier := Option.some.inj (unmoved.symm.trans there)
        have isOver := unused old (List.mem_of_getElem? before) same
        rw [goesOn] at isOver
        cases isOver

/-- A start under the one identifier, of a session whose source never answers. -/
def hung (owner : String) : Move :=
  .start .ample { requestId := "r1", conversationId := "c1", owner, query := "q" }
    { steps := [], endless := true }

/-- Bob's session takes the place of Alice's on record, and can be interrupted by him. -/
theorem record_lives_for_bob :
    let relay := (new 8 .discard).play [hung "alice", .poll 0]
    let current := (relay.move (hung "bob")).play [.poll 1, .receive 0, .poll 0]
    relay.Reachable ∧ Unstarted "r1" [.poll 1, .receive 0, .poll 0] ∧
      ¬ (relay.move (hung "bob")).SeesEnd "r1" [.poll 1, .receive 0, .poll 0] ∧
      current.registry.lookup "r1" = some ⟨"bob", 1⟩ ∧
      current.Interrupts (.cancelStream "r1" "bob") 1 ∧
      ((current.move .cancelAll).registry.handle 1).cancelled = true := by
  intro relay current
  have reached : relay.Reachable := (Reachable.new 8 .discard).play _
  have latest : Unstarted "r1" [.poll 1, .receive 0, .poll 0] := by
    intro capacity request source inside
    simp at inside
  have unseen : ¬ (relay.move (hung "bob")).SeesEnd "r1" [.poll 1, .receive 0, .poll 0] := by
    rintro ⟨number, session, later, -, -, -, there, ended⟩
    have going : ∀ session ∈ current.sessions, session.outcome?.isSome = false := by decide
    exact nomatch ended.symm.trans (going later (List.mem_of_getElem? there))
  have onRecord := (record_lives_until_end reached .ample
    { requestId := "r1", conversationId := "c1", owner := "bob", query := "q" }
    { steps := [], endless := true } latest).1 unseen
  have interruptible := onRecord.interruptible (by decide)
  exact ⟨reached, latest, unseen, onRecord.lookup_eq,
    (interruptible (.cancelStream "r1" "bob") (by simp)).1,
    (interruptible .cancelAll (by simp)).2⟩

/-- When the replaced session ends, the record of its replacement is gone, though that goes on: Bob
is told that there is no such stream, and a shutdown passes it over. -/
theorem end_of_replaced_takes_record :
    let relay := (new 8 .discard).play [hung "alice", hung "bob", .abandon 0, .poll 0]
    relay.Reachable ∧
      relay.sessions.map (fun session => (session.request.owner, session.outcome?)) =
        [("alice", some .disconnected), ("bob", none)] ∧
      relay.registry.lookup "r1" = none ∧
      (relay.cancelStream "r1" "bob").1 = .notFound ∧
      relay.cancelAll.1 = 0 :=
  ⟨(Reachable.new 8 .discard).play _, by decide, by decide, by decide, by decide⟩

end TokenRelay.Relay
