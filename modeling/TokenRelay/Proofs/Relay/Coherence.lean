/-
# Sessions and their records

Supplies the invariant that ties the registry to the sessions. Every session has the handle with
its own number, the finished flag of a handle says whether its session is past its source, and
every record belongs to a session that has not ended. Identifiers may be used several times.
-/

import TokenRelay.Proofs.KeyMap
import TokenRelay.Proofs.Registry.Flags
import TokenRelay.Proofs.Relay.Run

namespace TokenRelay.Relay

/-- The registry fits the sessions. -/
structure Coherent (relay : Relay) : Prop where
  length_handles : relay.registry.handles.length = relay.sessions.length
  handle_eq : ∀ {number : Nat} {session : Session},
    relay.sessions[number]? = some session → session.handle = number
  finished_eq : ∀ {number : Nat} {session : Session},
    relay.sessions[number]? = some session →
    (relay.registry.handle number).finished = session.isFinished
  /-- A record is that of a session that goes on. -/
  registered : ∀ {requestId : String} {stream : ActiveStream},
    relay.registry.lookup requestId = some stream →
    ∃ session, relay.sessions[stream.handle]? = some session ∧
      session.request.requestId = requestId ∧ session.request.owner = stream.owner ∧
      session.outcome? = none

theorem coherent_new (capacity : Nat) (transcripts : TranscriptPolicy) :
    (new capacity transcripts).Coherent where
  length_handles := rfl
  handle_eq found := by simp [new] at found
  finished_eq found := by simp [new] at found
  registered found := by simp [new, Registry.lookup] at found

/-- The flags of a handle after a poll of a session that has not ended. -/
theorem handle_run (relay : Relay) (number : Nat) (before : Session) (place : Nat) :
    (relay.run number before).registry.handle place =
      if (before.poll (relay.registry.handle before.handle).cancelled relay.clock).isFinished ∧
          before.handle = place ∧ place < relay.registry.handles.length then
        { relay.registry.handle place with finished := true }
      else relay.registry.handle place := by
  have sameHandle := (Session.continues_poll (relay.registry.handle before.handle).cancelled
    relay.clock before).handle_eq
  simp only [run]
  generalize before.poll (relay.registry.handle before.handle).cancelled relay.clock = after
    at sameHandle ⊢
  by_cases finished : after.isFinished = true
  · cases after.outcome? <;> simp [finished, sameHandle, Registry.handle_finishHandle]
  · cases after.outcome? <;> simp [finished]

theorem length_handles_run (relay : Relay) (number : Nat) (before : Session) :
    (relay.run number before).registry.handles.length = relay.registry.handles.length := by
  simp only [run]
  split <;> split <;> simp [Registry.deregister]

/-- The records after a poll of a session that has not ended: if it has ended now, its identifier
has none. -/
theorem lookup_run (relay : Relay) (number : Nat) (before : Session) (requestId : String) :
    (relay.run number before).registry.lookup requestId =
      if (before.poll (relay.registry.handle before.handle).cancelled
            relay.clock).outcome?.isSome ∧ requestId = before.request.requestId then none
      else relay.registry.lookup requestId := by
  have sameRequest := (Session.continues_poll (relay.registry.handle before.handle).cancelled
    relay.clock before).request_eq
  have flagsOnly (registry : Registry) (finished : Bool) (target : Nat) :
      (if finished then registry.finishHandle target else registry).streams =
        registry.streams := by
    cases finished <;> rfl
  simp only [run]
  generalize before.poll (relay.registry.handle before.handle).cancelled relay.clock = after
    at sameRequest ⊢
  cases after.outcome? with
  | none => simp [Registry.lookup, flagsOnly]
  | some outcome =>
      simp [Registry.lookup, Registry.deregister, flagsOnly, sameRequest, KeyMap.find?_erase]

/-- The record of a session that has been entered. -/
theorem lookup_enter (relay : Relay) (request : SessionRequest) :
    (relay.enter request).registry.lookup request.requestId =
      some ⟨request.owner, relay.registry.nextHandle⟩ :=
  KeyMap.find?_insert_self _ _ _

theorem Coherent.add {relay : Relay} (coherent : relay.Coherent) (request : SessionRequest)
    (source : Script) : (relay.add request source { capacity := relay.capacity }).Coherent := by
  have newHandle : relay.registry.nextHandle = relay.sessions.length := coherent.length_handles
  -- A session of the new relay is an old one or the one that has been added.
  have places {number : Nat} {session : Session}
      (found : (relay.add request source { capacity := relay.capacity }).sessions[number]? =
        some session) :
      relay.sessions[number]? = some session ∨
        number = relay.sessions.length ∧ session = relay.freshSession request source := by
    rw [sessions_add, List.getElem?_append] at found
    split at found
    · exact .inl found
    · rw [List.getElem?_singleton] at found
      split at found
      · exact .inr ⟨by omega, (Option.some.inj found).symm⟩
      · cases found
  constructor
  case length_handles =>
    simp [Relay.add, enter, Registry.register, Registry.addHandle, coherent.length_handles]
  case handle_eq =>
    intro number session found
    rcases places found with old | ⟨rfl, rfl⟩
    · exact coherent.handle_eq old
    · exact newHandle
  case finished_eq =>
    intro number session found
    have flags : (relay.add request source { capacity := relay.capacity }).registry.handle number =
        relay.registry.handle number := by
      simp [Relay.add, enter]
    rw [flags]
    rcases places found with old | ⟨rfl, rfl⟩
    · exact coherent.finished_eq old
    · rw [← coherent.length_handles]
      simp [Registry.handle, freshSession, Session.isFinished]
  case registered =>
    intro requestId stream found
    have entered : (relay.registry.streams.insert request.requestId
        ⟨request.owner, relay.registry.nextHandle⟩).find? requestId = some stream := found
    rw [KeyMap.find?_insert] at entered
    split at entered
    · next same =>
      cases entered
      refine ⟨relay.freshSession request source, ?_, same.symm, rfl, rfl⟩
      rw [sessions_add, newHandle, List.getElem?_append_right (Nat.le_refl _)]
      simp
    · obtain ⟨session, place, rest⟩ := coherent.registered entered
      have inside := (List.getElem?_eq_some_iff.1 place).1
      refine ⟨session, ?_, rest⟩
      rw [sessions_add, List.getElem?_append_left inside, place]

theorem Coherent.run {relay : Relay} (coherent : relay.Coherent) {number : Nat}
    {before : Session} (found : relay.sessions[number]? = some before) :
    (relay.run number before).Coherent := by
  have handleNumber := coherent.handle_eq found
  have inside := (List.getElem?_eq_some_iff.1 found).1
  have lookups := lookup_run relay number before
  have flags := handle_run relay number before
  have continues := Session.continues_poll (relay.registry.handle before.handle).cancelled
    relay.clock before
  have past (isOver : before.isFinished = true) := Session.isFinished_poll isOver
    (relay.registry.handle before.handle).cancelled relay.clock
  have polledSessions := sessions_run relay number before
  generalize before.poll (relay.registry.handle before.handle).cancelled relay.clock = after
    at lookups flags continues past polledSessions
  -- A session of the new relay is the polled one or an old one at another place.
  have places {place : Nat} {session : Session}
      (there : (relay.run number before).sessions[place]? = some session) :
      place = number ∧ session = after ∨
        place ≠ number ∧ relay.sessions[place]? = some session := by
    rw [polledSessions] at there
    by_cases same : number = place
    · subst place
      rw [List.getElem?_set_self inside] at there
      exact .inl ⟨rfl, (Option.some.inj there).symm⟩
    · rw [List.getElem?_set_ne same] at there
      exact .inr ⟨Ne.symm same, there⟩
  constructor
  case length_handles =>
    rw [length_handles_run, coherent.length_handles, polledSessions, List.length_set]
  case handle_eq =>
    intro place session there
    rcases places there with ⟨rfl, rfl⟩ | ⟨-, old⟩
    · exact continues.handle_eq.trans handleNumber
    · exact coherent.handle_eq old
  case finished_eq =>
    intro place session there
    rw [flags place, handleNumber, coherent.length_handles]
    rcases places there with ⟨rfl, rfl⟩ | ⟨other, old⟩
    · have earlier := coherent.finished_eq found
      by_cases finished : session.isFinished = true
      · simp [finished, inside]
      · have running : before.isFinished ≠ true := fun isOver => finished (past isOver)
        simp [finished, earlier, running]
    · simp [Ne.symm other, coherent.finished_eq old]
  case registered =>
    intro requestId stream entered
    rw [lookups requestId] at entered
    split at entered
    · cases entered
    · next kept =>
      obtain ⟨session, place, identifier, owner, goesOn⟩ := coherent.registered entered
      rw [polledSessions]
      by_cases same : stream.handle = number
      · obtain rfl : before = session := Option.some.inj (found.symm.trans (same ▸ place))
        refine ⟨after, ?_, ?_, ?_, ?_⟩
        · simp [same, inside]
        · rw [continues.request_eq, identifier]
        · rw [continues.request_eq, owner]
        · cases ended : after.outcome? with
          | none => rfl
          | some outcome => exact absurd ⟨by simp [ended], identifier.symm⟩ kept
      · refine ⟨session, ?_, identifier, owner, goesOn⟩
        rw [List.getElem?_set_ne (Ne.symm same), place]

theorem Coherent.poll {relay : Relay} (coherent : relay.Coherent) (number : Nat) :
    (relay.poll number).Coherent := by
  unfold Relay.poll
  split
  · exact coherent
  · next session found =>
    split
    · exact coherent
    · exact coherent.run found

/-- What only the consumer of a session sees does not matter to the registry. -/
theorem Coherent.modify {relay after : Relay} (coherent : relay.Coherent) {number : Nat}
    {change : Session → Session} (sameRegistry : after.registry = relay.registry)
    (changed : after.sessions = relay.sessions.modify number change)
    (sameHandle : ∀ session, (change session).handle = session.handle)
    (sameRequest : ∀ session, (change session).request = session.request)
    (samePhase : ∀ session, (change session).phase = session.phase) : after.Coherent := by
  have places {place : Nat} {session : Session}
      (there : after.sessions[place]? = some session) :
      ∃ before, relay.sessions[place]? = some before ∧ session.handle = before.handle ∧
        session.phase = before.phase := by
    rw [changed, List.getElem?_modify] at there
    obtain ⟨before, old, rfl⟩ := Option.map_eq_some_iff.1 there
    refine ⟨before, old, ?_⟩
    by_cases same : number = place
    · simp [same, sameHandle, samePhase]
    · simp [same]
  constructor
  case length_handles =>
    rw [sameRegistry, changed, List.length_modify, coherent.length_handles]
  case handle_eq =>
    intro place session there
    obtain ⟨before, old, handle, -⟩ := places there
    exact handle.trans (coherent.handle_eq old)
  case finished_eq =>
    intro place session there
    obtain ⟨before, old, -, phase⟩ := places there
    rw [sameRegistry, coherent.finished_eq old]
    simp [Session.isFinished, phase]
  case registered =>
    intro requestId stream entered
    rw [sameRegistry] at entered
    obtain ⟨before, old, identifier, owner, goesOn⟩ := coherent.registered entered
    refine ⟨if number = stream.handle then change before else before, ?_, ?_, ?_, ?_⟩
    · rw [changed, List.getElem?_modify, old]
      rfl
    · split <;> simp [sameRequest, identifier]
    · split <;> simp [sameRequest, owner]
    · split <;> simp_all [Session.outcome?]

/-- Signals do not touch the sessions. -/
theorem Coherent.signal {relay after : Relay} (coherent : relay.Coherent)
    (sameSessions : after.sessions = relay.sessions)
    (sameStreams : after.registry.streams = relay.registry.streams)
    (sameLength : after.registry.handles.length = relay.registry.handles.length)
    (sameFinished : ∀ number,
      (after.registry.handle number).finished = (relay.registry.handle number).finished) :
    after.Coherent where
  length_handles := by rw [sameLength, sameSessions, coherent.length_handles]
  handle_eq found := coherent.handle_eq (sameSessions ▸ found)
  finished_eq found := (sameFinished _).trans (coherent.finished_eq (sameSessions ▸ found))
  registered entered := by
    rw [Registry.lookup, sameStreams] at entered
    rw [sameSessions]
    exact coherent.registered entered

theorem Coherent.move {relay : Relay} (coherent : relay.Coherent) (move : Move) :
    (relay.move move).Coherent := by
  cases move with
  | start capacity request source =>
      have sameSize : (relay.withCapacity capacity).Coherent :=
        coherent.signal rfl rfl rfl fun _ => rfl
      rw [move_start]
      exact sameSize.add request source
  | poll number => exact coherent.poll number
  | advance milliseconds => exact coherent.signal rfl rfl rfl fun _ => rfl
  | receive number =>
      exact coherent.modify (registry_receive relay number) (sessions_receive relay number)
        Session.handle_afterReceive Session.request_afterReceive Session.phase_afterReceive
  | abandon number =>
      exact coherent.modify (registry_abandon relay number) (sessions_abandon relay number)
        (fun _ => rfl) (fun _ => rfl) fun _ => rfl
  | cancelStream requestId caller =>
      by_cases accepted : (relay.registry.cancelStream requestId caller).1 = .cancelled
      · obtain ⟨stream, found, -⟩ :=
          (relay.registry.cancelStream_eq_cancelled_iff requestId caller).1 accepted
        have told : (relay.move (.cancelStream requestId caller)).registry =
            relay.registry.cancelHandle stream.handle :=
          relay.registry.cancelStream_of_cancelled found accepted
        refine coherent.signal rfl (by rw [told]; rfl) (by rw [told]; simp) fun number => ?_
        rw [told, Registry.handle_cancelHandle]
        split <;> rfl
      · have same : (relay.move (.cancelStream requestId caller)).registry = relay.registry :=
          relay.registry.cancelStream_of_not_cancelled accepted
        exact coherent.signal rfl (by rw [same]) (by rw [same]) fun number => by rw [same]
  | cancelAll =>
      refine coherent.signal rfl (relay.registry.streams_cancelEach 0 _)
        (relay.registry.length_handles_cancelEach 0 _) fun number => ?_
      have flags := relay.registry.handle_cancelEach 0 relay.registry.streams.entries number
      apply (congrArg Handle.finished flags).trans
      split <;> rfl

theorem Reachable.coherent {relay : Relay} (reached : relay.Reachable) : relay.Coherent := by
  induction reached with
  | new capacity transcripts => exact coherent_new capacity transcripts
  | move _ move ih => exact ih.move move

end TokenRelay.Relay
