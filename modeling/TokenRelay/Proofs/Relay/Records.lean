/-
# What an operation leaves behind

Supplies what operations do to the parts of a relay that they share: the clock, which only the
passing of time moves, and the records that have been handed over, to which a session adds its own
in the poll in which it ends, and nothing else adds any.
-/

import TokenRelay.Proofs.Relay.Run

namespace TokenRelay

namespace Session

/-- A session that has not ended leaves no record. -/
theorem transcript?_of_unended {session : Session} (goesOn : session.outcome? = none)
    (keepsPartial : Bool) (timestamp : Timestamp) :
    session.transcript? keepsPartial timestamp = none := by
  unfold transcript?
  cases phase : session.phase with
  | ended outcome => simp [outcome?, phase] at goesOn
  | created | awaiting | sending | reporting | closing => rfl

/-- The record of a session has the identifier of its request. -/
theorem requestId_of_transcript? {session : Session} {keepsPartial : Bool}
    {timestamp : Timestamp} {record : TranscriptRecord}
    (kept : session.transcript? keepsPartial timestamp = some record) :
    record.requestId = session.request.requestId := by
  unfold transcript? at kept
  simp only at kept
  split at kept
  · cases kept
    rfl
  · split at kept
    · cases kept
      rfl
    · cases kept
  · split at kept
    · cases kept
      rfl
    · cases kept
  · cases kept

end Session

/-- How many milliseconds pass in an operation. -/
def Move.elapsed : Move → Nat
  | .advance milliseconds => milliseconds
  | .start _ _ _ | .poll _ | .receive _ | .abandon _ | .cancelStream _ _ | .cancelAll => 0

namespace Relay

theorem transcriptOf_of_unended {session : Session} (goesOn : session.outcome? = none)
    (relay : Relay) : relay.transcriptOf session = [] := by
  unfold transcriptOf
  split
  · rfl
  · rw [Session.transcript?_of_unended goesOn]
    rfl

theorem requestId_of_mem_transcriptOf {relay : Relay} {session : Session}
    {record : TranscriptRecord} (inside : record ∈ relay.transcriptOf session) :
    record.requestId = session.request.requestId := by
  unfold transcriptOf at inside
  split at inside
  · cases inside
  · exact Session.requestId_of_transcript? (Option.mem_toList.1 inside)

/-- The records that an operation adds: that of a session which it polls to its end. -/
def handedOver (relay : Relay) : Move → List TranscriptRecord
  | .poll target =>
    match relay.sessions[target]? with
    | some session =>
      if session.outcome?.isSome then []
      else relay.transcriptOf (relay.afterMove target session (.poll target))
    | none => []
  | .start _ _ _ | .advance _ | .receive _ | .abandon _ | .cancelStream _ _ | .cancelAll => []

theorem handedOver_poll {relay : Relay} {number : Nat} {session : Session}
    (found : relay.sessions[number]? = some session) :
    relay.handedOver (.poll number) =
      if session.outcome?.isSome then []
      else relay.transcriptOf (relay.afterMove number session (.poll number)) := by
  simp only [handedOver, found]

/-- A record that is added is that of the session polled. -/
theorem requestId_of_mem_handedOver {relay : Relay} {number : Nat} {record : TranscriptRecord}
    (inside : record ∈ relay.handedOver (.poll number)) :
    ∃ session, relay.sessions[number]? = some session ∧
      record.requestId = session.request.requestId := by
  cases found : relay.sessions[number]? with
  | none => simp [handedOver, found] at inside
  | some session =>
      rw [handedOver_poll found] at inside
      split at inside
      · cases inside
      · have same := requestId_of_mem_transcriptOf inside
        rw [request_afterMove] at same
        exact ⟨session, rfl, same⟩

/-- A poll of a session that has not ended adds the record of the session, if it has ended now. -/
private theorem shared_run (relay : Relay) (number : Nat) (before : Session) :
    (relay.run number before).clock = relay.clock ∧
      (relay.run number before).transcripts = relay.transcripts ∧
      (relay.run number before).records = relay.records ++ relay.transcriptOf
        (before.poll (relay.registry.handle before.handle).cancelled relay.clock) := by
  simp only [run]
  split
  · next goesOn =>
    rw [transcriptOf_of_unended goesOn, List.append_nil]
    exact ⟨rfl, rfl, rfl⟩
  · exact ⟨rfl, rfl, rfl⟩

/-- An operation moves the clock and adds records, and how records are treated is settled for
good. -/
theorem shared_move (relay : Relay) (move : Move) :
    (relay.move move).clock = relay.clock + move.elapsed ∧
      (relay.move move).transcripts = relay.transcripts ∧
      (relay.move move).records = relay.records ++ relay.handedOver move := by
  have unchanged : relay.records = relay.records ++ [] := (List.append_nil _).symm
  cases move with
  | start capacity request source =>
      rw [move_start]
      exact ⟨rfl, rfl, unchanged⟩
  | advance | cancelStream | cancelAll => exact ⟨rfl, rfl, unchanged⟩
  | poll target =>
      rw [Relay.move, poll, handedOver]
      cases found : relay.sessions[target]? with
      | none => exact ⟨rfl, rfl, unchanged⟩
      | some session =>
          by_cases ended : session.outcome?.isSome = true
          · simp only [if_pos ended]
            exact ⟨rfl, trivial, unchanged⟩
          · simp only [if_neg ended, afterMove, if_true]
            exact shared_run relay target session
  | receive target =>
      rw [Relay.move, receive]
      split
      · exact ⟨rfl, rfl, unchanged⟩
      · split
        · exact ⟨rfl, rfl, unchanged⟩
        · split <;> exact ⟨rfl, rfl, unchanged⟩
  | abandon target =>
      rw [Relay.move, abandon]
      split <;> exact ⟨rfl, rfl, unchanged⟩

end Relay

end TokenRelay
