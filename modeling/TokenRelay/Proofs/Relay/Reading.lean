/-
# Streams that are read to their end

Supplies that a consumer who reads a stream to its end without anybody interrupting it has been
handed the whole ideal stream, whatever else happened on the way, and that on every fair schedule it
gets to the end. A session that is spared stays on its way, and a stream that is over has been sent
and received in full.
-/

import TokenRelay.Proofs.Relay.Progress

namespace TokenRelay.Relay

/-- None of some operations interrupts the session with a number or sends its consumer away. -/
inductive Spared (relay : Relay) (number : Nat) : List Move → Prop
  | nil : Spared relay number []
  | concat {moves : List Move} (spared : Spared relay number moves) {move : Move}
      (stays : move ≠ .abandon number)
      (uninterrupted : ¬ (relay.play moves).Interrupts move number) :
      Spared relay number (moves ++ [move])

/-- In the course of some operations that spare the session its consumer gets to the end. -/
structure ReadToEnd (relay : Relay) (number : Nat) (moves : List Move) : Prop where
  spared : relay.Spared number moves
  ended : ((relay.play moves).receive number).1 = .endOfStream

variable {request : SessionRequest} {source : Script} {relay : Relay} {number : Nat}
  {session : Session}

theorem Undisturbed.spared {schedule : Nat → Move} (undisturbed : relay.Undisturbed schedule number)
    (count : Nat) : relay.Spared number (firstMoves schedule count) := by
  induction count with
  | zero => exact .nil
  | succ count ih =>
      rw [firstMoves_succ]
      exact ih.concat (undisturbed.stays count) (undisturbed.uninterrupted count)

/-- A session that is spared goes on. -/
theorem Going.play (going : Going request source relay number session) (finite : source.IsFinite)
    {moves : List Move} (spared : relay.Spared number moves) :
    ∃ after, Going request source (relay.play moves) number after := by
  induction spared with
  | nil => exact ⟨session, going⟩
  | concat spared stays uninterrupted ih =>
      obtain ⟨between, goingOn⟩ := ih
      rw [play_append]
      exact ⟨_, (goingOn.move finite stays uninterrupted).1⟩

/-- A consumer is told that a stream is over once it has received everything and the session has
ended. -/
theorem receive_eq_endOfStream_iff (found : relay.sessions[number]? = some session)
    (there : session.channel.abandoned = false) :
    (relay.receive number).1 = .endOfStream ↔
      session.channel.sent.size ≤ session.channel.received ∧ session.outcome?.isSome = true := by
  simp only [receive, found, there, Bool.false_eq_true, if_false, Channel.receive?]
  by_cases waiting : session.channel.received < session.channel.sent.size
  · simp [waiting, Nat.not_le_of_lt waiting]
  · have none : session.channel.sent[session.channel.received]? = none :=
      Array.getElem?_eq_none (Nat.le_of_not_lt waiting)
    simp only [none, Nat.le_of_not_lt waiting, true_and]
    cases session.outcome?.isSome <;> simp

/-- What has been read to the end is the ideal stream. -/
theorem heard_of_readToEnd (reached : relay.Reachable) (capacity : Channel.Capacity)
    (finite : source.IsFinite) {moves : List Move} :
    let started := relay.move (.start capacity request source)
    started.ReadToEnd relay.nextSession moves →
      started.heard relay.nextSession moves = request.ideal source := by
  intro started read
  obtain ⟨session, going⟩ := (going_start reached capacity request source).play finite read.spared
  obtain ⟨session', found, -, heard⟩ :=
    relay.follows_play_start capacity request source moves
  obtain rfl : session = session' := Option.some.inj (going.found.symm.trans found)
  obtain ⟨received, ended⟩ :=
    (receive_eq_endOfStream_iff going.found going.there).1 read.ended
  obtain ⟨outcome, isOver⟩ := Option.isSome_iff_exists.1 ended
  have sent := going.sent_of_outcome isOver
  rw [heard, List.take_of_length_le (by simpa using received), sent]

/-- On every fair schedule a stream whose source comes to its end is read to the end. -/
theorem exists_readToEnd (reached : relay.Reachable) (capacity : Channel.Capacity)
    (finished : source.ending = .finished) {schedule : Nat → Move} :
    let started := relay.move (.start capacity request source)
    started.Fair schedule relay.nextSession → started.Undisturbed schedule relay.nextSession →
      ∃ count, started.ReadToEnd relay.nextSession (firstMoves schedule count) := by
  intro started fair undisturbed
  have start : Going request source (started.play (firstMoves schedule 0)) relay.nextSession _ :=
    going_start reached capacity request source
  obtain ⟨count, session, going, all⟩ := start.received_in_full (.inl finished) fair undisturbed
  obtain ⟨given, follows⟩ := going.follows
  have sent : session.channel.sent.toList = request.ideal source := by
    apply follows.sent_prefix_ideal.eq_of_length_le
    simpa [all] using going.bound
  refine ⟨count, undisturbed.spared count,
    (receive_eq_endOfStream_iff going.found going.there).2 ⟨?_, ?_⟩⟩
  · exact Nat.le_of_eq (by rw [all, ← sent, Array.length_toList])
  · -- The end event has been sent, so the session is complete.
    have completed : session.outcome? = some .completed := by
      refine follows.completed_iff.2 ⟨.event (.finish source.metadata request.quotas), ?_, rfl⟩
      simp [sent, SessionRequest.ideal, SessionRequest.closing, finished]
    rw [completed]
    rfl

end TokenRelay.Relay
