/-
# What a stream delivers

Supplies that every stream is faithful from its start, whatever happens to it and around it. A
session follows its ideal stream when it is started, every operation keeps it there, and what its
consumer is handed in the course of a run is what the channel says has been received.
-/

import TokenRelay.Proofs.Relay.Run
import TokenRelay.Proofs.Session.Faithful

namespace TokenRelay.Relay

/-- What an operation hands to the consumer of the session at a place. -/
def handed (relay : Relay) (number : Nat) : Move → List Item
  | .receive target =>
    if target = number then
      match (relay.receive target).1 with
      | .item item => [item]
      | .endOfStream | .pending | .gone => []
    else []
  | .start _ _ _ | .poll _ | .advance _ | .abandon _ | .cancelStream _ _ | .cancelAll => []

/-- What the consumer of the session at a place is handed in the course of some operations. -/
def heard (relay : Relay) (number : Nat) : List Move → List Item
  | [] => []
  | move :: moves => relay.handed number move ++ (relay.move move).heard number moves

theorem heard_append (relay : Relay) (number : Nat) (first second : List Move) :
    relay.heard number (first ++ second) =
      relay.heard number first ++ (relay.play first).heard number second := by
  induction first generalizing relay with
  | nil => rfl
  | cons move moves ih => simp [heard, ih]

/-- An item that is handed over is the next one in the channel. -/
theorem handed_move {relay : Relay} {number : Nat} {session : Session}
    (found : relay.sessions[number]? = some session)
    (bound : session.channel.received ≤ session.channel.sent.size) (move : Move) :
    let after := relay.afterMove number session move
    after.channel.received ≤ after.channel.sent.size ∧
      session.channel.sent.toList.take session.channel.received ++ relay.handed number move =
        after.channel.sent.toList.take after.channel.received := by
  cases move with
  | poll target =>
      simp only [afterMove, handed, List.append_nil]
      split
      · have continues := Session.continues_poll
          (relay.registry.handle session.handle).cancelled relay.clock session
        obtain ⟨rest, more⟩ := continues.sent_prefix
        have size := congrArg List.length more
        simp only [List.length_append, Array.length_toList] at size
        rw [continues.received_eq, ← more, List.take_append_of_le_length (by simpa using bound)]
        exact ⟨by omega, rfl⟩
      · exact ⟨bound, rfl⟩
  | receive target =>
      simp only [afterMove, handed]
      split
      · next same =>
        subst target
        simp only [receive, found, Session.afterReceive, Channel.receive?]
        split
        · exact ⟨bound, by simp⟩
        · cases next : session.channel.sent[session.channel.received]? with
          | none =>
              refine ⟨bound, ?_⟩
              cases session.outcome?.isSome <;> simp
          | some item =>
              obtain ⟨inside, rfl⟩ := Array.getElem?_eq_some_iff.1 next
              refine ⟨inside, ?_⟩
              simp [List.take_add_one, inside]
      · exact ⟨bound, by simp⟩
  | abandon target =>
      simp only [afterMove, handed, List.append_nil]
      split <;> exact ⟨bound, rfl⟩
  | start | advance | cancelStream | cancelAll => exact ⟨bound, by simp [handed, afterMove]⟩

/-- A session on its stream stays there. -/
theorem follows_afterMove {request : SessionRequest} {source : Script} {session : Session}
    (follows : ∃ given, session.Follows request source given) (relay : Relay) (number : Nat)
    (move : Move) :
    ∃ given, (relay.afterMove number session move).Follows request source given := by
  obtain ⟨given, follows⟩ := follows
  cases move with
  | poll target =>
      simp only [afterMove]
      split
      · obtain ⟨more, after⟩ := follows.poll
          (relay.registry.handle session.handle).cancelled relay.clock
        exact ⟨given ++ more, after⟩
      · exact ⟨given, follows⟩
  | receive target =>
      refine ⟨given, ?_⟩
      simp only [afterMove]
      split
      · obtain ⟨channel, same, sent, -, gone⟩ := session.exists_afterReceive
        rw [same]
        exact follows.channel sent fun left => gone.trans left
      · exact follows
  | abandon target =>
      refine ⟨given, ?_⟩
      simp only [afterMove]
      split
      · exact follows.channel rfl fun _ => rfl
      · exact follows
  | start | advance | cancelStream | cancelAll => exact ⟨given, follows⟩

theorem follows_freshSession (relay : Relay) (request : SessionRequest) (source : Script) :
    (relay.freshSession request source).Follows request source [] where
  request_eq := rfl
  metadata_eq := rfl
  endless_eq := rfl
  accumulator_eq := rfl
  stage := ⟨rfl, rfl, rfl⟩

/-- A session stays on its stream, and what its consumer has been handed is what it received. -/
theorem follows_play {relay : Relay} {number : Nat} {session : Session} {request : SessionRequest}
    {source : Script} (found : relay.sessions[number]? = some session)
    (follows : ∃ given, session.Follows request source given)
    (bound : session.channel.received ≤ session.channel.sent.size) (moves : List Move) :
    ∃ later, (relay.play moves).sessions[number]? = some later ∧
      (∃ given, later.Follows request source given) ∧
      session.channel.sent.toList.take session.channel.received ++ relay.heard number moves =
        later.channel.sent.toList.take later.channel.received := by
  induction moves generalizing relay session with
  | nil => exact ⟨session, found, follows, List.append_nil _⟩
  | cons move moves ih =>
      obtain ⟨bound', handed⟩ := handed_move found bound move
      obtain ⟨later, there, follows', heard⟩ := ih (getElem?_sessions_move found move)
        (follows_afterMove follows relay number move) bound'
      rw [← handed, List.append_assoc] at heard
      exact ⟨later, there, follows', heard⟩

/-- So it is with every stream from its start. -/
theorem follows_play_start (relay : Relay) (capacity : Channel.Capacity)
    (request : SessionRequest) (source : Script) (moves : List Move) :
    let started := relay.move (.start capacity request source)
    ∃ session, (started.play moves).sessions[relay.nextSession]? = some session ∧
      (∃ given, session.Follows request source given) ∧
      started.heard relay.nextSession moves =
        session.channel.sent.toList.take session.channel.received :=
  follows_play (relay.getElem?_sessions_start capacity request source)
    ⟨[], follows_freshSession _ request source⟩ (Nat.le_refl 0) moves

end TokenRelay.Relay
