/-
# Backpressure

Supplies that a session never runs ahead of its consumer. The results that a session has obtained
from its source are counted along a run of the relay, as the items that its consumer has been
handed are. Every operation keeps the first count in step with what the session has sent, and what
it has sent exceeds what was handed over by no more than the channel holds.
-/

import TokenRelay.Proofs.Relay.Delivery
import TokenRelay.Proofs.Session.Drawing

namespace TokenRelay

namespace Session

variable {source : Script} {given : List Pulled} {session : Session}

/-- What the consumer does to the channel obtains nothing from the source. -/
theorem Drew.channel (drew : session.Drew source given) {channel : Channel}
    (sent : channel.sent = session.channel.sent) : Drew source given { session with channel } where
  endless_eq := drew.endless_eq
  level := by
    have level := drew.level
    unfold Level at level ⊢
    simpa only [sent] using level
  beginning := drew.beginning
  complete := drew.complete

theorem Drew.receive (drew : session.Drew source given) :
    session.afterReceive.Drew source given := by
  obtain ⟨channel, same, sent, -⟩ := session.exists_afterReceive
  rw [same]
  exact drew.channel sent

/-- Only what has been sent can be received. -/
theorem fits_afterReceive (fits : session.channel.Fits) : session.afterReceive.channel.Fits := by
  unfold afterReceive Channel.receive?
  split
  · exact fits
  · cases next : session.channel.sent[session.channel.received]? with
    | none => exact fits
    | some item =>
        have within := fits.sent_le
        exact {
          roomy := fits.roomy
          received_le := (Array.getElem?_eq_some_iff.1 next).1
          sent_le := by
            change session.channel.sent.size ≤
              session.channel.received + 1 + session.channel.capacity
            omega }

end Session

namespace Relay

/-- The results that the session at a place obtains from its source in an operation. -/
def drawnBy (relay : Relay) (number : Nat) : Move → List Pulled
  | .poll target =>
    if target = number then
      match relay.sessions[number]? with
      | some session =>
        session.obtained (relay.registry.handle session.handle).cancelled relay.clock
      | none => []
    else []
  | .start _ _ _ | .advance _ | .receive _ | .abandon _ | .cancelStream _ _ | .cancelAll => []

/-- The results that the session at a place obtains from its source in the course of some
operations. -/
def obtained (relay : Relay) (number : Nat) : List Move → List Pulled
  | [] => []
  | move :: moves => relay.drawnBy number move ++ (relay.move move).obtained number moves

/-- A session in step with its channel, which holds no more than it may. -/
structure InStep (source : Script) (given : List Pulled) (capacity : Nat) (session : Session) :
    Prop where
  drew : session.Drew source given
  fits : session.channel.Fits
  capacity_eq : session.channel.capacity = capacity

variable {relay : Relay} {number : Nat} {session : Session} {source : Script}
  {given : List Pulled} {capacity : Nat}

/-- Every operation leaves a session in step. -/
theorem InStep.move (inStep : InStep source given capacity session)
    (found : relay.sessions[number]? = some session) (move : Move) :
    InStep source (given ++ relay.drawnBy number move) capacity
      (relay.afterMove number session move) := by
  cases move with
  | poll target =>
      simp only [afterMove, drawnBy, found]
      split
      · exact {
          drew := inStep.drew.poll _ _
          fits := inStep.drew.fits_poll inStep.fits _ _
          capacity_eq := (Session.continues_poll _ _ session).capacity_eq.trans
            inStep.capacity_eq }
      · simpa using inStep
  | receive target =>
      simp only [afterMove, drawnBy, List.append_nil]
      split
      · obtain ⟨channel, same, -, kept, -⟩ := session.exists_afterReceive
        have capacity_eq : session.afterReceive.channel.capacity = capacity := by
          rw [same]
          exact kept.trans inStep.capacity_eq
        exact ⟨inStep.drew.receive, Session.fits_afterReceive inStep.fits, capacity_eq⟩
      · exact inStep
  | abandon target =>
      simp only [afterMove, drawnBy, List.append_nil]
      split
      · exact ⟨inStep.drew.channel rfl, { inStep.fits with }, inStep.capacity_eq⟩
      · exact inStep
  | start | advance | cancelStream | cancelAll =>
      simpa only [afterMove, drawnBy, List.append_nil] using inStep

/-- So does every run. -/
theorem InStep.play (inStep : InStep source given capacity session)
    (found : relay.sessions[number]? = some session) (moves : List Move) :
    ∃ later, (relay.play moves).sessions[number]? = some later ∧
      InStep source (given ++ relay.obtained number moves) capacity later := by
  induction moves generalizing relay session given with
  | nil => exact ⟨session, found, by simpa [obtained] using inStep⟩
  | cons move moves ih =>
      obtain ⟨later, there, further⟩ := ih (inStep.move found move)
        (getElem?_sessions_move found move)
      rw [List.append_assoc] at further
      exact ⟨later, there, further⟩

theorem inStep_freshSession (relay : Relay) (capacity : Channel.Capacity)
    (request : SessionRequest) (source : Script) :
    InStep source [] capacity ((relay.withCapacity capacity).freshSession request source) where
  drew := ⟨rfl, ⟨rfl, rfl⟩, List.nil_prefix, fun _ => rfl⟩
  fits := ⟨Nat.le_max_right capacity 1, Nat.le_refl 0, Nat.zero_le _⟩
  capacity_eq := Nat.max_eq_left capacity.roomy

/-- A session never runs ahead of its consumer. In every state that operations lead to, its
channel holds no more items than its capacity, which is at least one, and the results it has
obtained from its source are no more than that many ahead of the items its consumer has received.
The results it has obtained are a beginning of those that its source brings, and unless it was cut
short all the others are still to come. -/
theorem obtained_le_capacity_add_heard (relay : Relay) (capacity : Channel.Capacity)
    (request : SessionRequest) (source : Script) (moves : List Move) :
    let started := relay.move (.start capacity request source)
    let number := relay.nextSession
    ∃ session, (started.play moves).sessions[number]? = some session ∧
      session.channel.waiting ≤ capacity ∧
      (started.obtained number moves).length ≤
        capacity + (started.heard number moves).length ∧
      started.obtained number moves <+: source.results ∧
      (session.isCutShort = false →
        started.obtained number moves ++ session.remaining = source.results) := by
  intro started number
  have found := relay.getElem?_sessions_start capacity request source
  obtain ⟨session, there, inStep⟩ :=
    (inStep_freshSession relay capacity request source).play found moves
  obtain ⟨same, there', -, heard⟩ := follows_play_start relay capacity request source moves
  cases there'.symm.trans there
  obtain ⟨drew, fits, capacity_eq⟩ := inStep
  have received : (started.heard number moves).length = session.channel.received := by
    rw [heard, List.length_take, Array.length_toList]
    exact Nat.min_eq_left fits.received_le
  have sent := fits.sent_le
  have level := drew.length_le
  rw [capacity_eq] at sent
  refine ⟨session, there, ?_, ?_, drew.beginning, drew.complete⟩
  · unfold Channel.waiting
    omega
  · rw [received]
    change (started.obtained number moves).length ≤ _ at level
    omega

/-- The bound is reached: nothing has been received, and the session holds the first fragment while
the start event fills its channel. -/
example :
    let source := Script.ofFragments ["one", "two"] {}
    let request : SessionRequest :=
      { requestId := "r", conversationId := "c", owner := "ana", query := "hi" }
    let started := (new 1 .discard).move (.start .single request source)
    started.obtained 0 [.poll 0] = [.fragment "one"] ∧
      (started.heard 0 [.poll 0]).length = 0 := by
  decide +kernel

end Relay

end TokenRelay
