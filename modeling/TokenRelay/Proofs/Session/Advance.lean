/-
# Getting on with a stream

Supplies what a poll achieves for a session that nobody disturbs and whose source is finite: it
brings the session on, or the session has a reason to wait. How far a session and its consumer are
from the end of the stream is a number, and whatever happens to them lowers it.
-/

import TokenRelay.Proofs.Relay.Run
import TokenRelay.Proofs.Session.Stage

namespace TokenRelay.Session

variable {request : SessionRequest} {source : Script} {given : List String} {session : Session}

/-- Whether the session is about to pull its source. -/
def isPulling (session : Session) : Bool :=
  match session.phase with
  | .created | .awaiting _ _ => true
  | .sending _ | .reporting _ | .closing | .ended _ => false

/-- What a poll makes of a session that nobody disturbs and whose source is finite: it sends
something, or it pulls and finds the channel full, or it stays as it is and has a reason to. -/
inductive Advanced (now : Nat) (session after : Session) : Prop where
  | sent (more : session.channel.sent.size < after.channel.sent.size)
  | parked (pulling : session.isPulling = true) (waits : after.isPulling = false)
      (full : session.channel.hasRoom = false)
  | still (same : after = session) (full : session.channel.hasRoom = false)
  | early {due : Nat} {action : Action} (same : after = session)
      (phase : session.phase = .awaiting due action) (notDue : now < due)
  | finished {outcome : Outcome} (same : after = session) (ended : session.outcome? = some outcome)

/-- A report is sent, or it waits for room; and so it is with the end event and with a fragment. -/
theorem sent_report_or (there : session.channel.abandoned = false) (error : StreamError) :
    session.channel.sent.size < (session.report error).channel.sent.size ∨
      session.channel.hasRoom = false ∧
        session.report error = { session with phase := .reporting error } := by
  unfold report
  rw [if_neg (by simp [there])]
  split
  · exact .inl (by simp [finish, Channel.send])
  · next full => exact .inr ⟨by simpa using full, rfl⟩

theorem sent_close_or (there : session.channel.abandoned = false) :
    session.channel.sent.size < session.close.channel.sent.size ∨
      session.channel.hasRoom = false ∧ session.close = { session with phase := .closing } := by
  unfold close
  rw [if_neg (by simp [there])]
  split
  · exact .inl (by simp [finish, emit, Channel.send])
  · next full => exact .inr ⟨by simpa using full, rfl⟩

theorem sent_forward_fragment_or (now : Nat) (text : String) (steps : List Step) :
    session.channel.sent.size <
        (session.forward now ({ action := .fragment text } :: steps)).channel.sent.size ∨
      session.channel.hasRoom = false ∧
        session.forward now ({ action := .fragment text } :: steps) =
          { session with
            source := { session.source with steps }
            phase := .sending text } := by
  simp only [forward, Nat.lt_irrefl, if_false]
  split
  · have continues := continues_forward now (session.sendToken text) steps
    have more : session.channel.sent.size < (session.sendToken text).channel.sent.size := by
      simp [sendToken, emit, Channel.send]
    exact .inl (Nat.lt_of_lt_of_le more continues.size_le)
  · next full => exact .inr ⟨by simpa using full, rfl⟩

/-- Nobody disturbs the session, and its source is finite: then a poll brings it on, or it has a
reason to wait. -/
theorem Follows.advanced (follows : session.Follows request source given)
    (finite : source.IsFinite) (there : session.channel.abandoned = false) (now : Nat) :
    Advanced now session (session.poll false now) := by
  have stage := follows.stage
  have step := polled false now session
  generalize session.poll false now = after at step ⊢
  -- A source that is finite neither hangs nor takes the work down with it.
  have notHung : source.ending ≠ .hung := by
    rcases finite with finished | ⟨error, failed⟩ <;> simp [*]
  have notCrashed : source.ending ≠ .crashed := by
    rcases finite with finished | ⟨error, failed⟩ <;> simp [*]
  cases step with
  | ended phase => exact .finished rfl (outcome?_eq_some_iff.2 phase)
  | stopped stoppable signal => cases signal
  | deserted stoppable quiet gone =>
      rw [there] at gone
      cases gone
  | waited phase quiet there early => exact .early rfl phase early
  | reported phase =>
      rcases sent_report_or there _ with more | ⟨full, same⟩
      · exact .sent more
      · refine .still ?_ full
        rw [same, ← phase]
  | closed phase =>
      rcases sent_close_or there with more | ⟨full, same⟩
      · exact .sent more
      · refine .still ?_ full
        rw [same, ← phase]
  | opened phase quiet there =>
      have continues := continues_forward now (session.emit session.startEvent)
        session.source.steps
      have more : session.channel.sent.size <
          (session.emit session.startEvent).channel.sent.size := by
        simp [emit, Channel.send]
      exact .sent (Nat.lt_of_lt_of_le more continues.size_le)
  | resumed phase quiet there =>
      rcases sent_forward_fragment_or now _ session.source.steps with more | ⟨full, same⟩
      · exact .sent more
      · refine .still ?_ full
        rw [same, ← phase]
  | @pulled due action phase quiet there ready =>
      have pulling : session.isPulling = true := by simp [isPulling, phase]
      simp only [Stage, phase] at stage
      cases action with
      | fragment text =>
          rcases sent_forward_fragment_or now text session.source.steps with more | ⟨full, same⟩
          · exact .sent more
          · exact .parked pulling (by rw [same]; rfl) full
      | fail error =>
          simp only [forward, Nat.lt_irrefl, if_false]
          rcases sent_report_or there error with more | ⟨full, same⟩
          · exact .sent more
          · exact .parked pulling (by rw [same]; rfl) full
      | finish =>
          simp only [forward, Nat.lt_irrefl, if_false]
          rcases sent_close_or there with more | ⟨full, same⟩
          · exact .sent more
          · exact .parked pulling (by rw [same]; rfl) full
      | hang => exact absurd stage.2.ending_eq.symm notHung
      | crash => exact absurd stage.2.ending_eq.symm notCrashed

/-- How far the session and its consumer are from the end of the stream. Sending counts more than
receiving, since a session that sends may go on to pull. -/
def effort (request : SessionRequest) (source : Script) (session : Session) : Nat :=
  3 * ((request.ideal source).length - session.channel.sent.size) +
    ((request.ideal source).length - session.channel.received) +
    (if session.isPulling then 1 else 0)

/-- Sending brings a session closer to the end of its stream. -/
theorem effort_lt_of_sent {after : Session} (continues : Continues session after)
    (within : after.channel.sent.toList <+: request.ideal source)
    (more : session.channel.sent.size < after.channel.sent.size) :
    effort request source after < effort request source session := by
  have bound : after.channel.sent.size ≤ (request.ideal source).length := by
    simpa using within.length_le
  have received := continues.received_eq
  unfold effort
  rw [received]
  split <;> split <;> omega

theorem effort_lt_of_parked {after : Session} (continues : Continues session after)
    (pulling : session.isPulling = true) (waits : after.isPulling = false) :
    effort request source after < effort request source session := by
  have size := continues.size_le
  have received := continues.received_eq
  simp only [effort, received, pulling, waits, if_true, Bool.false_eq_true, if_false]
  omega

/-- So does receiving. -/
theorem effort_lt_of_received (there : session.channel.abandoned = false)
    (within : session.channel.sent.toList <+: request.ideal source)
    (waiting : session.channel.received < session.channel.sent.size) :
    effort request source session.afterReceive < effort request source session := by
  have bound : session.channel.sent.size ≤ (request.ideal source).length := by
    simpa using within.length_le
  have pulls : session.afterReceive.isPulling = session.isPulling := by
    simp [isPulling]
  have received : session.afterReceive.channel.received = session.channel.received + 1 := by
    simp [afterReceive, there, Channel.receive?, waiting]
  simp only [effort, pulls, sent_afterReceive, received]
  omega

end TokenRelay.Session
