/-
# What a poll does

Supplies the two facts about polls that everything else rests on. `polled` lists all that a poll can
do, each with the condition under which it does it, so nothing further has to unfold a poll. And a
poll only ever continues a session: it appends to the channel and leaves the request, the handle,
the metadata of the source and the consumer's side of the channel alone.
-/

import TokenRelay.Session.Basic

namespace TokenRelay.Session

theorem outcome?_eq_some_iff {session : Session} {outcome : Outcome} :
    session.outcome? = some outcome ↔ session.phase = .ended outcome := by
  unfold outcome?
  cases session.phase <;> simp

/-- An ended session stays as it is. -/
theorem poll_of_ended {session : Session} {outcome : Outcome}
    (ended : session.outcome? = some outcome) (cancelled : Bool) (now : Nat) :
    session.poll cancelled now = session := by
  rw [outcome?_eq_some_iff] at ended
  simp only [poll, ended]

/-- Whether the session looks at cancellation before it does anything else. It no longer does once
its source has failed or is over. -/
def isStoppable (session : Session) : Bool :=
  match session.phase with
  | .created | .awaiting _ _ | .sending _ => true
  | .reporting _ | .closing | .ended _ => false

/-- What a poll makes of a session, given whether it has been cancelled and the time. -/
inductive Polled (cancelled : Bool) (now : Nat) (session : Session) : Session → Prop where
  | ended {outcome : Outcome} (phase : session.phase = .ended outcome) :
      Polled cancelled now session session
  | reported {error : StreamError} (phase : session.phase = .reporting error) :
      Polled cancelled now session (session.report error)
  | closed (phase : session.phase = .closing) : Polled cancelled now session session.close
  | stopped (stoppable : session.isStoppable = true) (signal : cancelled = true) :
      Polled cancelled now session (session.finish .cancelled)
  | deserted (stoppable : session.isStoppable = true) (quiet : cancelled = false)
      (gone : session.channel.abandoned = true) :
      Polled cancelled now session (session.finish .disconnected)
  | opened (phase : session.phase = .created) (quiet : cancelled = false)
      (there : session.channel.abandoned = false) :
      Polled cancelled now session
        ((session.emit session.startEvent).forward now session.source.steps)
  /-- What the source brings is not due yet. -/
  | waited {due : Nat} {action : Action} (phase : session.phase = .awaiting due action)
      (quiet : cancelled = false) (there : session.channel.abandoned = false)
      (early : now < due) : Polled cancelled now session session
  | pulled {due : Nat} {action : Action} (phase : session.phase = .awaiting due action)
      (quiet : cancelled = false) (there : session.channel.abandoned = false)
      (ready : due ≤ now) :
      Polled cancelled now session (session.forward now ({ action } :: session.source.steps))
  | resumed {fragment : String} (phase : session.phase = .sending fragment)
      (quiet : cancelled = false) (there : session.channel.abandoned = false) :
      Polled cancelled now session
        (session.forward now ({ action := .fragment fragment } :: session.source.steps))

/-- The list is complete. -/
theorem polled (cancelled : Bool) (now : Nat) (session : Session) :
    Polled cancelled now session (session.poll cancelled now) := by
  -- Signal and absence come first in all three phases that look at them.
  have first (stoppable : session.isStoppable = true) (going : Session)
      (goes : cancelled = false → session.channel.abandoned = false →
        Polled cancelled now session going) :
      Polled cancelled now session
        (if cancelled then session.finish .cancelled
        else if session.channel.abandoned then session.finish .disconnected else going) := by
    split
    · next signal => exact .stopped stoppable signal
    · next quiet =>
      split
      · next gone => exact .deserted stoppable (by simpa using quiet) gone
      · next there => exact goes (by simpa using quiet) (by simpa using there)
  cases phase : session.phase with
  | ended outcome =>
      simp only [poll, phase]
      exact .ended phase
  | reporting error =>
      simp only [poll, phase]
      exact .reported phase
  | closing =>
      simp only [poll, phase]
      exact .closed phase
  | created =>
      simp only [poll, phase]
      exact first (by simp [isStoppable, phase]) _ (.opened phase)
  | awaiting due action =>
      simp only [poll, phase]
      refine first (by simp [isStoppable, phase]) _ fun quiet there => ?_
      split
      · next ready => exact .pulled phase quiet there ready
      · next early => exact .waited phase quiet there (Nat.lt_of_not_le early)
  | sending fragment =>
      simp only [poll, phase]
      exact first (by simp [isStoppable, phase]) _ (.resumed phase)

/-- A session that looks at cancellation and finds it stops there. -/
theorem poll_of_stoppable {session : Session} (stoppable : session.isStoppable = true)
    (now : Nat) : session.poll true now = session.finish .cancelled := by
  unfold isStoppable at stoppable
  cases phase : session.phase with
  | created | awaiting | sending => simp [poll, phase]
  | reporting | closing | ended => simp [phase] at stoppable

/-- A session whose consumer has left ends in its next poll, and nothing about it changes but that:
it neither takes anything from its source nor sends anything. It is told apart only whether its
source has failed before, and whether it looks at cancellation and finds it. -/
theorem poll_of_abandoned {session : Session} (gone : session.channel.abandoned = true)
    (goesOn : session.outcome? = none) (cancelled : Bool) (now : Nat) :
    ∃ outcome, session.poll cancelled now = session.finish outcome ∧ outcome ≠ .completed ∧
      (outcome = .cancelled ↔ session.isStoppable = true ∧ cancelled = true) ∧
      ∀ message, outcome = .failed message ↔
        ∃ error : StreamError, session.phase = .reporting error ∧ error.text = message := by
  have step := polled cancelled now session
  generalize session.poll cancelled now = after at step ⊢
  cases step with
  | ended phase =>
      rw [outcome?_eq_some_iff.2 phase] at goesOn
      cases goesOn
  | @reported error phase =>
      exact ⟨.failed error.text, by simp [report, gone], by simp, by simp [isStoppable, phase],
        by simp [phase]⟩
  | closed phase =>
      exact ⟨.disconnected, by simp [close, gone], by simp, by simp [isStoppable, phase],
        by simp [phase]⟩
  | stopped stoppable signal =>
      refine ⟨.cancelled, rfl, by simp, by simp [stoppable, signal], fun message => ?_⟩
      refine ⟨fun failed => (nomatch failed), ?_⟩
      rintro ⟨error, phase, -⟩
      simp [isStoppable, phase] at stoppable
  | deserted stoppable quiet =>
      refine ⟨.disconnected, rfl, by simp, by simp [quiet], fun message => ?_⟩
      refine ⟨fun failed => (nomatch failed), ?_⟩
      rintro ⟨error, phase, -⟩
      simp [isStoppable, phase] at stoppable
  | opened _ _ there | waited _ _ there | pulled _ _ there | resumed _ _ there =>
      rw [gone] at there
      cases there

/-- The later session is the earlier one with more items sent: nothing that belongs to the
caller or to the consumer has changed. -/
structure Continues (before after : Session) : Prop where
  request_eq : after.request = before.request
  handle_eq : after.handle = before.handle
  metadata_eq : after.source.metadata = before.source.metadata
  endless_eq : after.source.endless = before.source.endless
  capacity_eq : after.channel.capacity = before.channel.capacity
  received_eq : after.channel.received = before.channel.received
  abandoned_eq : after.channel.abandoned = before.channel.abandoned
  sent_prefix : before.channel.sent.toList <+: after.channel.sent.toList

theorem Continues.refl (session : Session) : Continues session session where
  request_eq := rfl
  handle_eq := rfl
  metadata_eq := rfl
  endless_eq := rfl
  capacity_eq := rfl
  received_eq := rfl
  abandoned_eq := rfl
  sent_prefix := List.prefix_refl _

theorem Continues.trans {first second third : Session} (earlier : Continues first second)
    (later : Continues second third) : Continues first third where
  request_eq := later.request_eq.trans earlier.request_eq
  handle_eq := later.handle_eq.trans earlier.handle_eq
  metadata_eq := later.metadata_eq.trans earlier.metadata_eq
  endless_eq := later.endless_eq.trans earlier.endless_eq
  capacity_eq := later.capacity_eq.trans earlier.capacity_eq
  received_eq := later.received_eq.trans earlier.received_eq
  abandoned_eq := later.abandoned_eq.trans earlier.abandoned_eq
  sent_prefix := earlier.sent_prefix.trans later.sent_prefix

theorem Continues.size_le {before after : Session} (continues : Continues before after) :
    before.channel.sent.size ≤ after.channel.sent.size := by
  simpa using continues.sent_prefix.length_le

/-- Moving on to another phase continues a session. -/
theorem continues_phase (session : Session) (phase : Phase) :
    Continues session { session with phase } :=
  { Continues.refl session with }

/-- Using up steps of the source continues a session. -/
theorem continues_steps (session : Session) (steps : List Step) :
    Continues session { session with source := { session.source with steps } } :=
  { Continues.refl session with }

/-- Sending an item continues a session. -/
theorem continues_send (session : Session) (item : Item) :
    Continues session { session with channel := session.channel.send item } :=
  { Continues.refl session with sent_prefix := by simp [Channel.send] }

theorem continues_finish (session : Session) (outcome : Outcome) :
    Continues session (session.finish outcome) :=
  continues_phase session (.ended outcome)

theorem continues_emit (session : Session) (event : Event) :
    Continues session (session.emit event) :=
  continues_send session (.event event)

theorem continues_sendToken (session : Session) (fragment : String) :
    Continues session (session.sendToken fragment) :=
  { continues_emit session (.token (UInt64.ofNat session.accumulator.fragments) fragment) with }

theorem continues_report (session : Session) (error : StreamError) :
    Continues session (session.report error) := by
  unfold report
  split
  · exact continues_finish session _
  · split
    · exact (continues_send session _).trans (continues_finish _ _)
    · exact continues_phase session _

theorem continues_close (session : Session) : Continues session session.close := by
  unfold close
  split
  · exact continues_finish session _
  · split
    · exact (continues_emit session _).trans (continues_finish _ _)
    · exact continues_phase session _

/-- Going through the source continues a session. The induction is on the steps that are left. -/
theorem continues_forward (now : Nat) (session : Session) (steps : List Step) :
    Continues session (session.forward now steps) := by
  induction steps generalizing session with
  | nil =>
      simp only [forward]
      split
      · exact (continues_steps session []).trans (continues_phase _ _)
      · exact (continues_steps session []).trans (continues_close _)
  | cons step rest ih =>
      have after := continues_steps session rest
      simp only [forward]
      split
      · exact after.trans (continues_phase _ _)
      · split
        · split
          · exact (continues_sendToken session _).trans (ih _)
          · exact after.trans (continues_phase _ _)
        · exact after.trans (continues_report _ _)
        · exact after.trans (continues_close _)
        · exact after.trans (continues_phase _ _)
        · exact after.trans (continues_finish _ _)

/-- A poll continues its session, whatever it finds. -/
theorem continues_poll (cancelled : Bool) (now : Nat) (session : Session) :
    Continues session (session.poll cancelled now) := by
  have step := polled cancelled now session
  generalize session.poll cancelled now = after at step ⊢
  cases step with
  | ended | waited => exact Continues.refl session
  | reported => exact continues_report session _
  | closed => exact continues_close session
  | stopped | deserted => exact continues_finish session _
  | opened => exact (continues_emit session _).trans (continues_forward now _ _)
  | pulled | resumed => exact continues_forward now session _

theorem report_not_cancelled (session : Session) (error : StreamError) :
    (session.report error).outcome? ≠ some .cancelled := by
  unfold report
  split
  · simp [finish, outcome?]
  · split <;> simp [finish, outcome?]

theorem close_not_cancelled (session : Session) : session.close.outcome? ≠ some .cancelled := by
  unfold close
  split
  · simp [finish, outcome?]
  · split <;> simp [finish, outcome?]

theorem forward_not_cancelled (now : Nat) (session : Session) (steps : List Step) :
    (session.forward now steps).outcome? ≠ some .cancelled := by
  induction steps generalizing session with
  | nil =>
      simp only [forward]
      split
      · simp [outcome?]
      · exact close_not_cancelled _
  | cons step rest ih =>
      simp only [forward]
      split
      · simp [outcome?]
      · split
        · split
          · exact ih _
          · simp [outcome?]
        · exact report_not_cancelled _ _
        · exact close_not_cancelled _
        · simp [outcome?]
        · simp [finish, outcome?]

/-- Only a session that is told to stop ends as cancelled. -/
theorem poll_not_cancelled {session : Session} (before : session.outcome? ≠ some .cancelled)
    (now : Nat) : (session.poll false now).outcome? ≠ some .cancelled := by
  have step := polled false now session
  generalize session.poll false now = after at step ⊢
  cases step with
  | ended | waited => exact before
  | reported => exact report_not_cancelled _ _
  | closed => exact close_not_cancelled _
  | stopped stoppable signal => cases signal
  | deserted => simp [finish, outcome?]
  | opened | pulled | resumed => exact forward_not_cancelled _ _ _

/-- A session whose source is over stays past it. -/
theorem isFinished_poll {session : Session} (finished : session.isFinished = true)
    (cancelled : Bool) (now : Nat) : (session.poll cancelled now).isFinished = true := by
  unfold isFinished at finished
  split at finished
  · next phase =>
    simp only [poll, phase, close]
    split
    · rfl
    · split <;> rfl
  · next phase =>
    simp [poll, phase, isFinished]
  · cases finished

end TokenRelay.Session
