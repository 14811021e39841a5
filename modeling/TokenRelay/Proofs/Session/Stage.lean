/-
# Stages of a session

Supplies the invariant of a session on its way through the ideal stream. The fragments it has sent
and its phase determine what it has sent altogether, which is always a beginning of the ideal
stream, and what its source still brings. So the outcome of an ended session says how far it has
come, and a poll can only take it further along the same stream.
-/

import TokenRelay.Proofs.Session.Ideal
import TokenRelay.Proofs.Session.Poll

namespace TokenRelay

namespace Session

/-- The session streams a source for a request, and has sent the given fragments of it. -/
structure Serves (request : SessionRequest) (source : Script) (given : List String)
    (session : Session) : Prop where
  request_eq : session.request = request
  metadata_eq : session.source.metadata = source.metadata
  endless_eq : session.source.endless = source.endless
  accumulator_eq : session.accumulator = ⟨String.join given, given.length⟩

theorem Serves.steps {request : SessionRequest} {source : Script} {given : List String}
    {session : Session} (serves : session.Serves request source given) (steps : List Step) :
    Serves request source given { session with source := { session.source with steps } } :=
  { serves with }

/-- The fragments given so far and what steps bring make up the source. -/
structure Ahead (source : Script) (given : List String) (steps : List Step) : Prop where
  fragments_eq : given ++ Script.fragmentsOf steps = source.fragments
  ending_eq : Script.endingOf source.endless steps = source.ending

theorem Ahead.beginning {source : Script} {given : List String} {steps : List Step}
    (ahead : Ahead source given steps) : given <+: source.fragments :=
  ⟨_, ahead.fragments_eq⟩

/-- What has been sent in every phase, and what is left of the source. -/
def Stage (request : SessionRequest) (source : Script) (given : List String)
    (session : Session) : Prop :=
  match session.phase with
  | .created =>
    given = [] ∧ session.channel.sent.toList = [] ∧ session.source.steps = source.steps
  | .awaiting _ action =>
    session.channel.sent.toList = request.opening given ∧
      Ahead source given ({ action } :: session.source.steps)
  | .sending fragment =>
    session.channel.sent.toList = request.opening given ∧
      Ahead source given ({ action := .fragment fragment } :: session.source.steps)
  | .reporting error =>
    session.channel.sent.toList = request.opening given ∧ given = source.fragments ∧
      source.ending = .failed error
  | .closing =>
    session.channel.sent.toList = request.opening given ∧ given = source.fragments ∧
      source.ending = .finished
  | .ended .completed =>
    session.channel.sent.toList = request.ideal source ∧ given = source.fragments ∧
      source.ending = .finished
  | .ended (.failed message) =>
    (session.channel.sent.toList = request.ideal source ∨
        session.channel.sent.toList = request.opening given ∧
          session.channel.abandoned = true) ∧
      given = source.fragments ∧ source.Fails message
  | .ended .cancelled =>
    (session.channel.sent.toList = [] ∨ session.channel.sent.toList = request.opening given) ∧
      given <+: source.fragments
  | .ended .disconnected =>
    (session.channel.sent.toList = [] ∨ session.channel.sent.toList = request.opening given) ∧
      given <+: source.fragments ∧ session.channel.abandoned = true

/-- The session follows the ideal stream of its source. -/
structure Follows (request : SessionRequest) (source : Script) (given : List String)
    (session : Session) : Prop extends Serves request source given session where
  stage : session.Stage request source given

variable {request : SessionRequest} {source : Script} {given : List String} {session : Session}

/-- Sending a fragment adds its token. -/
theorem sent_sendToken (serves : session.Serves request source given)
    (sent : session.channel.sent.toList = request.opening given) (fragment : String) :
    (session.sendToken fragment).channel.sent.toList =
      request.opening (given ++ [fragment]) := by
  have count : session.accumulator.fragments = given.length := by
    rw [serves.accumulator_eq]
  rw [SessionRequest.opening_concat, ← sent, ← count]
  simp [sendToken, emit, Channel.send, Item.token]

theorem Serves.sendToken (serves : session.Serves request source given) (fragment : String) :
    (session.sendToken fragment).Serves request source (given ++ [fragment]) where
  request_eq := serves.request_eq
  metadata_eq := serves.metadata_eq
  endless_eq := serves.endless_eq
  accumulator_eq := by
    simp [Session.sendToken, Accumulator.push, serves.accumulator_eq]

/-- Reporting the error of the source closes the stream, unless nobody is there to hear of it. -/
theorem follows_report (serves : session.Serves request source given)
    (sent : session.channel.sent.toList = request.opening given)
    (all : given = source.fragments) {error : StreamError}
    (ending : source.ending = .failed error) :
    (session.report error).Follows request source given := by
  unfold report
  split
  · next gone =>
    exact { serves with stage := ⟨.inr ⟨sent, gone⟩, all, .inl ⟨error, ending, rfl⟩⟩ }
  · split
    · refine { serves with stage := ⟨.inl ?_, all, .inl ⟨error, ending, rfl⟩⟩ }
      simp [finish, Channel.send, sent, all, SessionRequest.ideal, SessionRequest.closing, ending]
    · exact { serves with stage := ⟨sent, all, ending⟩ }

/-- Sending the end event closes the stream, unless nobody is there to receive it. -/
theorem follows_close (serves : session.Serves request source given)
    (sent : session.channel.sent.toList = request.opening given)
    (all : given = source.fragments) (ending : source.ending = .finished) :
    session.close.Follows request source given := by
  unfold close
  split
  · next gone =>
    exact { serves with stage := ⟨.inr sent, all ▸ List.prefix_refl _, gone⟩ }
  · split
    · refine { serves with stage := ⟨?_, all, ending⟩ }
      simp [finish, emit, Channel.send, sent, all, SessionRequest.ideal, SessionRequest.closing,
        ending, endEvent, serves.metadata_eq, serves.request_eq]
    · exact { serves with stage := ⟨sent, all, ending⟩ }

/-- Going through the source follows the ideal stream. The induction is on the steps that are left,
and a step that brings a fragment moves it from them to the fragments sent. -/
theorem follows_forward (now : Nat) {steps : List Step}
    (serves : session.Serves request source given)
    (sent : session.channel.sent.toList = request.opening given)
    (ahead : Ahead source given steps) :
    ∃ more, (session.forward now steps).Follows request source (given ++ more) := by
  induction steps generalizing session given with
  | nil =>
      refine ⟨[], ?_⟩
      have all : given = source.fragments := by
        simpa [Script.fragmentsOf] using ahead.fragments_eq
      have ending := ahead.ending_eq
      simp only [Script.endingOf] at ending
      have after := serves.steps []
      rw [← serves.endless_eq] at ending
      rw [List.append_nil]
      simp only [forward]
      split
      · next endless =>
        rw [if_pos endless] at ending
        exact { after with
          stage := ⟨sent, by simpa [Script.fragmentsOf] using all, ending⟩ }
      · next finite =>
        rw [if_neg finite] at ending
        exact follows_close after sent all ending.symm
  | cons step rest ih =>
      obtain ⟨action, delay⟩ := step
      have after := serves.steps rest
      by_cases early : 0 < delay
      · refine ⟨[], ?_⟩
        simp only [forward, if_pos early, List.append_nil]
        exact { after with stage := ⟨sent, ahead.fragments_eq, ahead.ending_eq⟩ }
      · simp only [forward, if_neg early]
        cases action with
        | fragment text =>
            by_cases room : session.channel.hasRoom = true
            · obtain ⟨more, follows⟩ := ih (serves.sendToken text)
                (sent_sendToken serves sent text)
                ⟨by simpa [Script.fragmentsOf] using ahead.fragments_eq, ahead.ending_eq⟩
              exact ⟨text :: more, by simpa [room] using follows⟩
            · refine ⟨[], ?_⟩
              simp only [if_neg room, List.append_nil]
              exact { after with stage := ⟨sent, ahead.fragments_eq, ahead.ending_eq⟩ }
        | fail error =>
            refine ⟨[], ?_⟩
            rw [List.append_nil]
            exact follows_report after sent
              (by simpa [Script.fragmentsOf] using ahead.fragments_eq) ahead.ending_eq.symm
        | finish =>
            refine ⟨[], ?_⟩
            rw [List.append_nil]
            exact follows_close after sent
              (by simpa [Script.fragmentsOf] using ahead.fragments_eq) ahead.ending_eq.symm
        | hang =>
            refine ⟨[], ?_⟩
            rw [List.append_nil]
            exact { after with stage := ⟨sent, ahead.fragments_eq, ahead.ending_eq⟩ }
        | crash =>
            refine ⟨[], ?_⟩
            have all : given = source.fragments := by
              simpa [Script.fragmentsOf] using ahead.fragments_eq
            have ending : source.ending = .crashed := ahead.ending_eq.symm
            rw [List.append_nil]
            refine { after with stage := ⟨.inl ?_, all, .inr ⟨ending, rfl⟩⟩ }
            simp [finish, sent, all, SessionRequest.ideal, SessionRequest.closing, ending]

/-- A session that can still be stopped has sent nothing, or the tokens of its fragments. -/
theorem Stage.of_stoppable (stage : session.Stage request source given)
    (stoppable : session.isStoppable = true) :
    (session.channel.sent.toList = [] ∨
        session.channel.sent.toList = request.opening given) ∧
      given <+: source.fragments := by
  unfold Stage at stage
  cases phase : session.phase with
  | created =>
      simp only [phase] at stage
      exact ⟨.inl stage.2.1, stage.1 ▸ List.nil_prefix⟩
  | awaiting due action =>
      simp only [phase] at stage
      exact ⟨.inr stage.1, stage.2.beginning⟩
  | sending fragment =>
      simp only [phase] at stage
      exact ⟨.inr stage.1, stage.2.beginning⟩
  | reporting | closing | ended => simp [isStoppable, phase] at stoppable

/-- Every poll follows the ideal stream. -/
theorem Follows.poll (follows : session.Follows request source given) (cancelled : Bool)
    (now : Nat) : ∃ more, (session.poll cancelled now).Follows request source (given ++ more) := by
  have serves := follows.toServes
  have stage := follows.stage
  have step := polled cancelled now session
  generalize session.poll cancelled now = after at step ⊢
  cases step with
  | ended | waited => exact ⟨[], by rwa [List.append_nil]⟩
  | reported phase =>
      simp only [Stage, phase] at stage
      obtain ⟨sent, all, ending⟩ := stage
      exact ⟨[], by simpa using follows_report serves sent all ending⟩
  | closed phase =>
      simp only [Stage, phase] at stage
      obtain ⟨sent, all, ending⟩ := stage
      exact ⟨[], by simpa using follows_close serves sent all ending⟩
  | stopped stoppable signal =>
      refine ⟨[], ?_⟩
      rw [List.append_nil]
      exact { serves with stage := stage.of_stoppable stoppable }
  | deserted stoppable quiet gone =>
      refine ⟨[], ?_⟩
      have sent := stage.of_stoppable stoppable
      rw [List.append_nil]
      exact { serves with stage := ⟨sent.1, sent.2, gone⟩ }
  | opened phase quiet there =>
      simp only [Stage, phase] at stage
      obtain ⟨rfl, sent, steps⟩ := stage
      have started : (session.emit session.startEvent).Serves request source [] :=
        { serves with }
      refine follows_forward now started ?_ ?_
      · simp [emit, Channel.send, sent, startEvent, serves.request_eq, SessionRequest.opening,
          Item.tokens]
      · rw [steps]
        exact ⟨rfl, rfl⟩
  | pulled phase quiet there ready =>
      simp only [Stage, phase] at stage
      exact follows_forward now serves stage.1 stage.2
  | resumed phase quiet there =>
      simp only [Stage, phase] at stage
      exact follows_forward now serves stage.1 stage.2

/-- At every stage a beginning of the ideal stream has been sent. -/
theorem Follows.sent_prefix_ideal (follows : session.Follows request source given) :
    session.channel.sent.toList <+: request.ideal source := by
  have stage := follows.stage
  unfold Stage at stage
  cases phase : session.phase with
  | created =>
      simp only [phase] at stage
      rw [stage.2.1]
      exact List.nil_prefix
  | awaiting | sending =>
      simp only [phase] at stage
      rw [stage.1]
      exact request.opening_prefix_ideal stage.2.beginning
  | reporting | closing =>
      simp only [phase] at stage
      rw [stage.1]
      exact request.opening_prefix_ideal (stage.2.1 ▸ List.prefix_refl _)
  | ended outcome =>
      simp only [phase] at stage
      cases outcome with
      | completed => exact stage.1 ▸ List.prefix_refl _
      | failed message =>
          rcases stage.1 with sent | ⟨sent, -⟩
          · exact sent ▸ List.prefix_refl _
          · rw [sent]
            exact request.opening_prefix_ideal (stage.2.1 ▸ List.prefix_refl _)
      | cancelled =>
          rcases stage.1 with sent | sent
          · rw [sent]
            exact List.nil_prefix
          · rw [sent]
            exact request.opening_prefix_ideal stage.2
      | disconnected =>
          rcases stage.1 with sent | sent
          · rw [sent]
            exact List.nil_prefix
          · rw [sent]
            exact request.opening_prefix_ideal stage.2.1

end Session

end TokenRelay
