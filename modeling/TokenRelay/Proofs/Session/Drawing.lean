/-
# What a session draws from its source

Supplies the results of the pulls that a session makes, and that it makes them in step with what it
sends. Between two polls it has drawn one result fewer than it has sent items, as long as its source
has nothing for it, and as many once it holds a result that does not fit into the channel. So a
bound on what is sent is a bound on what is drawn.
-/

import TokenRelay.Proofs.Session.Poll

namespace TokenRelay

namespace Script

/-- The results that steps bring, up to the end or the error that closes them. A step that brings
nothing has no result. -/
def resultsOf (endless : Bool) : List Step → List Pulled
  | [] => if endless then [] else [.finished]
  | step :: rest =>
    match step.action with
    | .fragment text => .fragment text :: resultsOf endless rest
    | .fail error => [.failed error]
    | .finish => [.finished]
    | .hang | .crash => []

/-- All the results of a source. -/
def results (source : Script) : List Pulled := resultsOf source.endless source.steps

end Script

namespace Channel

/-- The channel holds no more than it may, and what was received had been sent. -/
structure Fits (channel : Channel) : Prop where
  roomy : 0 < channel.capacity
  received_le : channel.received ≤ channel.sent.size
  sent_le : channel.sent.size ≤ channel.received + channel.capacity

theorem Fits.send {channel : Channel} (fits : channel.Fits) (room : channel.hasRoom = true)
    (item : Item) : (channel.send item).Fits := by
  have space : channel.sent.size - channel.received < channel.capacity := of_decide_eq_true room
  have bound := fits.received_le
  have size : (channel.send item).sent.size = channel.sent.size + 1 := Array.size_push item
  exact {
    roomy := fits.roomy
    received_le := by
      rw [size]
      exact Nat.le_succ_of_le bound
    sent_le := by
      change _ ≤ channel.received + channel.capacity
      omega }

/-- There is room in a channel that nothing has been sent through. -/
theorem Fits.hasRoom_of_unused {channel : Channel} (fits : channel.Fits)
    (unused : channel.sent.size = 0) : channel.hasRoom = true := by
  apply decide_eq_true
  rw [waiting, unused, Nat.zero_sub]
  exact fits.roomy

end Channel

namespace Session

/-- The results that the session draws as it goes through steps, until it has to wait. -/
def drawn (session : Session) : List Step → List Pulled
  | [] => if session.source.endless then [] else [.finished]
  | step :: rest =>
    if 0 < step.delay then []
    else
      match step.action with
      | .fragment text =>
        .fragment text ::
          if session.channel.hasRoom then drawn (session.sendToken text) rest else []
      | .fail error => [.failed error]
      | .finish => [.finished]
      | .hang | .crash => []

/-- The results that a poll of the session obtains. A fragment that waits for room was obtained
when it began to wait. -/
def obtained (cancelled : Bool) (now : Nat) (session : Session) : List Pulled :=
  match session.phase with
  | .created =>
    if cancelled || session.channel.abandoned then []
    else (session.emit session.startEvent).drawn session.source.steps
  | .awaiting due action =>
    if cancelled || session.channel.abandoned || now < due then []
    else session.drawn ({ action } :: session.source.steps)
  | .sending fragment =>
    if cancelled || session.channel.abandoned then []
    else (session.drawn ({ action := .fragment fragment } :: session.source.steps)).tail
  | .reporting _ | .closing | .ended _ => []

/-- The results that the session has still to obtain if nothing stops it. -/
def remaining (session : Session) : List Pulled :=
  match session.phase with
  | .created | .sending _ => Script.resultsOf session.source.endless session.source.steps
  | .awaiting _ action =>
    Script.resultsOf session.source.endless ({ action } :: session.source.steps)
  | .reporting _ | .closing | .ended _ => []

/-- Whether the session was stopped short of the end of its source. -/
def isCutShort (session : Session) : Bool :=
  match session.phase with
  | .ended .cancelled | .ended .disconnected => true
  | _ => false

/-- How many results the session has obtained in every phase: one for every token it has sent, one
more if it holds a result that it has not sent yet. The start event makes up for that one. -/
def Level (count : Nat) (session : Session) : Prop :=
  match session.phase with
  | .created => count = 0 ∧ session.channel.sent.size = 0
  | .awaiting _ _ => count + 1 = session.channel.sent.size
  | .sending _ | .reporting _ | .closing => count = session.channel.sent.size
  | .ended _ => count ≤ session.channel.sent.size

/-- The session has obtained the given results of its source, in step with what it has sent. -/
structure Drew (source : Script) (given : List Pulled) (session : Session) : Prop where
  endless_eq : session.source.endless = source.endless
  level : session.Level given.length
  beginning : given <+: source.results
  complete : session.isCutShort = false → given ++ session.remaining = source.results

variable {source : Script} {given : List Pulled} {session : Session}

/-- A session has never obtained more than it has sent. -/
theorem Drew.length_le (drew : session.Drew source given) :
    given.length ≤ session.channel.sent.size := by
  have level := drew.level
  unfold Level at level
  split at level <;> omega

/-- The session holds nothing, and the given steps bring the results that it has not obtained. -/
structure Pulls (source : Script) (given : List Pulled) (steps : List Step) (session : Session) :
    Prop where
  endless_eq : session.source.endless = source.endless
  level : given.length + 1 = session.channel.sent.size
  results_eq : given ++ Script.resultsOf source.endless steps = source.results

/-- The session holds the last result of its source. -/
structure Drained (source : Script) (given : List Pulled) (session : Session) : Prop where
  endless_eq : session.source.endless = source.endless
  level : given.length = session.channel.sent.size
  results_eq : given = source.results

/-- A source that has failed is drawn to its end, whether or not the report can be sent. -/
theorem Drained.report (drained : session.Drained source given) (error : StreamError) :
    (session.report error).Drew source given := by
  obtain ⟨endless, level, rfl⟩ := drained
  unfold Session.report
  split
  · exact ⟨endless, Nat.le_of_eq level, List.prefix_refl _, fun _ => List.append_nil _⟩
  · split
    · refine ⟨endless, ?_, List.prefix_refl _, fun _ => List.append_nil _⟩
      simp [Level, finish, Channel.send, level]
    · exact ⟨endless, level, List.prefix_refl _, fun _ => List.append_nil _⟩

theorem Drained.close (drained : session.Drained source given) :
    session.close.Drew source given := by
  obtain ⟨endless, level, rfl⟩ := drained
  unfold Session.close
  split
  · exact ⟨endless, Nat.le_of_eq level, List.prefix_refl _, fun _ => List.append_nil _⟩
  · split
    · refine ⟨endless, ?_, List.prefix_refl _, fun _ => List.append_nil _⟩
      simp [Level, finish, emit, Channel.send, level]
    · exact ⟨endless, level, List.prefix_refl _, fun _ => List.append_nil _⟩

/-- A session that sends what it holds pulls again. -/
theorem pulls_sendToken {steps : List Step} {text : String}
    (endless : session.source.endless = source.endless)
    (level : given.length = session.channel.sent.size)
    (results : given ++ Script.resultsOf source.endless steps = source.results) :
    (session.sendToken text).Pulls source given steps where
  endless_eq := endless
  level := by simp [sendToken, emit, Channel.send, level]
  results_eq := results

/-- Going through the source keeps step. The induction is on the steps that are left: a fragment
that is sent raises both counts, and any other result is the last before the session waits. -/
theorem Pulls.forward {steps : List Step} (pulls : session.Pulls source given steps) (now : Nat) :
    (session.forward now steps).Drew source (given ++ session.drawn steps) := by
  obtain ⟨endless, level, results⟩ := pulls
  have one (result : Pulled) : (given ++ [result]).length = session.channel.sent.size := by
    simpa using level
  induction steps generalizing session given with
  | nil =>
      simp only [Session.forward, drawn]
      rw [Script.resultsOf, ← endless] at results
      split
      · next isEndless =>
        rw [if_pos isEndless, List.append_nil] at results
        rw [List.append_nil]
        refine ⟨endless, level, results ▸ List.prefix_refl _, fun _ => ?_⟩
        simpa [remaining, Script.resultsOf] using results
      · next finite =>
        rw [if_neg finite] at results
        have drained : Drained source (given ++ [.finished])
            { session with source := { session.source with steps := [] } } :=
          ⟨endless, one _, results⟩
        exact drained.close
  | cons step rest ih =>
      obtain ⟨action, delay⟩ := step
      have beginning : given <+: source.results := results ▸ List.prefix_append _ _
      have last (result : Pulled) (all : given ++ [result] = source.results) :
          Drained source (given ++ [result])
            { session with source := { session.source with steps := rest } } :=
        ⟨endless, one result, all⟩
      simp only [Session.forward, drawn]
      by_cases early : 0 < delay
      · simp only [if_pos early, List.append_nil]
        refine ⟨endless, level, beginning, fun _ => ?_⟩
        simpa only [remaining, endless, Script.resultsOf] using results
      · simp only [if_neg early]
        cases action with
        | fragment text =>
            have next : given ++ [.fragment text] ++ Script.resultsOf source.endless rest =
                source.results := by simpa [Script.resultsOf] using results
            by_cases room : session.channel.hasRoom = true
            · have sent : (session.sendToken text).Pulls source (given ++ [.fragment text]) rest :=
                pulls_sendToken endless (one _) next
              simp only [if_pos room]
              simpa using ih sent.endless_eq sent.level sent.results_eq fun result => by
                simpa using sent.level
            · simp only [if_neg room]
              refine ⟨endless, one _, next ▸ List.prefix_append _ _, fun _ => ?_⟩
              simpa only [remaining, endless] using next
        | fail error => exact (last (.failed error) results).report error
        | finish => exact (last .finished results).close
        | hang =>
            rw [List.append_nil]
            refine ⟨endless, level, beginning, fun _ => ?_⟩
            simpa [remaining, Script.resultsOf] using results
        | crash =>
            rw [List.append_nil]
            refine ⟨endless, ?_, beginning, fun _ => results⟩
            simp only [Level, finish]
            omega

/-- Stopping a session obtains nothing. -/
theorem Drew.stop (drew : session.Drew source given) {outcome : Outcome}
    (cutShort : outcome = .cancelled ∨ outcome = .disconnected) :
    (session.finish outcome).Drew source given where
  endless_eq := drew.endless_eq
  level := drew.length_le
  beginning := drew.beginning
  complete := by
    rcases cutShort with rfl | rfl <;> intro kept <;> cases kept

/-- Every poll keeps step with what it sends. -/
theorem Drew.poll (drew : session.Drew source given) (cancelled : Bool) (now : Nat) :
    (session.poll cancelled now).Drew source (given ++ session.obtained cancelled now) := by
  have endless := drew.endless_eq
  have level := drew.level
  have complete := drew.complete
  have step := polled cancelled now session
  generalize session.poll cancelled now = after at step ⊢
  cases step with
  | ended phase => simpa [obtained, phase] using drew
  | reported phase =>
      simp only [Level, remaining, isCutShort, phase] at level complete
      have drained : session.Drained source given := ⟨endless, level, by simpa using complete⟩
      simpa [obtained, phase] using drained.report _
  | closed phase =>
      simp only [Level, remaining, isCutShort, phase] at level complete
      have drained : session.Drained source given := ⟨endless, level, by simpa using complete⟩
      simpa [obtained, phase] using drained.close
  | stopped stoppable signal =>
      have nothing : session.obtained cancelled now = [] := by
        unfold obtained
        split <;> simp [signal]
      rw [nothing, List.append_nil]
      exact drew.stop (.inl rfl)
  | deserted stoppable quiet gone =>
      have nothing : session.obtained cancelled now = [] := by
        unfold obtained
        split <;> simp [gone]
      rw [nothing, List.append_nil]
      exact drew.stop (.inr rfl)
  | opened phase quiet there =>
      simp only [Level, remaining, isCutShort, phase] at level complete
      have pulls : (session.emit session.startEvent).Pulls source given session.source.steps :=
        ⟨endless, by simp [emit, Channel.send, level], by simpa [endless] using complete⟩
      simpa [obtained, phase, quiet, there] using pulls.forward now
  | @waited due action phase quiet there early =>
      simpa [obtained, phase, quiet, there, early] using drew
  | @pulled due action phase quiet there ready =>
      simp only [Level, remaining, isCutShort, phase] at level complete
      have pulls : session.Pulls source given ({ action } :: session.source.steps) :=
        ⟨endless, level, by simpa [endless] using complete⟩
      simpa [obtained, phase, quiet, there, Nat.not_lt_of_le ready] using pulls.forward now
  | @resumed fragment phase quiet there =>
      simp only [Level, remaining, isCutShort, phase] at level complete
      by_cases room : session.channel.hasRoom = true
      · have pulls : (session.sendToken fragment).Pulls source given session.source.steps :=
          pulls_sendToken endless level (by simpa [endless] using complete)
        simpa [obtained, drawn, forward, phase, quiet, there, room] using pulls.forward now
      · have same : session.forward now ({ action := .fragment fragment } :: session.source.steps) =
            session := by
          simp only [forward, Nat.lt_irrefl, if_false, if_neg room]
          rw [← phase]
        simpa [obtained, drawn, phase, quiet, there, room, same] using drew

theorem fits_report (fits : session.channel.Fits) (error : StreamError) :
    (session.report error).channel.Fits := by
  unfold report
  split
  · exact fits
  · split
    · next room => exact fits.send room _
    · exact fits

theorem fits_close (fits : session.channel.Fits) : session.close.channel.Fits := by
  unfold close
  split
  · exact fits
  · split
    · next room => exact fits.send room _
    · exact fits

theorem fits_forward (fits : session.channel.Fits) (now : Nat) (steps : List Step) :
    (session.forward now steps).channel.Fits := by
  induction steps generalizing session with
  | nil =>
      simp only [forward]
      split
      · exact fits
      · have after : { session with
            source := { session.source with steps := [] } }.channel.Fits := fits
        exact fits_close after
  | cons step rest ih =>
      have after : { session with
          source := { session.source with steps := rest } }.channel.Fits := fits
      simp only [forward]
      split
      · exact fits
      · split
        · split
          · next room => exact ih (fits.send room _)
          · exact fits
        · exact fits_report after _
        · exact fits_close after
        · exact fits
        · exact fits

/-- No poll sends more than the channel holds. The start event is sent without a look at the
channel, which is empty then. -/
theorem Drew.fits_poll (drew : session.Drew source given) (fits : session.channel.Fits)
    (cancelled : Bool) (now : Nat) : (session.poll cancelled now).channel.Fits := by
  have level := drew.level
  have step := polled cancelled now session
  generalize session.poll cancelled now = after at step ⊢
  cases step with
  | ended | waited | stopped | deserted => exact fits
  | reported => exact fits_report fits _
  | closed => exact fits_close fits
  | opened phase =>
      simp only [Level, phase] at level
      have started : (session.emit session.startEvent).channel.Fits :=
        fits.send (fits.hasRoom_of_unused level.2) _
      exact fits_forward started now _
  | pulled | resumed => exact fits_forward fits now _

end Session

end TokenRelay
