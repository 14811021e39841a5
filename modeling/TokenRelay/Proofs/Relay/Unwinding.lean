/-
# Sessions that end without their consumer

Supplies two promises about the next poll of a session, whatever happens until it comes. A session
whose consumer has left ends in it. And so does a session that a shutdown finds on record, with a
consumer that neither reads nor leaves and a source that never answers, as long as its source has
neither ended nor failed. Behind the end of its source a session is past interruption by design: a
shutdown leaves it alone, and it ends once there is room for its end event.
-/

import TokenRelay.Proofs.Relay.Interruption

namespace TokenRelay.Relay

/-- The later session is the earlier one, apart from what its consumer has done. -/
structure Untouched (before after : Session) : Prop where
  same : after = { before with channel := after.channel }
  sent_eq : after.channel.sent = before.channel.sent
  /-- A consumer that has left does nothing more. -/
  channel_eq : before.channel.abandoned = true → after.channel = before.channel

theorem Untouched.refl (session : Session) : Untouched session session :=
  ⟨rfl, rfl, fun _ => rfl⟩

theorem Untouched.trans {first second third : Session} (earlier : Untouched first second)
    (later : Untouched second third) : Untouched first third where
  same := by rw [later.same, earlier.same]
  sent_eq := later.sent_eq.trans earlier.sent_eq
  channel_eq gone := by
    have kept := earlier.channel_eq gone
    rw [later.channel_eq (kept ▸ gone), kept]

theorem Untouched.phase_eq {before after : Session} (untouched : Untouched before after) :
    after.phase = before.phase := by
  rw [untouched.same]

theorem Untouched.request_eq {before after : Session} (untouched : Untouched before after) :
    after.request = before.request := by
  rw [untouched.same]

theorem Untouched.isStoppable_eq {before after : Session} (untouched : Untouched before after) :
    after.isStoppable = before.isStoppable := by
  simp only [Session.isStoppable, untouched.phase_eq]

theorem Untouched.outcome?_eq {before after : Session} (untouched : Untouched before after) :
    after.outcome? = before.outcome? := by
  simp only [Session.outcome?, untouched.phase_eq]

theorem Untouched.eq_of_abandoned {before after : Session} (untouched : Untouched before after)
    (gone : before.channel.abandoned = true) : after = before := by
  rw [untouched.same, untouched.channel_eq gone]

/-- Only a poll of a session touches it. -/
theorem untouched_afterMove (relay : Relay) {number : Nat} (session : Session) {move : Move}
    (unpolled : move ≠ .poll number) :
    Untouched session (relay.afterMove number session move) := by
  cases move with
  | poll target =>
      have other : target ≠ number := fun same => unpolled (congrArg Move.poll same)
      simp only [afterMove, if_neg other]
      exact .refl session
  | receive target =>
      simp only [afterMove]
      split
      · obtain ⟨channel, changed, sent, -⟩ := session.exists_afterReceive
        refine ⟨by rw [changed], by rw [changed, sent], fun gone => ?_⟩
        simp [Session.afterReceive, gone]
      · exact .refl session
  | abandon target =>
      simp only [afterMove]
      split
      · exact ⟨rfl, rfl, fun gone => by simp [Session.afterAbandon, ← gone]⟩
      · exact .refl session
  | start | advance | cancelStream | cancelAll => exact .refl session

/-- So a session stays as it is until its next poll. -/
theorem untouched_play {relay : Relay} {number : Nat} {session : Session}
    (found : relay.sessions[number]? = some session) {moves : List Move}
    (unpolled : .poll number ∉ moves) :
    ∃ waiting, (relay.play moves).sessions[number]? = some waiting ∧
      Untouched session waiting := by
  induction moves generalizing relay session with
  | nil => exact ⟨session, found, .refl session⟩
  | cons move moves ih =>
      rw [List.mem_cons, not_or] at unpolled
      have first := untouched_afterMove relay session (Ne.symm unpolled.1)
      obtain ⟨waiting, there, rest⟩ := ih (getElem?_sessions_move found move) unpolled.2
      exact ⟨waiting, there, first.trans rest⟩

/-- The poll in which a session ends takes its record away. -/
theorem lookup_move_poll {relay : Relay} {number : Nat} {session : Session}
    (found : relay.sessions[number]? = some session) (goesOn : session.outcome? = none)
    (ends : (session.poll (relay.registry.handle session.handle).cancelled
      relay.clock).outcome?.isSome = true) :
    (relay.move (.poll number)).registry.lookup session.request.requestId = none := by
  have runs : relay.move (.poll number) = relay.run number session := by
    simp [Relay.move, Relay.poll, found, goesOn]
  rw [runs, lookup_run, if_pos ⟨ends, rfl⟩]

/-- What a poll makes of the session that is polled. -/
theorem getElem?_move_poll {relay : Relay} {number : Nat} {session : Session}
    (found : relay.sessions[number]? = some session) :
    (relay.move (.poll number)).sessions[number]? =
      some (session.poll (relay.registry.handle session.handle).cancelled relay.clock) := by
  rw [getElem?_sessions_move found, afterMove, if_pos rfl]

/-- In the course of some operations an interrupt is accepted for the session with a number. -/
def Interrupted (relay : Relay) (moves : List Move) (number : Nat) : Prop :=
  ∃ front move back, moves = front ++ move :: back ∧ (relay.play front).Interrupts move number

theorem interrupted_cons (relay : Relay) (move : Move) (moves : List Move) (number : Nat) :
    relay.Interrupted (move :: moves) number ↔
      relay.Interrupts move number ∨ (relay.move move).Interrupted moves number := by
  constructor
  · rintro ⟨front, named, back, split, interrupts⟩
    cases front with
    | nil =>
        cases split
        exact .inl interrupts
    | cons first front =>
        cases split
        exact .inr ⟨front, named, back, rfl, interrupts⟩
  · rintro (interrupts | ⟨front, named, back, rfl, interrupts⟩)
    · exact ⟨[], move, moves, rfl, interrupts⟩
    · exact ⟨move :: front, named, back, rfl, interrupts⟩

/-- A handle has been told to stop exactly if an interrupt was accepted for its session. -/
theorem cancelled_play_iff {relay : Relay} (reached : relay.Reachable) {number : Nat}
    (quiet : (relay.registry.handle number).cancelled = false) (moves : List Move) :
    ((relay.play moves).registry.handle number).cancelled = true ↔
      relay.Interrupted moves number := by
  induction moves generalizing relay with
  | nil =>
      rw [play_nil, quiet]
      simp [Interrupted]
  | cons move moves ih =>
      rw [interrupted_cons, play_cons]
      by_cases interrupts : relay.Interrupts move number
      · obtain ⟨-, -, -, -, told⟩ := interrupts.found reached.coherent
        simp [interrupts, cancelled_play told moves]
      · rw [ih (reached.move move) (not_cancelled_move quiet interrupts)]
        simp [interrupts]

/-- A consumer that has left leaves no orphan. Whatever has happened so far and whatever happens
until the next poll of its session, the session stays as it is until then, and that poll ends it and
takes its record away. Nothing about it changes but that it has ended: nothing more is taken from
its source, and no fragment is added. It is not complete; it is cancelled exactly if it was
interrupted and its source had neither failed nor come to its end, and it has failed exactly if its
source had failed before. -/
theorem departure_ends_session (capacity : Nat) (transcripts : TranscriptPolicy)
    {history : List Move} {number : Nat} {session : Session}
    (found : ((new capacity transcripts).play history).sessions[number]? = some session)
    (gone : session.channel.abandoned = true) (goesOn : session.outcome? = none)
    {moves : List Move} (unpolled : .poll number ∉ moves) :
    let before := (new capacity transcripts).play (history ++ moves)
    let after := before.move (.poll number)
    before.sessions[number]? = some session ∧
      ∃ outcome, after.sessions[number]? = some (session.finish outcome) ∧
        after.registry.lookup session.request.requestId = none ∧
        outcome ≠ .completed ∧
        (outcome = .cancelled ↔ session.isStoppable = true ∧
          (new capacity transcripts).Interrupted (history ++ moves) number) ∧
        ∀ message, outcome = .failed message ↔
          ∃ error : StreamError, session.phase = .reporting error ∧ error.text = message := by
  intro before after
  have reached := Reachable.new capacity transcripts
  have there : before.sessions[number]? = some session := by
    obtain ⟨waiting, there, untouched⟩ := untouched_play found unpolled
    rwa [untouched.eq_of_abandoned gone, ← play_append] at there
  have told : (before.registry.handle session.handle).cancelled = true ↔
      (new capacity transcripts).Interrupted (history ++ moves) number := by
    rw [(reached.play _).coherent.handle_eq there]
    exact cancelled_play_iff reached rfl _
  obtain ⟨outcome, ends, incomplete, cancelled, failed⟩ := Session.poll_of_abandoned gone goesOn
    (before.registry.handle session.handle).cancelled before.clock
  rw [told] at cancelled
  refine ⟨there, outcome, ?_, ?_, incomplete, cancelled, failed⟩
  · rw [getElem?_move_poll there, ends]
  · exact lookup_move_poll there goesOn (by rw [ends]; rfl)

/-- A session that has a fragment for a full channel, and whose source brings nothing after it. -/
def stuck : List Move :=
  [.start .single { requestId := "r1", conversationId := "c1", owner := "alice", query := "q" }
      { steps := [{ action := .fragment "a" }], endless := true },
    .poll 0]

/-- Its consumer leaves, and then its owner interrupts it: it ends as cancelled, and the fragment is
left out. -/
theorem departure_ends_stuck :
    let before := (new 1 .discard).play (stuck ++ [.abandon 0])
    ∃ session, before.sessions[0]? = some session ∧
      session.channel.abandoned = true ∧ session.outcome? = none ∧
      session.phase = .sending "a" ∧ session.accumulator.fragments = 0 ∧
      Move.poll 0 ∉ [Move.cancelStream "r1" "alice"] ∧
      let after := (before.move (.cancelStream "r1" "alice")).move (.poll 0)
      after.sessions[0]? = some (session.finish .cancelled) ∧
        after.registry.lookup "r1" = none := by
  have interrupted : (new 1 .discard).Interrupted
      ((stuck ++ [.abandon 0]) ++ [.cancelStream "r1" "alice"]) 0 := by
    refine ⟨stuck ++ [.abandon 0], .cancelStream "r1" "alice", [], rfl, ?_⟩
    have registered : ((new 1 .discard).play (stuck ++ [.abandon 0])).registry.lookup "r1" =
        some ⟨"alice", 0⟩ := by decide
    exact .caller registered (by decide)
  have unpolled : Move.poll 0 ∉ [Move.cancelStream "r1" "alice"] := by simp
  refine ⟨_, rfl, rfl, rfl, rfl, rfl, unpolled, ?_⟩
  obtain ⟨-, outcome, after, removed, -, cancelled, -⟩ :=
    @departure_ends_session 1 .discard (stuck ++ [.abandon 0]) 0 _ rfl rfl rfl _ unpolled
  obtain rfl := cancelled.2 ⟨rfl, interrupted⟩
  exact ⟨after, removed⟩

/-- A shutdown tells every registered session to stop that is not past its source, and leaves the
flags of the others alone. -/
theorem handle_cancelAll_of_registered {relay : Relay} (coherent : relay.Coherent)
    {requestId : String} {stream : ActiveStream}
    (registered : relay.registry.lookup requestId = some stream) {session : Session}
    (found : relay.sessions[stream.handle]? = some session) :
    (session.isFinished = false →
      ((relay.move .cancelAll).registry.handle stream.handle).cancelled = true) ∧
    (session.isFinished = true →
      (relay.move .cancelAll).registry.handle stream.handle =
        relay.registry.handle stream.handle) := by
  have flags : (relay.move .cancelAll).registry.handle stream.handle = _ :=
    relay.registry.handle_cancelEach 0 relay.registry.streams.entries stream.handle
  have finished := coherent.finished_eq found
  have listed : stream.handle ∈ Registry.handlesOf relay.registry.streams.entries :=
    List.mem_map.2 ⟨(requestId, stream),
      (relay.registry.streams.mem_entries_iff _ _).2 registered, rfl⟩
  have made : stream.handle < relay.registry.handles.length := by
    rw [coherent.length_handles]
    exact (List.getElem?_eq_some_iff.1 found).1
  rw [flags]
  refine ⟨fun running => ?_, fun isOver => if_neg ?_⟩
  · split
    · rfl
    · next kept =>
      -- It is not finished, so it has been told before if it is done.
      cases told : (relay.registry.handle stream.handle).cancelled with
      | true => rfl
      | false => exact absurd ⟨listed, by simp [Handle.isDone, finished, running, told], made⟩ kept
  · rintro ⟨-, running, -⟩
    simp [Handle.isDone, finished, isOver] at running

/-- Shutdown unwinds the sessions on record without anybody's help. Let a shutdown find a record;
whatever happens until the next poll of its session, nothing but what its consumer does touches the
session until then. If its source has neither ended nor failed, that poll ends it as cancelled and
takes its record away. If its source has come to its end, it is past interruption: the shutdown
leaves it alone, and the poll ends it if its end event can be sent or its consumer has left. -/
theorem shutdown_unwinds {relay : Relay} (reached : relay.Reachable) {requestId : String}
    {stream : ActiveStream} (registered : relay.registry.lookup requestId = some stream)
    {moves : List Move} (unpolled : .poll stream.handle ∉ moves) :
    let told := (relay.move .cancelAll).play moves
    let after := told.move (.poll stream.handle)
    ∃ session waiting, relay.sessions[stream.handle]? = some session ∧
      session.request.requestId = requestId ∧ session.outcome? = none ∧
      told.sessions[stream.handle]? = some waiting ∧ Untouched session waiting ∧
      (session.isStoppable = true →
        after.sessions[stream.handle]? = some (waiting.finish .cancelled) ∧
          after.registry.lookup requestId = none) ∧
      (session.phase = .closing →
        (relay.move .cancelAll).registry.handle stream.handle =
            relay.registry.handle stream.handle ∧
          ∃ polled, after.sessions[stream.handle]? = some polled ∧
            polled.outcome? =
              (if waiting.channel.abandoned then some .disconnected
              else if waiting.channel.hasRoom then some .completed
              else none) ∧
            (polled.outcome?.isSome = true → after.registry.lookup requestId = none)) := by
  intro told after
  have coherent := reached.coherent
  obtain ⟨session, found, identifier, -, goesOn⟩ := coherent.registered registered
  have found' : (relay.move .cancelAll).sessions[stream.handle]? = some session :=
    getElem?_sessions_move found .cancelAll
  obtain ⟨waiting, there, untouched⟩ := untouched_play found' unpolled
  obtain ⟨tells, leaves⟩ := handle_cancelAll_of_registered coherent registered found
  have handleNumber : waiting.handle = stream.handle :=
    ((reached.move .cancelAll).play moves).coherent.handle_eq there
  have stillGoesOn : waiting.outcome? = none := untouched.outcome?_eq.trans goesOn
  have sameId : waiting.request.requestId = requestId := by rw [untouched.request_eq, identifier]
  refine ⟨session, waiting, found, identifier, goesOn, there, untouched,
    fun stoppable => ?_, fun closing => ⟨leaves (by simp [Session.isFinished, closing]), ?_⟩⟩
  · have running : session.isFinished = false := by
      cases phase : session.phase with
      | created | awaiting | sending => simp [Session.isFinished, phase]
      | reporting | closing | ended => simp [Session.isStoppable, phase] at stoppable
    have signal : (told.registry.handle waiting.handle).cancelled = true := by
      rw [handleNumber]
      exact cancelled_play (tells running) moves
    have ends : waiting.poll (told.registry.handle waiting.handle).cancelled told.clock =
        waiting.finish .cancelled := by
      rw [signal]
      exact Session.poll_of_stoppable (untouched.isStoppable_eq.trans stoppable) _
    refine ⟨?_, sameId ▸ lookup_move_poll there stillGoesOn (by rw [ends]; rfl)⟩
    rw [getElem?_move_poll there, ends]
  · have phase : waiting.phase = .closing := untouched.phase_eq.trans closing
    refine ⟨_, getElem?_move_poll there, ?_, fun ended => ?_⟩
    · simp only [Session.poll, phase, Session.close]
      split
      · rfl
      · split <;> rfl
    · exact sameId ▸ lookup_move_poll there stillGoesOn ended

/-- A shutdown ends the session with the full channel and the silent source. -/
theorem shutdown_unwinds_stuck :
    let relay := (new 1 .discard).play stuck
    relay.Reachable ∧ relay.registry.lookup "r1" = some ⟨"alice", 0⟩ ∧
      Move.poll 0 ∉ ([] : List Move) ∧
      ∃ waiting, relay.sessions[0]? = some waiting ∧ waiting.isStoppable = true ∧
        waiting.channel.hasRoom = false ∧
        let after := (relay.move .cancelAll).move (.poll 0)
        after.sessions[0]? = some (waiting.finish .cancelled) ∧
          after.registry.lookup "r1" = none := by
  intro relay
  have reached : relay.Reachable := (Reachable.new 1 .discard).play stuck
  have registered : relay.registry.lookup "r1" = some ⟨"alice", 0⟩ := by decide
  have unpolled : Move.poll 0 ∉ ([] : List Move) := List.not_mem_nil
  obtain ⟨session, waiting, found, -, -, there, -, unwinds, -⟩ :=
    shutdown_unwinds reached registered unpolled
  cases found
  cases there
  exact ⟨reached, registered, unpolled, _, rfl, rfl, rfl, unwinds rfl⟩

/-- A session whose end event waits for room outlives a shutdown and the next poll, and stays on
record. -/
theorem closing_outlives_shutdown :
    let relay := (new 1 .discard).play
      [.start .single { requestId := "r1", conversationId := "c1", owner := "alice", query := "q" }
        { steps := [] }, .poll 0]
    relay.Reachable ∧ relay.registry.lookup "r1" = some ⟨"alice", 0⟩ ∧
      let after := (relay.move .cancelAll).move (.poll 0)
      after.sessions.map (·.outcome?) = [none] ∧
        after.registry.lookup "r1" = some ⟨"alice", 0⟩ :=
  ⟨(Reachable.new 1 .discard).play _, by decide, by decide, by decide⟩

end TokenRelay.Relay
