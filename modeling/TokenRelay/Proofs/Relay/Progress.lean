/-
# Delivery in full

Supplies the other half of delivery: on a schedule without end that neither interrupts a session
nor sends its consumer away, but always polls it again, lets its consumer receive again and lets
time pass, a source that comes to its end or to an error is delivered in full. Every operation
either leaves the session as it is or brings it closer to the end of its stream, and there is
always one ahead that brings it closer.
-/

import TokenRelay.Proofs.Relay.Delivery
import TokenRelay.Proofs.Relay.Interruption
import TokenRelay.Proofs.Session.Advance

namespace TokenRelay.Relay

/-- The first operations of a schedule without end. -/
def firstMoves (schedule : Nat → Move) (count : Nat) : List Move :=
  (List.range count).map schedule

theorem firstMoves_succ (schedule : Nat → Move) (count : Nat) :
    firstMoves schedule (count + 1) = firstMoves schedule count ++ [schedule count] := by
  simp [firstMoves, List.range_succ]

theorem play_firstMoves_succ (relay : Relay) (schedule : Nat → Move) (count : Nat) :
    relay.play (firstMoves schedule (count + 1)) =
      (relay.play (firstMoves schedule count)).move (schedule count) := by
  rw [firstMoves_succ, play_append, play_cons, play_nil]

/-- The session is polled again and again, its consumer goes on receiving, and time passes. -/
structure Fair (relay : Relay) (schedule : Nat → Move) (number : Nat) : Prop where
  polls : ∀ count, ∃ later, count ≤ later ∧ schedule later = .poll number
  receives : ∀ count, ∃ later, count ≤ later ∧ schedule later = .receive number
  time : ∀ moment, ∃ count, moment ≤ (relay.play (firstMoves schedule count)).clock

/-- The consumer of the session stays, and nobody interrupts it. -/
structure Undisturbed (relay : Relay) (schedule : Nat → Move) (number : Nat) : Prop where
  stays : ∀ count, schedule count ≠ .abandon number
  uninterrupted : ∀ count,
    ¬ (relay.play (firstMoves schedule count)).Interrupts (schedule count) number

theorem clock_move (relay : Relay) (move : Move) : relay.clock ≤ (relay.move move).clock := by
  cases move with
  | start capacity request source =>
      rw [move_start]
      exact Nat.le_refl _
  | cancelStream | cancelAll => exact Nat.le_refl _
  | advance milliseconds => exact Nat.le_add_right _ _
  | poll target =>
      simp only [Relay.move, poll]
      split
      · exact Nat.le_refl _
      · split
        · exact Nat.le_refl _
        · simp only [run]
          split <;> exact Nat.le_refl _
  | receive target =>
      simp only [Relay.move, receive]
      split
      · exact Nat.le_refl _
      · split
        · exact Nat.le_refl _
        · split <;> exact Nat.le_refl _
  | abandon target =>
      simp only [Relay.move, abandon]
      split <;> exact Nat.le_refl _

theorem clock_firstMoves {count later : Nat} (relay : Relay) (schedule : Nat → Move)
    (le : count ≤ later) :
    (relay.play (firstMoves schedule count)).clock ≤
      (relay.play (firstMoves schedule later)).clock := by
  induction le with
  | refl => exact Nat.le_refl _
  | step _ ih =>
      rw [play_firstMoves_succ]
      exact Nat.le_trans ih (clock_move _ _)

/-- A session on its stream that nobody has disturbed so far. -/
structure Going (request : SessionRequest) (source : Script) (relay : Relay) (number : Nat)
    (session : Session) : Prop where
  found : relay.sessions[number]? = some session
  follows : ∃ given, session.Follows request source given
  bound : session.channel.received ≤ session.channel.sent.size
  room : 0 < session.channel.capacity
  there : session.channel.abandoned = false
  handle_eq : session.handle = number
  quiet : (relay.registry.handle number).cancelled = false
  uncancelled : session.outcome? ≠ some .cancelled

variable {request : SessionRequest} {source : Script} {relay : Relay} {number : Nat}
  {session : Session}

/-- The later session can go on as the earlier one could, and it is the same or closer to the end of
its stream. -/
structure Onward (request : SessionRequest) (source : Script) (before after : Session) : Prop where
  room : 0 < after.channel.capacity
  there : after.channel.abandoned = false
  uncancelled : after.outcome? ≠ some .cancelled
  progress : after = before ∨ after.effort request source < before.effort request source

theorem Going.onward_refl (going : Going request source relay number session) :
    Onward request source session session :=
  ⟨going.room, going.there, going.uncancelled, .inl rfl⟩

theorem Going.onward_poll (going : Going request source relay number session)
    (finite : source.IsFinite) :
    Onward request source session (session.poll false relay.clock) := by
  obtain ⟨given, follows⟩ := going.follows
  obtain ⟨more, after⟩ := follows.poll false relay.clock
  have continues := Session.continues_poll false relay.clock session
  constructor
  case room => exact continues.capacity_eq ▸ going.room
  case there => exact continues.abandoned_eq.trans going.there
  case uncancelled => exact Session.poll_not_cancelled going.uncancelled _
  case progress =>
    cases follows.advanced finite going.there relay.clock with
    | sent more => exact .inr (Session.effort_lt_of_sent continues after.sent_prefix_ideal more)
    | parked pulling waits => exact .inr (Session.effort_lt_of_parked continues pulling waits)
    | still same | early same | finished same => exact .inl same

theorem Going.onward_receive (going : Going request source relay number session) :
    Onward request source session session.afterReceive := by
  obtain ⟨given, follows⟩ := going.follows
  by_cases waiting : session.channel.received < session.channel.sent.size
  · have closer := Session.effort_lt_of_received going.there follows.sent_prefix_ideal waiting
    obtain ⟨channel, changed, -, capacity, gone⟩ := session.exists_afterReceive
    rw [changed] at closer ⊢
    exact ⟨capacity ▸ going.room, gone.trans going.there, going.uncancelled, .inr closer⟩
  · have nothing : session.afterReceive = session := by
      simp [Session.afterReceive, Channel.receive?, going.there, Nat.le_of_not_lt waiting]
    rw [nothing]
    exact going.onward_refl

theorem Going.onward (going : Going request source relay number session)
    (finite : source.IsFinite) {move : Move} (stays : move ≠ .abandon number) :
    Onward request source session (relay.afterMove number session move) := by
  cases move with
  | poll target =>
      simp only [afterMove, going.handle_eq, going.quiet]
      split
      · exact going.onward_poll finite
      · exact going.onward_refl
  | receive target =>
      simp only [afterMove]
      split
      · exact going.onward_receive
      · exact going.onward_refl
  | abandon target =>
      have other : target ≠ number := fun same => stays (congrArg Move.abandon same)
      simp only [afterMove, if_neg other]
      exact going.onward_refl
  | start | advance | cancelStream | cancelAll => exact going.onward_refl

/-- A session that is not disturbed goes on, and either nothing happens to it or it comes closer to
the end of its stream. -/
theorem Going.move (going : Going request source relay number session) (finite : source.IsFinite)
    {move : Move} (stays : move ≠ .abandon number)
    (uninterrupted : ¬ relay.Interrupts move number) :
    let after := relay.afterMove number session move
    Going request source (relay.move move) number after ∧
      (after = session ∨ after.effort request source < session.effort request source) := by
  have onward := going.onward finite stays
  refine ⟨?_, onward.progress⟩
  exact {
    found := getElem?_sessions_move going.found move
    follows := follows_afterMove going.follows relay number move
    bound := (handed_move going.found going.bound move).1
    room := onward.room
    there := onward.there
    handle_eq := (handle_afterMove relay number session move).trans going.handle_eq
    quiet := not_cancelled_move going.quiet uninterrupted
    uncancelled := onward.uncancelled }

/-- What holds after one operation holds after all that follow. -/
theorem Going.later {schedule : Nat → Move} {count later : Nat}
    (going : Going request source (relay.play (firstMoves schedule count)) number session)
    (finite : source.IsFinite) (undisturbed : relay.Undisturbed schedule number)
    (le : count ≤ later) :
    ∃ after, Going request source (relay.play (firstMoves schedule later)) number after ∧
      (after = session ∨ after.effort request source < session.effort request source) := by
  induction le with
  | refl => exact ⟨session, going, .inl rfl⟩
  | @step last le ih =>
      obtain ⟨between, goingOn, sofar⟩ := ih
      obtain ⟨after, next⟩ := goingOn.move finite (undisturbed.stays last)
        (undisturbed.uninterrupted last)
      rw [← play_firstMoves_succ] at after
      refine ⟨_, after, ?_⟩
      rcases sofar with rfl | closer
      · exact next
      · rcases next with same | closerStill
        · rw [same]
          exact .inr closer
        · exact .inr (Nat.lt_trans closerStill closer)

/-- A session that has ended without being disturbed has sent everything. -/
theorem Going.sent_of_outcome (going : Going request source relay number session)
    {outcome : Outcome} (isOver : session.outcome? = some outcome) :
    session.channel.sent.toList = request.ideal source := by
  obtain ⟨given, follows⟩ := going.follows
  have stage := follows.stage
  have there := going.there
  have phase := Session.outcome?_eq_some_iff.1 isOver
  simp only [Session.Stage, phase] at stage
  cases outcome with
  | completed => exact stage.1
  | cancelled => exact absurd isOver going.uncancelled
  | failed message =>
      rcases stage.1 with sent | ⟨-, gone⟩
      · exact sent
      · rw [there] at gone
        cases gone
  | disconnected =>
      rw [there] at stage
      cases stage.2.2

/-- If nothing waits for the consumer there is room, so a poll brings the session on once what it
pulled is due. -/
theorem Going.poll_closer (going : Going request source relay number session)
    (finite : source.IsFinite) (empty : session.channel.sent.size ≤ session.channel.received)
    (unheard : session.channel.received ≠ (request.ideal source).length)
    (due : ∀ due action, session.phase = .awaiting due action → due ≤ relay.clock) :
    (session.poll false relay.clock).effort request source < session.effort request source := by
  obtain ⟨given, follows⟩ := going.follows
  obtain ⟨more, after⟩ := follows.poll false relay.clock
  have continues := Session.continues_poll false relay.clock session
  have room : session.channel.hasRoom = true := by
    have size := going.room
    apply decide_eq_true
    unfold Channel.waiting
    omega
  cases follows.advanced finite going.there relay.clock with
  | sent more => exact Session.effort_lt_of_sent continues after.sent_prefix_ideal more
  | parked pulling waits => exact Session.effort_lt_of_parked continues pulling waits
  | still same full =>
      rw [room] at full
      cases full
  | early same phase notDue => exact absurd (due _ _ phase) (Nat.not_le_of_lt notDue)
  | finished same ended =>
      have all := congrArg List.length (going.sent_of_outcome ended)
      have bound := going.bound
      rw [Array.length_toList] at all
      omega

/-- As long as the consumer has not received everything, the session comes closer to that. -/
theorem Going.closer {schedule : Nat → Move} {count : Nat}
    (going : Going request source (relay.play (firstMoves schedule count)) number session)
    (finite : source.IsFinite) (fair : relay.Fair schedule number)
    (undisturbed : relay.Undisturbed schedule number)
    (unheard : session.channel.received ≠ (request.ideal source).length) :
    ∃ later after, Going request source (relay.play (firstMoves schedule later)) number after ∧
      after.effort request source < session.effort request source := by
  by_cases waiting : session.channel.received < session.channel.sent.size
  · -- An item waits, and it is received sooner or later.
    obtain ⟨given, follows⟩ := going.follows
    obtain ⟨later, le, receives⟩ := fair.receives count
    obtain ⟨between, goingOn, rfl | closer⟩ := going.later finite undisturbed le
    · have next := (goingOn.move finite (undisturbed.stays later)
        (undisturbed.uninterrupted later)).1
      rw [← play_firstMoves_succ] at next
      refine ⟨later + 1, _, next, ?_⟩
      simp only [receives, afterMove, if_true]
      exact Session.effort_lt_of_received going.there follows.sent_prefix_ideal waiting
    · exact ⟨later, between, goingOn, closer⟩
  · -- Nothing waits, and what has been pulled is due sooner or later.
    obtain ⟨moment, due⟩ : ∃ moment, ∀ due action, session.phase = .awaiting due action →
        due ≤ moment := by
      cases session.phase with
      | awaiting due action => exact ⟨due, fun _ _ same => by cases same; exact Nat.le_refl _⟩
      | created | sending | reporting | closing | ended => exact ⟨0, fun _ _ same => by cases same⟩
    obtain ⟨passed, time⟩ := fair.time moment
    obtain ⟨later, le, polls⟩ := fair.polls (max count passed)
    have afterCount := Nat.le_trans (Nat.le_max_left _ _) le
    have afterPassed := Nat.le_trans (Nat.le_max_right _ _) le
    obtain ⟨between, goingOn, rfl | closer⟩ := going.later finite undisturbed afterCount
    · have next := (goingOn.move finite (undisturbed.stays later)
        (undisturbed.uninterrupted later)).1
      rw [← play_firstMoves_succ] at next
      refine ⟨later + 1, _, next, ?_⟩
      simp only [polls, afterMove, if_true, goingOn.handle_eq, goingOn.quiet]
      apply goingOn.poll_closer finite (Nat.le_of_not_lt waiting) unheard
      intro moment' action phase
      have ready := Nat.le_trans (due moment' action phase) time
      exact Nat.le_trans ready (clock_firstMoves relay schedule afterPassed)
    · exact ⟨later, between, goingOn, closer⟩

/-- So the consumer receives everything in the end. The induction is on what is left to do. -/
theorem Going.received_in_full {schedule : Nat → Move} {count : Nat}
    (going : Going request source (relay.play (firstMoves schedule count)) number session)
    (finite : source.IsFinite) (fair : relay.Fair schedule number)
    (undisturbed : relay.Undisturbed schedule number) :
    ∃ later after, Going request source (relay.play (firstMoves schedule later)) number after ∧
      after.channel.received = (request.ideal source).length := by
  generalize left : session.effort request source = effort
  induction effort using Nat.strongRecOn generalizing count session with
  | ind effort ih =>
      by_cases all : session.channel.received = (request.ideal source).length
      · exact ⟨count, session, going, all⟩
      · obtain ⟨later, after, goingOn, closer⟩ := going.closer finite fair undisturbed all
        exact ih _ (left ▸ closer) goingOn rfl

theorem going_start (reached : relay.Reachable) (capacity : Channel.Capacity)
    (request : SessionRequest) (source : Script) :
    Going request source (relay.move (.start capacity request source)) relay.nextSession
      ((relay.withCapacity capacity).freshSession request source) where
  found := relay.getElem?_sessions_start capacity request source
  follows := ⟨[], follows_freshSession _ request source⟩
  bound := Nat.le_refl 0
  room := Nat.le_max_right capacity 1
  there := rfl
  handle_eq := reached.coherent.length_handles
  quiet := by
    have beyond : relay.registry.handles[relay.nextSession]? = none :=
      List.getElem?_eq_none_iff.2 (Nat.le_of_eq reached.coherent.length_handles)
    have same : (relay.move (.start capacity request source)).registry.handle
        relay.nextSession = relay.registry.handle relay.nextSession := by
      simp [registry_start, enter]
    rw [same]
    simp [Registry.handle, beyond]
  uncancelled := by simp [freshSession, Session.outcome?]

/-- What a stream delivers, whatever the capacity of its channel, if that channel can be made. The
call that starts the session returns. Whatever happens then, what is delivered is a beginning of the
ideal stream, in order, and the outcome fits what has been sent. If nobody interrupts the session
and the consumer goes on receiving, a finite source is delivered in full. -/
theorem delivers_ideal (reached : relay.Reachable) (capacity : Channel.Capacity)
    (request : SessionRequest) (source : Script) :
    let number := relay.nextSession
    let started := relay.move (.start capacity request source)
    (relay.withCapacity capacity).launch request source = .opened started ∧
    (∀ moves, ∃ session, (started.play moves).sessions[number]? = some session ∧
      session.Faithful request source (started.heard number moves)) ∧
    ∀ schedule, source.IsFinite → started.Fair schedule number →
      started.Undisturbed schedule number →
      ∃ count, ∀ later, count ≤ later →
        started.heard number (firstMoves schedule later) = request.ideal source := by
  intro number started
  have faithful (moves : List Move) : ∃ session,
      (started.play moves).sessions[number]? = some session ∧
        session.Faithful request source (started.heard number moves) := by
    obtain ⟨session, found, ⟨given, follows⟩, heard⟩ :=
      relay.follows_play_start capacity request source moves
    exact ⟨session, found, follows.faithful heard⟩
  refine ⟨relay.launch_eq_move capacity request source, faithful, ?_⟩
  intro schedule finite fair undisturbed
  have start : Going request source (started.play (firstMoves schedule 0)) number _ :=
    going_start reached capacity request source
  obtain ⟨count, session, going, all⟩ := start.received_in_full finite fair undisturbed
  have whole : started.heard number (firstMoves schedule count) = request.ideal source := by
    obtain ⟨session', found, ⟨given, follows⟩, heard⟩ :=
      relay.follows_play_start capacity request source (firstMoves schedule count)
    obtain rfl : session = session' := Option.some.inj (going.found.symm.trans found)
    have sent : session.channel.sent.toList = request.ideal source := by
      apply follows.sent_prefix_ideal.eq_of_length_le
      simpa [all] using going.bound
    rw [heard, all, sent, List.take_length]
  refine ⟨count, fun later le => ?_⟩
  -- Nothing that has been handed over is taken back, and there is nothing beyond the ideal stream.
  obtain ⟨rest, more⟩ : ∃ rest, firstMoves schedule later = firstMoves schedule count ++ rest := by
    induction le with
    | refl => exact ⟨[], (List.append_nil _).symm⟩
    | step _ ih =>
        obtain ⟨rest, more⟩ := ih
        exact ⟨rest ++ [schedule _], by rw [firstMoves_succ, more, List.append_assoc]⟩
  obtain ⟨session', -, later⟩ := faithful (firstMoves schedule later)
  have within := (later.heard_prefix.trans later.sent_prefix).length_le
  rw [more, heard_append, whole] at within ⊢
  simp only [List.length_append] at within
  have nothing : (started.play (firstMoves schedule count)).heard number rest = [] :=
    List.eq_nil_of_length_eq_zero (by omega)
  rw [nothing, List.append_nil]

/-- A schedule that polls the first session, lets its consumer receive, and lets time pass. -/
def roundRobin (count : Nat) : Move :=
  match count % 3 with
  | 0 => .poll 0
  | 1 => .receive 0
  | _ => .advance 1

theorem fair_roundRobin (relay : Relay) : relay.Fair roundRobin 0 where
  polls count := by
    refine ⟨3 * count, by omega, ?_⟩
    have turn : 3 * count % 3 = 0 := by omega
    simp [roundRobin, turn]
  receives count := by
    refine ⟨3 * count + 1, by omega, ?_⟩
    have turn : (3 * count + 1) % 3 = 1 := by omega
    simp [roundRobin, turn]
  time moment := by
    refine ⟨3 * moment, ?_⟩
    induction moment with
    | zero => exact Nat.zero_le _
    | succ moment ih =>
        have turn : (3 * moment + 2) % 3 = 2 := by omega
        have advances : roundRobin (3 * moment + 2) = .advance 1 := by simp [roundRobin, turn]
        have before := clock_firstMoves relay roundRobin (show 3 * moment ≤ 3 * moment + 2 by omega)
        rw [show 3 * (moment + 1) = 3 * moment + 2 + 1 by omega, play_firstMoves_succ, advances]
        exact Nat.add_le_add_right (Nat.le_trans ih before) 1

theorem undisturbed_roundRobin (relay : Relay) : relay.Undisturbed roundRobin 0 where
  stays count := by
    unfold roundRobin
    split <;> exact Move.noConfusion
  uninterrupted count interrupts := by
    generalize next : roundRobin count = move at interrupts
    unfold roundRobin at next
    split at next <;> cases next <;> cases interrupts

/-- A greeting is delivered in full through a channel that holds one item. -/
theorem delivers_greeting :
    let request : SessionRequest :=
      { requestId := "r1", conversationId := "c1", owner := "alice", query := "q" }
    let source := Script.ofFragments ["Hello", " there"] {}
    let started := (new 1 .discard).move (.start .single request source)
    (new 1 .discard).Reachable ∧ source.IsFinite ∧ started.Fair roundRobin 0 ∧
      started.Undisturbed roundRobin 0 ∧
      ∃ count, ∀ later, count ≤ later →
        started.heard 0 (firstMoves roundRobin later) = request.ideal source := by
  intro request source started
  have reached := Reachable.new 1 .discard
  have finite : source.IsFinite := .inl rfl
  have fair := fair_roundRobin started
  have undisturbed := undisturbed_roundRobin started
  obtain ⟨-, -, delivers⟩ := delivers_ideal reached .single request source
  exact ⟨reached, finite, fair, undisturbed, delivers roundRobin finite fair undisturbed⟩

/-- Where no session has been added, none is added without a start. -/
theorem sessions_move_of_empty {relay : Relay} (empty : relay.sessions = []) {move : Move}
    (kept : move.isStart = false) : (relay.move move).sessions = [] := by
  rw [← List.length_eq_zero_iff, length_sessions_move, empty]
  cases move with
  | start => cases kept
  | poll | advance | receive | abandon | cancelStream | cancelAll => rfl

/-- So nobody is handed anything. -/
theorem heard_of_empty {relay : Relay} (empty : relay.sessions = []) {moves : List Move}
    (kept : ∀ move ∈ moves, move.isStart = false) (number : Nat) :
    relay.heard number moves = [] := by
  induction moves generalizing relay with
  | nil => rfl
  | cons move moves ih =>
      have first := kept move List.mem_cons_self
      have nothing : relay.handed number move = [] := by
        cases move with
        | receive target => simp [handed, receive, empty]
        | start | poll | advance | abandon | cancelStream | cancelAll => rfl
      rw [heard, nothing, List.nil_append]
      exact ih (sessions_move_of_empty empty first)
        fun later inside => kept later (List.mem_cons_of_mem _ inside)

theorem isStart_roundRobin (count : Nat) : (roundRobin count).isStart = false := by
  unfold roundRobin
  split <;> rfl

/-- Nothing of the greeting is delivered if its channel is to hold one item more than a channel can
be made for. The call that starts the session is broken off, and whoever goes on polling and
receiving waits in vain. -/
theorem oversized_channel_delivers_nothing :
    let request : SessionRequest :=
      { requestId := "r1", conversationId := "c1", owner := "alice", query := "q" }
    let source := Script.ofFragments ["Hello", " there"] {}
    let relay := (new 1 .discard).withCapacity 2305843009213693952
    1 ≤ relay.capacity ∧ source.IsFinite ∧ (request.ideal source).length = 4 ∧
      ∃ left, relay.launch request source = .brokenOff left ∧
        left.Fair roundRobin relay.nextSession ∧ left.Undisturbed roundRobin relay.nextSession ∧
        ∀ count, left.heard relay.nextSession (firstMoves roundRobin count) = [] := by
  intro request source relay
  refine ⟨by decide, .inl rfl, by decide, _, launch_eq_brokenOff relay request source (by decide),
    fair_roundRobin _, undisturbed_roundRobin _, fun count => heard_of_empty rfl ?_ _⟩
  intro move inside
  obtain ⟨place, -, rfl⟩ := List.mem_map.1 inside
  exact isStart_roundRobin place

end TokenRelay.Relay
