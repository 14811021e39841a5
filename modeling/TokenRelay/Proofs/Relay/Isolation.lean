/-
# Sessions are isolated

Supplies that a session goes its own way. From a run of the relay, take away what is done to the
other sessions, and every interrupt that does not come from the owner of the session: what is left
is a run in which the session is alone, sends and hands over the same, ends in the same way, and
leaves the same record. The proof goes through both runs side by side. The two relays agree on the
session, on whether it has been told to stop, on the time, and on its records, and nothing else
counts.
-/

import TokenRelay.Proofs.Relay.Delivery
import TokenRelay.Proofs.Relay.Interruption
import TokenRelay.Proofs.Relay.Mirror
import TokenRelay.Proofs.Relay.Records

namespace TokenRelay

namespace Session

/-- The session with another handle. -/
def withHandle (session : Session) (handle : Nat) : Session := { session with handle }

variable (session : Session) (handle : Nat)

theorem report_withHandle (error : StreamError) :
    (session.withHandle handle).report error = (session.report error).withHandle handle := by
  by_cases gone : session.channel.abandoned = true
  · simp [report, withHandle, finish, gone]
  · by_cases room : session.channel.hasRoom = true
    · simp [report, withHandle, finish, gone, room]
    · simp [report, withHandle, gone, room]

theorem close_withHandle : (session.withHandle handle).close = session.close.withHandle handle := by
  by_cases gone : session.channel.abandoned = true
  · simp [close, withHandle, finish, gone]
  · by_cases room : session.channel.hasRoom = true
    · simp [close, withHandle, finish, emit, endEvent, gone, room]
    · simp [close, withHandle, gone, room]

theorem forward_withHandle (now : Nat) (steps : List Step) :
    (session.withHandle handle).forward now steps =
      (session.forward now steps).withHandle handle := by
  induction steps generalizing session with
  | nil =>
      have closed := close_withHandle { session with source := { session.source with steps := [] } }
        handle
      by_cases endless : session.source.endless = true
      · simp [forward, withHandle, endless]
      · simpa [forward, withHandle, endless] using closed
  | cons step rest ih =>
      by_cases late : 0 < step.delay
      · simp [forward, withHandle, late]
      · cases action : step.action with
        | fragment text =>
            have sent := ih (session.sendToken text)
            by_cases room : session.channel.hasRoom = true
            · simpa [forward, withHandle, sendToken, emit, late, action, room] using sent
            · simp [forward, withHandle, late, action, room]
        | fail error =>
            have reported := report_withHandle
              { session with source := { session.source with steps := rest } } handle error
            simpa [forward, withHandle, late, action] using reported
        | finish =>
            have closed := close_withHandle
              { session with source := { session.source with steps := rest } } handle
            simpa [forward, withHandle, late, action] using closed
        | hang | crash => simp [forward, withHandle, finish, late, action]

/-- A session does not look at the number of its handle. -/
theorem poll_withHandle (cancelled : Bool) (now : Nat) :
    (session.withHandle handle).poll cancelled now =
      (session.poll cancelled now).withHandle handle := by
  have step := polled cancelled now session
  generalize after : session.poll cancelled now = later at step
  cases step with
  | ended phase => simp [poll, withHandle, phase]
  | reported phase =>
      rw [← report_withHandle]
      simp [poll, withHandle, phase]
  | closed phase =>
      rw [← close_withHandle]
      simp [poll, withHandle, phase]
  | stopped stoppable signal =>
      subst signal
      have twin : (session.withHandle handle).isStoppable = true := stoppable
      exact poll_of_stoppable twin now
  | deserted stoppable quiet gone =>
      unfold isStoppable at stoppable
      cases phase : session.phase with
      | created | awaiting | sending => simp [poll, withHandle, finish, phase, quiet, gone]
      | reporting | closing | ended => simp [phase] at stoppable
  | opened phase quiet there =>
      rw [← forward_withHandle]
      simp [poll, withHandle, phase, quiet, there, emit, startEvent]
  | waited phase quiet there early =>
      simp [poll, withHandle, phase, quiet, there, Nat.not_le_of_lt early]
  | pulled phase quiet there ready =>
      rw [← forward_withHandle]
      simp [poll, withHandle, phase, quiet, there, ready]
  | resumed phase quiet there =>
      rw [← forward_withHandle]
      simp [poll, withHandle, phase, quiet, there]

theorem afterReceive_withHandle :
    (session.withHandle handle).afterReceive = session.afterReceive.withHandle handle := by
  unfold afterReceive
  by_cases gone : session.channel.abandoned = true
  · rw [if_pos gone]
    exact if_pos gone
  · rw [if_neg gone]
    refine (if_neg gone).trans ?_
    simp only [withHandle]
    cases session.channel.receive? <;> rfl

end Session

namespace Relay

/-- A handle is told to stop by an interrupt, and then it stays told. -/
theorem Coherent.cancelled_move_iff {relay : Relay} (coherent : relay.Coherent) (number : Nat)
    (move : Move) :
    ((relay.move move).registry.handle number).cancelled = true ↔
      (relay.registry.handle number).cancelled = true ∨ relay.Interrupts move number := by
  constructor
  · intro told
    rcases cancelled_move_eq relay number move with same | ⟨interrupts, -⟩
    · exact .inl (same.symm.trans told)
    · exact .inr interrupts
  · rintro (told | interrupts)
    · exact cancelled_move told move
    · obtain ⟨-, -, -, -, told⟩ := interrupts.found coherent
      exact told

/-- The session at a place is not past its source and has not been told to stop. -/
structure Open (relay : Relay) (number : Nat) (session : Session) : Prop where
  found : relay.sessions[number]? = some session
  goesOn : session.isFinished = false
  quiet : (relay.registry.handle number).cancelled = false

/-- A record whose handle is not done is that of an open session. -/
theorem Coherent.open_of_running {relay : Relay} (coherent : relay.Coherent) {requestId : String}
    {stream : ActiveStream} (found : relay.registry.lookup requestId = some stream)
    (running : (relay.registry.handle stream.handle).isDone = false) :
    ∃ session, relay.Open stream.handle session ∧ session.request.requestId = requestId ∧
      session.request.owner = stream.owner := by
  obtain ⟨session, place, identifier, owner, -⟩ := coherent.registered found
  simp only [Handle.isDone, Bool.or_eq_false_iff] at running
  refine ⟨session, ⟨place, ?_, running.2⟩, identifier, owner⟩
  rw [← coherent.finished_eq place, running.1]

/-- An open session has a record, and its handle is not done. -/
theorem Open.running {relay : Relay} {number : Nat} {session : Session}
    (isOpen : relay.Open number session) (reached : relay.Reachable) (distinct : relay.Distinct) :
    relay.registry.lookup session.request.requestId = some ⟨session.request.owner, number⟩ ∧
      (relay.registry.handle number).isDone = false := by
  have unended : session.outcome? = none := by
    have goesOn := isOpen.goesOn
    cases phase : session.phase with
    | ended | closing => simp [Session.isFinished, phase] at goesOn
    | created | awaiting | sending | reporting => simp [Session.outcome?, phase]
  refine ⟨reached.enrolled distinct isOpen.found unended, ?_⟩
  simp [Handle.isDone, reached.coherent.finished_eq isOpen.found, isOpen.goesOn, isOpen.quiet]

/-- An interrupt by a caller is accepted for the session with the identifier, if the caller owns it
and it is open. -/
theorem Reachable.interrupts_cancelStream_iff {relay : Relay} (reached : relay.Reachable)
    (distinct : relay.Distinct) {requestId caller : String} {number : Nat} :
    relay.Interrupts (.cancelStream requestId caller) number ↔
      ∃ session, relay.Open number session ∧ session.request.requestId = requestId ∧
        session.request.owner = caller := by
  constructor
  · rintro ⟨⟩
    next stream found accepted =>
      obtain ⟨stream', found', owned, running⟩ :=
        (relay.registry.cancelStream_eq_cancelled_iff requestId caller).1 accepted
      obtain rfl : stream = stream' := Option.some.inj (found.symm.trans found')
      obtain ⟨session, isOpen, identifier, owner⟩ :=
        reached.coherent.open_of_running found running
      exact ⟨session, isOpen, identifier, owner.trans owned⟩
  · rintro ⟨session, isOpen, rfl, rfl⟩
    obtain ⟨found, running⟩ := isOpen.running reached distinct
    exact .caller found ((relay.registry.cancelStream_eq_cancelled_iff _ _).2
      ⟨_, found, rfl, running⟩)

/-- A shutdown is accepted for every session that is open. -/
theorem Reachable.interrupts_cancelAll_iff {relay : Relay} (reached : relay.Reachable)
    (distinct : relay.Distinct) {number : Nat} :
    relay.Interrupts .cancelAll number ↔ ∃ session, relay.Open number session := by
  constructor
  · rintro ⟨⟩
    next requestId stream found running =>
      obtain ⟨session, isOpen, -⟩ := reached.coherent.open_of_running found running
      exact ⟨session, isOpen⟩
  · rintro ⟨session, isOpen⟩
    obtain ⟨found, running⟩ := isOpen.running reached distinct
    exact .shutdown found running

end Relay

/-- What is left of an operation for the session at a place, started for a request: what is done to
the session, which has the first place when it is alone, the interrupts of its owner, and what
happens to everybody. -/
def Move.regarding (number : Nat) (request : SessionRequest) : Move → Option Move
  | .start capacity other source =>
    if other.requestId = request.requestId then some (.start capacity other source) else none
  | .poll target => if target = number then some (.poll 0) else none
  | .advance milliseconds => some (.advance milliseconds)
  | .receive target => if target = number then some (.receive 0) else none
  | .abandon target => if target = number then some (.abandon 0) else none
  | .cancelStream requestId caller =>
    if requestId = request.requestId ∧ caller = request.owner then
      some (.cancelStream requestId caller)
    else none
  | .cancelAll => some .cancelAll

/-- Of a start, all is left or nothing, and of nothing else a start is left. -/
theorem Move.regarding_eq_start {number : Nat} {request other : SessionRequest} {move : Move}
    {capacity : Channel.Capacity} {source : Script}
    (kept : move.regarding number request = some (.start capacity other source)) :
    move = .start capacity other source ∧ other.requestId = request.requestId := by
  cases move with
  | start =>
      obtain ⟨condition, same⟩ := Option.ite_none_right_eq_some.1 kept
      cases same
      exact ⟨rfl, condition⟩
  | cancelStream | poll | receive | abandon =>
      obtain ⟨-, same⟩ := Option.ite_none_right_eq_some.1 kept
      cases same
  | advance | cancelAll => cases kept

namespace Relay

/-- The session at a place is the one started for a request, and every other session has another
identifier. -/
def Singles (relay : Relay) (number : Nat) (request : SessionRequest) : Prop :=
  ∀ ⦃place : Nat⦄ ⦃session : Session⦄, relay.sessions[place]? = some session →
    (place = number ∧ session.request = request) ∨
      (place ≠ number ∧ session.request.requestId ≠ request.requestId)

theorem Distinct.singles {relay : Relay} (distinct : relay.Distinct) {number : Nat}
    {session : Session} (found : relay.sessions[number]? = some session) :
    relay.Singles number session.request := by
  intro place other there
  by_cases same : place = number
  · subst place
    exact .inl ⟨rfl, congrArg Session.request (Option.some.inj (there.symm.trans found))⟩
  · exact .inr ⟨same, fun equal => same (distinct.place_eq there found equal)⟩

theorem Singles.of_move {relay : Relay} {move : Move} {number : Nat} {request : SessionRequest}
    (singles : (relay.move move).Singles number request) : relay.Singles number request := by
  intro place session found
  have next := singles (getElem?_sessions_move found move)
  rwa [request_afterMove] at next

theorem Singles.of_play {relay : Relay} {moves : List Move} {number : Nat}
    {request : SessionRequest} (singles : (relay.play moves).Singles number request) :
    relay.Singles number request := by
  induction moves generalizing relay with
  | nil => exact singles
  | cons move moves ih => exact (ih singles).of_move

/-- The second relay has the session at a place of the first one for itself. -/
structure Twin (number : Nat) (request : SessionRequest) (relay alone : Relay) : Prop where
  clock_eq : alone.clock = relay.clock
  transcripts_eq : alone.transcripts = relay.transcripts
  records_eq : alone.records = relay.records.filter (·.requestId = request.requestId)
  session_eq : alone.sessions[0]? = relay.sessions[number]?.map (·.withHandle 0)
  length_le : alone.sessions.length ≤ 1
  cancelled_eq :
    (alone.registry.handle 0).cancelled = (relay.registry.handle number).cancelled

variable {number : Nat} {request : SessionRequest} {relay alone : Relay}

theorem twin_new (capacity : Nat) (transcripts : TranscriptPolicy) (number : Nat)
    (request : SessionRequest) :
    Twin number request (new capacity transcripts) (new capacity transcripts) where
  clock_eq := rfl
  transcripts_eq := rfl
  records_eq := rfl
  session_eq := rfl
  length_le := Nat.zero_le 1
  cancelled_eq := rfl

theorem Twin.distinct (twin : Twin number request relay alone) : alone.Distinct := by
  have short := twin.length_le
  unfold Distinct
  match sessions : alone.sessions with
  | [] => exact List.nodup_nil
  | [_] => exact List.nodup_cons.2 ⟨List.not_mem_nil, List.nodup_nil⟩
  | _ :: _ :: _ => simp [sessions] at short

/-- A start is that of the session exactly if it is for the identifier of the session. -/
theorem Singles.of_start {capacity : Channel.Capacity} {other : SessionRequest} {source : Script}
    (singles : (relay.move (.start capacity other source)).Singles number request) :
    (relay.nextSession = number ∧ other = request) ∨
      (relay.nextSession ≠ number ∧ other.requestId ≠ request.requestId) :=
  singles (relay.getElem?_sessions_start capacity other source)

/-- What an operation does to the session, what is left of it does to the twin. -/
theorem Twin.afterMove_eq (twin : Twin number request relay alone) {session : Session}
    (handleNumber : session.handle = number) (move : Move) :
    (∀ own, move.regarding number request = some own →
        alone.afterMove 0 (session.withHandle 0) own =
          (relay.afterMove number session move).withHandle 0) ∧
      (move.regarding number request = none → relay.afterMove number session move = session) := by
  cases move with
  | start capacity other source =>
      refine ⟨fun own kept => ?_, fun _ => rfl⟩
      obtain ⟨-, same⟩ := Option.ite_none_right_eq_some.1 kept
      cases same
      rfl
  | cancelStream requestId caller =>
      refine ⟨fun own kept => ?_, fun _ => rfl⟩
      obtain ⟨-, same⟩ := Option.ite_none_right_eq_some.1 kept
      cases same
      rfl
  | advance | cancelAll =>
      refine ⟨fun own kept => ?_, fun _ => rfl⟩
      cases kept
      rfl
  | poll target =>
      have polled : (session.withHandle 0).poll (alone.registry.handle 0).cancelled alone.clock =
          (session.poll (relay.registry.handle session.handle).cancelled relay.clock).withHandle
            0 := by
        rw [Session.poll_withHandle, twin.cancelled_eq, twin.clock_eq, handleNumber]
      by_cases same : target = number
      · rw [Move.regarding, if_pos same, Relay.afterMove, if_pos same]
        refine ⟨fun own kept => ?_, fun absent => absurd absent (Option.some_ne_none _)⟩
        cases kept
        exact polled
      · simp [Move.regarding, afterMove, same]
  | receive target =>
      by_cases same : target = number
      · simp [Move.regarding, afterMove, same, session.afterReceive_withHandle 0]
      · simp [Move.regarding, afterMove, same]
  | abandon target =>
      by_cases same : target = number
      · simp [Move.regarding, afterMove, same, Session.afterAbandon, Session.withHandle]
      · simp [Move.regarding, afterMove, same]

/-- An operation that is not a start of the session adds no session at its place. -/
theorem getElem?_sessions_move_of_none {move : Move} (free : relay.sessions[number]? = none)
    (noStart : ∀ capacity other source, move = .start capacity other source →
      relay.nextSession ≠ number) : (relay.move move).sessions[number]? = none := by
  cases found : (relay.move move).sessions[number]? with
  | none => rfl
  | some session =>
      obtain ⟨capacity, other, source, start, place, -⟩ := start_of_getElem?_sessions free found
      exact absurd place.symm (noStart capacity other source start)

theorem Twin.length_eq_zero (twin : Twin number request relay alone)
    (free : relay.sessions[number]? = none) : alone.sessions.length = 0 := by
  have empty := twin.session_eq
  rw [free, Option.map_none, List.getElem?_eq_none_iff] at empty
  exact Nat.le_zero.1 empty

/-- Both sessions start in the same way, and the twin gets the first handle. -/
theorem Twin.getElem?_sessions_start (twin : Twin number request relay alone)
    (coherent' : alone.Coherent) (place : relay.nextSession = number) (capacity : Channel.Capacity)
    (source : Script) :
    (alone.move (.start capacity request source)).sessions[0]? =
      (relay.move (.start capacity request source)).sessions[number]?.map (·.withHandle 0) := by
  have empty : alone.sessions.length = 0 :=
    twin.length_eq_zero (List.getElem?_eq_none (Nat.le_of_eq place))
  have added := alone.getElem?_sessions_start capacity request source
  rw [nextSession, empty] at added
  rw [added, ← place, relay.getElem?_sessions_start]
  simp [freshSession, withCapacity, Session.withHandle, Registry.nextHandle,
    coherent'.length_handles, empty]

/-- The session and its twin stay the same. -/
theorem Twin.session_move (twin : Twin number request relay alone) (coherent : relay.Coherent)
    (coherent' : alone.Coherent) {move : Move}
    (singles : (relay.move move).Singles number request) :
    (alone.play (move.regarding number request).toList).sessions[0]? =
      (relay.move move).sessions[number]?.map (·.withHandle 0) := by
  have same := twin.session_eq
  cases found : relay.sessions[number]? with
  | some session =>
      rw [found] at same
      obtain ⟨kept, dropped⟩ := twin.afterMove_eq (coherent.handle_eq found) move
      rw [getElem?_sessions_move found, Option.map_some]
      cases left : move.regarding number request with
      | none => rw [dropped left]; exact same
      | some own =>
          rw [← kept own left]
          exact getElem?_sessions_move same own
  | none =>
      rw [found] at same
      by_cases starts : ∃ capacity other source, move = .start capacity other source
      · obtain ⟨capacity, other, source, rfl⟩ := starts
        rcases singles.of_start with ⟨place, rfl⟩ | ⟨elsewhere, different⟩
        · rw [Move.regarding, if_pos rfl]
          exact twin.getElem?_sessions_start coherent' place capacity source
        · rw [getElem?_sessions_move_of_none found fun _ _ _ _ => elsewhere, Move.regarding,
            if_neg different]
          exact same
      · rw [getElem?_sessions_move_of_none found fun capacity other source start =>
          absurd ⟨capacity, other, source, start⟩ starts]
        cases left : move.regarding number request with
        | none => exact same
        | some own =>
            refine getElem?_sessions_move_of_none same ?_
            rintro capacity other source rfl
            exact absurd ⟨capacity, other, source, (Move.regarding_eq_start left).1⟩ starts

theorem Twin.length_move (twin : Twin number request relay alone) {move : Move}
    (singles : (relay.move move).Singles number request) :
    (alone.play (move.regarding number request).toList).sessions.length ≤ 1 := by
  cases left : move.regarding number request with
  | none => exact twin.length_le
  | some own =>
      rw [Option.toList_some, play_cons, play_nil, length_sessions_move]
      cases own with
      | start capacity other source =>
          obtain ⟨rfl, same⟩ := Move.regarding_eq_start left
          rcases singles.of_start with ⟨place, -⟩ | ⟨-, different⟩
          · have empty := twin.length_eq_zero (List.getElem?_eq_none (Nat.le_of_eq place))
            simp [empty]
          · exact absurd same different
      | poll | advance | receive | abandon | cancelStream | cancelAll => exact twin.length_le

/-- The twin is open when the session is. -/
theorem Twin.open_iff (twin : Twin number request relay alone) {after : Session} :
    alone.Open 0 after ↔ ∃ session, relay.Open number session ∧ after = session.withHandle 0 := by
  constructor
  · rintro ⟨found, goesOn, quiet⟩
    rw [twin.session_eq] at found
    obtain ⟨session, there, rfl⟩ := Option.map_eq_some_iff.1 found
    exact ⟨session, ⟨there, goesOn, twin.cancelled_eq.symm.trans quiet⟩, rfl⟩
  · rintro ⟨session, ⟨found, goesOn, quiet⟩, rfl⟩
    refine ⟨?_, goesOn, twin.cancelled_eq.trans quiet⟩
    rw [twin.session_eq, found]
    rfl

/-- The twin is interrupted when the session is, and no other interrupt is left. -/
theorem Twin.interrupts_iff (twin : Twin number request relay alone) (reached : relay.Reachable)
    (reached' : alone.Reachable) (distinct : relay.Distinct)
    (singles : relay.Singles number request) (move : Move) :
    relay.Interrupts move number ↔
      ∃ own, move.regarding number request = some own ∧ alone.Interrupts own 0 := by
  have requestOf {session : Session} (isOpen : relay.Open number session) :
      session.request = request := by
    rcases singles isOpen.found with ⟨-, same⟩ | ⟨other, -⟩
    · exact same
    · exact absurd rfl other
  cases move with
  | cancelStream requestId caller =>
      rw [reached.interrupts_cancelStream_iff distinct]
      constructor
      · rintro ⟨session, isOpen, rfl, rfl⟩
        refine ⟨_, if_pos (by simp [requestOf isOpen]), ?_⟩
        rw [reached'.interrupts_cancelStream_iff twin.distinct]
        exact ⟨_, twin.open_iff.2 ⟨session, isOpen, rfl⟩, rfl, rfl⟩
      · rintro ⟨own, kept, interrupts⟩
        obtain ⟨-, same⟩ := Option.ite_none_right_eq_some.1 kept
        cases same
        obtain ⟨after, isOpen', rfl, rfl⟩ :=
          (reached'.interrupts_cancelStream_iff twin.distinct).1 interrupts
        obtain ⟨session, isOpen, rfl⟩ := twin.open_iff.1 isOpen'
        exact ⟨session, isOpen, rfl, rfl⟩
  | cancelAll =>
      rw [reached.interrupts_cancelAll_iff distinct]
      constructor
      · rintro ⟨session, isOpen⟩
        refine ⟨_, rfl, (reached'.interrupts_cancelAll_iff twin.distinct).2 ?_⟩
        exact ⟨_, twin.open_iff.2 ⟨session, isOpen, rfl⟩⟩
      · rintro ⟨own, kept, interrupts⟩
        cases kept
        obtain ⟨after, isOpen'⟩ := (reached'.interrupts_cancelAll_iff twin.distinct).1 interrupts
        obtain ⟨session, isOpen, -⟩ := twin.open_iff.1 isOpen'
        exact ⟨session, isOpen⟩
  | start | poll | receive | abandon =>
      refine ⟨nofun, ?_⟩
      rintro ⟨own, kept, interrupts⟩
      obtain ⟨-, same⟩ := Option.ite_none_right_eq_some.1 kept
      cases same
      cases interrupts
  | advance =>
      refine ⟨nofun, ?_⟩
      rintro ⟨own, kept, interrupts⟩
      cases kept
      cases interrupts

/-- The session and its twin have been told to stop, or neither of them. -/
theorem Twin.cancelled_move (twin : Twin number request relay alone) (reached : relay.Reachable)
    (reached' : alone.Reachable) (distinct : relay.Distinct)
    (singles : relay.Singles number request) (move : Move) :
    ((alone.play (move.regarding number request).toList).registry.handle 0).cancelled =
      ((relay.move move).registry.handle number).cancelled := by
  rw [Bool.eq_iff_iff, reached.coherent.cancelled_move_iff,
    twin.interrupts_iff reached reached' distinct singles]
  cases left : move.regarding number request with
  | none => simp [twin.cancelled_eq]
  | some own =>
      simp only [Option.toList_some, play_cons, play_nil, reached'.coherent.cancelled_move_iff,
        twin.cancelled_eq, Option.some.injEq, exists_eq_left']

theorem Twin.transcriptOf_eq (twin : Twin number request relay alone) (session : Session) :
    alone.transcriptOf (session.withHandle 0) = relay.transcriptOf session := by
  rw [transcriptOf, transcriptOf, twin.transcripts_eq, twin.clock_eq]
  rfl

/-- Of the records that an operation adds, those of the session are added for the twin. -/
theorem Twin.handedOver_eq (twin : Twin number request relay alone) (coherent : relay.Coherent)
    (singles : relay.Singles number request) (move : Move) :
    (relay.handedOver move).filter (·.requestId = request.requestId) =
      ((move.regarding number request).toList.flatMap alone.handedOver) := by
  cases move with
  | poll target =>
      by_cases same : target = number
      · subst target
        have own : ∀ record ∈ relay.handedOver (.poll number),
            decide (record.requestId = request.requestId) = true := by
          intro record inside
          obtain ⟨session, found, identifier⟩ := requestId_of_mem_handedOver inside
          rcases singles found with ⟨-, rfl⟩ | ⟨other, -⟩
          · exact decide_eq_true identifier
          · exact absurd rfl other
        rw [List.filter_eq_self.2 own, Move.regarding, if_pos rfl, Option.toList_some,
          List.flatMap_singleton]
        have there := twin.session_eq
        cases found : relay.sessions[number]? with
        | none =>
            rw [found] at there
            simp [handedOver, found, there]
        | some session =>
            rw [found] at there
            have polled := (twin.afterMove_eq (coherent.handle_eq found) (.poll number)).1 _
              (if_pos rfl)
            rw [handedOver_poll found, handedOver_poll there, polled, twin.transcriptOf_eq]
            rfl
      · rw [Move.regarding, if_neg same, Option.toList_none, List.flatMap_nil,
          List.filter_eq_nil_iff]
        intro record inside
        obtain ⟨session, found, identifier⟩ := requestId_of_mem_handedOver inside
        rcases singles found with ⟨place, -⟩ | ⟨-, different⟩
        · exact absurd place same
        · simpa [identifier] using different
  | start | cancelStream | receive | abandon =>
      rw [Move.regarding]
      split <;> rfl
  | advance | cancelAll => rfl

/-- No operation is left out that lets time pass. -/
theorem elapsed_regarding (number : Nat) (request : SessionRequest) (move : Move) :
    (move.regarding number request).elim 0 Move.elapsed = move.elapsed := by
  cases move with
  | start | cancelStream | poll | receive | abandon =>
      rw [Move.regarding]
      split <;> rfl
  | advance | cancelAll => rfl

/-- Whatever is done to the session and around it, the twin stays its twin. -/
theorem Twin.move (twin : Twin number request relay alone) (reached : relay.Reachable)
    (reached' : alone.Reachable) (distinct : relay.Distinct) {move : Move}
    (singles : (relay.move move).Singles number request) :
    Twin number request (relay.move move) (alone.play (move.regarding number request).toList) := by
  obtain ⟨clock, transcripts, records⟩ := shared_move relay move
  have time := elapsed_regarding number request move
  have left := twin.handedOver_eq reached.coherent singles.of_move move
  constructor
  case session_eq => exact twin.session_move reached.coherent reached'.coherent singles
  case length_le => exact twin.length_move singles
  case cancelled_eq => exact twin.cancelled_move reached reached' distinct singles.of_move move
  case clock_eq =>
    rw [clock, ← time]
    cases move.regarding number request with
    | none => simp [twin.clock_eq]
    | some own => simp [(shared_move alone own).1, twin.clock_eq]
  case transcripts_eq =>
    rw [transcripts]
    cases move.regarding number request with
    | none => exact twin.transcripts_eq
    | some own => exact (shared_move alone own).2.1.trans twin.transcripts_eq
  case records_eq =>
    rw [records, List.filter_append, left, ← twin.records_eq]
    cases move.regarding number request with
    | none => simp
    | some own => simp [(shared_move alone own).2.2]

/-- A consumer that asks the twin gets the answer of the session. -/
theorem Twin.receive_eq (twin : Twin number request relay alone) :
    (alone.receive 0).1 = (relay.receive number).1 := by
  have there := twin.session_eq
  unfold receive
  cases found : relay.sessions[number]? with
  | none =>
      rw [found] at there
      simp [there]
  | some session =>
      rw [found] at there
      simp only [there, Option.map_some, Session.withHandle]
      by_cases gone : session.channel.abandoned = true
      · rw [if_pos gone, if_pos gone]
      · rw [if_neg gone, if_neg gone]
        cases session.channel.receive? <;> rfl

/-- The consumer of the twin is handed what the consumer of the session is handed. -/
theorem Twin.handed_eq (twin : Twin number request relay alone) (move : Move) :
    alone.heard 0 (move.regarding number request).toList = relay.handed number move := by
  cases move with
  | receive target =>
      by_cases same : target = number
      · subst target
        rw [Move.regarding, if_pos rfl, Option.toList_some, heard, heard, List.append_nil]
        simp only [handed, if_true, twin.receive_eq]
      · rw [Move.regarding, if_neg same, handed, if_neg same]
        rfl
  | start | cancelStream | poll | abandon =>
      rw [Move.regarding]
      split <;> rfl
  | advance | cancelAll => rfl

/-- From one operation to the next, the session and its twin go through a whole run. -/
theorem Twin.play (twin : Twin number request relay alone) (reached : relay.Reachable)
    (reached' : alone.Reachable) {moves : List Move} (distinct : (relay.play moves).Distinct)
    (singles : (relay.play moves).Singles number request) :
    Twin number request (relay.play moves)
        (alone.play (moves.filterMap (Move.regarding number request))) ∧
      alone.heard 0 (moves.filterMap (Move.regarding number request)) =
        relay.heard number moves := by
  induction moves generalizing relay alone with
  | nil => exact ⟨twin, rfl⟩
  | cons move moves ih =>
      have parts : (move :: moves).filterMap (Move.regarding number request) =
          (move.regarding number request).toList ++
            moves.filterMap (Move.regarding number request) := by
        rw [List.filterMap_cons]
        cases move.regarding number request <;> rfl
      have next := twin.move reached reached' (@Distinct.of_play relay (move :: moves) distinct)
        (Singles.of_play singles)
      obtain ⟨after, heard⟩ := ih next (reached.move move) (reached'.play _) distinct singles
      rw [parts, play_append, heard_append, heard, twin.handed_eq]
      exact ⟨after, rfl⟩

private theorem eq_singleton_of_first {α : Type} {entries : List α} {entry : α}
    (short : entries.length ≤ 1) (first : entries[0]? = some entry) : entries = [entry] := by
  match entries with
  | [] => cases first
  | [_] => simpa using first
  | _ :: _ :: _ => simp at short

/-- Sessions with identifiers of their own are isolated from each other and from strangers. If what
is done to other sessions is left out of a run, and every interrupt but those of its owner, a
session is alone with a channel in which the same has been sent and received; its consumer has been
handed the same, it has ended in the same way, if it has, and has left the same record, down to the
time. -/
theorem sessions_isolated (capacity : Nat) (transcripts : TranscriptPolicy) (moves : List Move)
    (distinct : ((new capacity transcripts).play moves).Distinct) {number : Nat}
    {session : Session}
    (found : ((new capacity transcripts).play moves).sessions[number]? = some session) :
    let own := moves.filterMap (Move.regarding number session.request)
    let alone := (new capacity transcripts).play own
    ∃ twin, alone.sessions = [twin] ∧ twin.request = session.request ∧
      twin.channel = session.channel ∧ twin.outcome? = session.outcome? ∧
      (new capacity transcripts).heard 0 own = (new capacity transcripts).heard number moves ∧
      alone.records = ((new capacity transcripts).play moves).records.filter
        (·.requestId = session.request.requestId) := by
  intro own alone
  have reached := Reachable.new capacity transcripts
  obtain ⟨twin, heard⟩ := (twin_new capacity transcripts number session.request).play reached
    reached distinct (distinct.singles found)
  have there := twin.session_eq
  rw [found, Option.map_some] at there
  have single := eq_singleton_of_first twin.length_le there
  exact ⟨session.withHandle 0, single, rfl, rfl, rfl, heard, twin.records_eq⟩

/-- The start of Bob's session. -/
def bobsStart : Move :=
  .start .ample { requestId := "r2", conversationId := "c2", owner := "bob", query := "q" }
    { steps := [{ action := .fragment "b" }], endless := true }

/-- Bob's session in the company of another. Alice tries to interrupt it, Bob tries to interrupt
hers, and then he interrupts his own. -/
def rivals : List Move :=
  [.start .ample { requestId := "r1", conversationId := "c1", owner := "alice", query := "q" }
      (.ofFragments ["a"] {}),
    bobsStart, .poll 0, .poll 1, .cancelStream "r2" "alice", .cancelStream "r1" "bob",
    .receive 1, .receive 0, .cancelStream "r2" "bob", .poll 1, .poll 0]

/-- Bob gets what he gets without the other session. -/
theorem isolated_rivals :
    let bobsOwn := [bobsStart, .poll 0, .receive 0, .cancelStream "r2" "bob", .poll 0]
    ((new 8 (.keep true)).play rivals).Distinct ∧
      ∃ twin, ((new 8 (.keep true)).play bobsOwn).sessions = [twin] ∧
        twin.outcome? = some .cancelled ∧
        (new 8 (.keep true)).heard 0 bobsOwn = (new 8 (.keep true)).heard 1 rivals ∧
        ((new 8 (.keep true)).play bobsOwn).records =
          ((new 8 (.keep true)).play rivals).records.filter (·.requestId = "r2") := by
  have distinct : ((new 8 (.keep true)).play rivals).Distinct := by
    unfold Distinct
    decide
  obtain ⟨twin, single, -, -, outcome, heard, records⟩ :=
    @sessions_isolated 8 (.keep true) rivals distinct 1 _ rfl
  exact ⟨distinct, twin, single, outcome, heard, records⟩

end Relay

end TokenRelay
