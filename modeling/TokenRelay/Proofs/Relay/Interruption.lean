/-
# What an accepted interrupt promises

An interrupt is accepted when a caller is told `cancelled`, or when a shutdown counts the stream.
This module settles what the session does from then on, whatever happens in between. A session that
still looks at cancellation falls silent: it sends nothing more, it can end only as cancelled, and
its next poll ends it. The one session that can be told and does not fall silent is one whose
source has failed and whose error waits for room in the channel: its handle is not finished yet, so
the interrupt is accepted, and the session fails all the same.
-/

import TokenRelay.Proofs.Relay.Coherence

namespace TokenRelay.Relay

/-- The operation is an interrupt that is accepted for the session with a number. -/
inductive Interrupts (relay : Relay) : Move → Nat → Prop where
  /-- A caller asks for it and is told that the stream has been cancelled. -/
  | caller {requestId caller : String} {stream : ActiveStream}
      (found : relay.registry.lookup requestId = some stream)
      (accepted : (relay.cancelStream requestId caller).1 = .cancelled) :
      Interrupts relay (.cancelStream requestId caller) stream.handle
  /-- A shutdown finds the stream running. -/
  | shutdown {requestId : String} {stream : ActiveStream}
      (found : relay.registry.lookup requestId = some stream)
      (running : (relay.registry.handle stream.handle).isDone = false) :
      Interrupts relay .cancelAll stream.handle

/-- Whatever happens, the session at a place sends nothing beyond what it has sent and ends as
cancelled if it ends, which it does in its next poll at the latest. -/
def Silent (relay : Relay) (number : Nat) (sent : Array Item) : Prop :=
  ∀ moves, ∃ session, (relay.play moves).sessions[number]? = some session ∧
    session.channel.sent = sent ∧
    (∀ outcome, session.outcome? = some outcome → outcome = .cancelled) ∧
    (.poll number ∈ moves → session.outcome? = some .cancelled)

/-- Whatever happens, the session at a place either goes on waiting to report an error, or it has
failed with it, and nothing but the report can have been sent. -/
def Failing (relay : Relay) (number : Nat) (sent : Array Item) (error : StreamError) : Prop :=
  ∀ moves, ∃ session, (relay.play moves).sessions[number]? = some session ∧
    (session.phase = .reporting error ∧ session.channel.sent = sent ∨
      session.outcome? = some (.failed error.text) ∧
        (session.channel.sent = sent ∨
          session.channel.sent = sent.push (.failure error.asRemote)))

/-- Only an interrupt changes whether a handle has been told to stop, and only to tell it. -/
theorem cancelled_move_eq (relay : Relay) (number : Nat) (move : Move) :
    ((relay.move move).registry.handle number).cancelled =
        (relay.registry.handle number).cancelled ∨
      relay.Interrupts move number ∧
        ((relay.move move).registry.handle number).cancelled = true := by
  cases move with
  | start capacity request source =>
      refine .inl (congrArg Handle.cancelled ?_)
      simp [registry_start, enter]
  | poll target =>
      rw [Relay.move, Relay.poll]
      split
      · exact .inl rfl
      · split
        · exact .inl rfl
        · rw [handle_run]
          split <;> exact .inl rfl
  | advance milliseconds => exact .inl rfl
  | receive target =>
      rw [Relay.move, registry_receive]
      exact .inl rfl
  | abandon target =>
      rw [Relay.move, registry_abandon]
      exact .inl rfl
  | cancelStream requestId caller =>
      by_cases accepted : (relay.registry.cancelStream requestId caller).1 = .cancelled
      · obtain ⟨stream, found, -⟩ :=
          (relay.registry.cancelStream_eq_cancelled_iff requestId caller).1 accepted
        have signal : (relay.move (.cancelStream requestId caller)).registry =
            relay.registry.cancelHandle stream.handle :=
          relay.registry.cancelStream_of_cancelled found accepted
        rw [signal, Registry.handle_cancelHandle]
        split
        · next same =>
          obtain ⟨rfl, -⟩ := same
          exact .inr ⟨.caller found accepted, rfl⟩
        · exact .inl rfl
      · have same : (relay.move (.cancelStream requestId caller)).registry = relay.registry :=
          relay.registry.cancelStream_of_not_cancelled accepted
        rw [same]
        exact .inl rfl
  | cancelAll =>
      have flags : (relay.move .cancelAll).registry.handle number = _ :=
        relay.registry.handle_cancelEach 0 relay.registry.streams.entries number
      rw [flags]
      split
      · next told =>
        obtain ⟨listed, running, -⟩ := told
        obtain ⟨⟨requestId, stream⟩, inside, rfl⟩ := List.mem_map.1 listed
        have found := (relay.registry.streams.mem_entries_iff _ _).1 inside
        exact .inr ⟨.shutdown found running, rfl⟩
      · exact .inl rfl

theorem cancelled_move {relay : Relay} {number : Nat}
    (told : (relay.registry.handle number).cancelled = true) (move : Move) :
    ((relay.move move).registry.handle number).cancelled = true := by
  rcases cancelled_move_eq relay number move with same | ⟨-, set⟩
  · exact same.trans told
  · exact set

/-- A handle that has been told to stop stays so in a run. -/
theorem cancelled_play {relay : Relay} {number : Nat}
    (told : (relay.registry.handle number).cancelled = true) (moves : List Move) :
    ((relay.play moves).registry.handle number).cancelled = true := by
  induction moves generalizing relay with
  | nil => exact told
  | cons move moves ih => exact ih (cancelled_move told move)

theorem not_cancelled_move {relay : Relay} {number : Nat} {move : Move}
    (quiet : (relay.registry.handle number).cancelled = false)
    (uninterrupted : ¬ relay.Interrupts move number) :
    ((relay.move move).registry.handle number).cancelled = false := by
  rcases cancelled_move_eq relay number move with same | ⟨interrupts, -⟩
  · exact same.trans quiet
  · exact absurd interrupts uninterrupted

/-- What an interrupted session keeps while it has not noticed, and once it has. -/
private structure Quiet (number : Nat) (sent : Array Item) (relay : Relay) (session : Session) :
    Prop where
  told : (relay.registry.handle number).cancelled = true
  handle_eq : session.handle = number
  sent_eq : session.channel.sent = sent
  stopping : session.isStoppable = true ∨ session.outcome? = some .cancelled

/-- A poll ends a quiet session as cancelled. -/
private theorem Quiet.poll {number : Nat} {sent : Array Item} {relay : Relay} {session : Session}
    (quiet : Quiet number sent relay session) :
    (relay.afterMove number session (.poll number)).outcome? = some .cancelled ∧
      (relay.afterMove number session (.poll number)).channel.sent = sent := by
  simp only [afterMove, if_true, quiet.handle_eq, quiet.told]
  rcases quiet.stopping with stoppable | isOver
  · rw [Session.poll_of_stoppable stoppable]
    exact ⟨rfl, quiet.sent_eq⟩
  · rw [Session.poll_of_ended isOver]
    exact ⟨isOver, quiet.sent_eq⟩

private theorem Quiet.move {number : Nat} {sent : Array Item} {relay : Relay} {session : Session}
    (quiet : Quiet number sent relay session) (move : Move) :
    Quiet number sent (relay.move move) (relay.afterMove number session move) := by
  refine ⟨cancelled_move quiet.told move, ?_, ?_, ?_⟩
  · exact (handle_afterMove relay number session move).trans quiet.handle_eq
  · cases move with
    | poll target =>
        by_cases same : target = number
        · subst target
          exact quiet.poll.2
        · simpa [afterMove, same] using quiet.sent_eq
    | receive target => simp only [afterMove]; split <;> simp [quiet.sent_eq]
    | abandon target => simp only [afterMove]; split <;> simp [Session.afterAbandon, quiet.sent_eq]
    | start | advance | cancelStream | cancelAll => exact quiet.sent_eq
  · cases move with
    | poll target =>
        by_cases same : target = number
        · subst target
          exact .inr quiet.poll.1
        · simpa [afterMove, same] using quiet.stopping
    | receive target =>
        simp only [afterMove]
        split
        · simpa [Session.isStoppable, Session.outcome?] using quiet.stopping
        · exact quiet.stopping
    | abandon target => simp only [afterMove]; split <;> exact quiet.stopping
    | start | advance | cancelStream | cancelAll => exact quiet.stopping

/-- A session that has been told to stop, and looks at it, falls silent. -/
theorem silent_of_stoppable {relay : Relay} {number : Nat} {session : Session}
    (found : relay.sessions[number]? = some session) (handleNumber : session.handle = number)
    (told : (relay.registry.handle number).cancelled = true)
    (stoppable : session.isStoppable = true) : relay.Silent number session.channel.sent := by
  have quiet : Quiet number session.channel.sent relay session :=
    ⟨told, handleNumber, rfl, .inl stoppable⟩
  have keeps := play_induction (Quiet number session.channel.sent)
    (fun _ _ move _ before => before.move move) found quiet
  intro moves
  by_cases polled : .poll number ∈ moves
  · -- The run up to the poll keeps the session quiet, the poll ends it, and it stays ended.
    obtain ⟨front, back, rfl⟩ := List.append_of_mem polled
    obtain ⟨before, there, quietBefore⟩ := keeps front
    have next := getElem?_sessions_move there (.poll number)
    obtain ⟨later, place, isOver, sent⟩ := play_of_ended next quietBefore.poll.1 back
    rw [play_append, play_cons]
    refine ⟨later, place, sent.trans quietBefore.poll.2, ?_, fun _ => isOver⟩
    intro outcome ended
    exact Option.some.inj (ended.symm.trans isOver)
  · obtain ⟨later, place, quietLater⟩ := keeps moves
    refine ⟨later, place, quietLater.sent_eq, ?_, fun inside => absurd inside polled⟩
    intro outcome ended
    rcases quietLater.stopping with stillStoppable | isOver
    · rw [Session.outcome?_eq_some_iff] at ended
      simp [Session.isStoppable, ended] at stillStoppable
    · exact Option.some.inj (ended.symm.trans isOver)

/-- A session that waits to report an error fails with it, interrupted or not. -/
theorem failing_of_reporting {relay : Relay} {number : Nat} {session : Session}
    {error : StreamError} (found : relay.sessions[number]? = some session)
    (reporting : session.phase = .reporting error) :
    relay.Failing number session.channel.sent error := by
  refine play_induction (fun _ later =>
    later.phase = .reporting error ∧ later.channel.sent = session.channel.sent ∨
      later.outcome? = some (.failed error.text) ∧
        (later.channel.sent = session.channel.sent ∨
          later.channel.sent = session.channel.sent.push (.failure error.asRemote)))
    ?_ found (.inl ⟨reporting, rfl⟩)
  rintro relay later move - (⟨phase, sent⟩ | ⟨isOver, sent⟩)
  · cases move with
    | poll target =>
        simp only [afterMove]
        split
        · simp only [Session.poll, phase, Session.report]
          split
          · exact .inr ⟨rfl, .inl sent⟩
          · split
            · refine .inr ⟨rfl, .inr ?_⟩
              simp [Session.finish, Channel.send, sent]
            · exact .inl ⟨rfl, sent⟩
        · exact .inl ⟨phase, sent⟩
    | receive target => simp only [afterMove]; split <;> simp [phase, sent]
    | abandon target => simp only [afterMove]; split <;> simp [Session.afterAbandon, phase, sent]
    | start | advance | cancelStream | cancelAll => exact .inl ⟨phase, sent⟩
  · have kept := afterMove_of_ended isOver relay number move
    exact .inr ⟨kept.1, kept.2.symm ▸ sent⟩

/-- A shutdown counts the sessions that it interrupts, each once. -/
theorem count_cancelAll {relay : Relay} (coherent : relay.Coherent) :
    ∃ interrupted : List Nat, interrupted.Nodup ∧
      (∀ number, number ∈ interrupted ↔ relay.Interrupts .cancelAll number) ∧
      relay.cancelAll.1 = interrupted.length := by
  -- The records of one handle are those of one session, so they have one identifier.
  have distinct : (Registry.handlesOf relay.registry.streams.entries).Nodup := by
    have keys := relay.registry.streams.nodup_keys
    rw [List.Nodup, List.pairwise_map] at keys
    rw [List.Nodup, Registry.handlesOf, List.pairwise_map]
    apply keys.imp_of_mem
    rintro ⟨first, stream⟩ ⟨second, other⟩ firstIn secondIn different same
    obtain ⟨session, place, identifier, -⟩ :=
      coherent.registered ((relay.registry.streams.mem_entries_iff _ _).1 firstIn)
    obtain ⟨session', place', identifier', -⟩ :=
      coherent.registered ((relay.registry.streams.mem_entries_iff _ _).1 secondIn)
    have one : session = session' := by
      apply Option.some.inj
      rw [← place, ← place']
      exact congrArg (relay.sessions[·]?) same
    exact different (identifier.symm.trans (one ▸ identifier'))
  refine ⟨Registry.handlesOf (relay.registry.streams.entries.filter fun entry =>
    !(relay.registry.handle entry.2.handle).isDone), ?_, ?_, ?_⟩
  · exact distinct.sublist (List.filter_sublist.map _)
  · intro number
    simp only [Registry.handlesOf, List.mem_map, List.mem_filter, Bool.not_eq_true']
    constructor
    · rintro ⟨⟨requestId, stream⟩, ⟨inside, running⟩, rfl⟩
      exact .shutdown ((relay.registry.streams.mem_entries_iff _ _).1 inside) running
    · rintro ⟨⟩
      next requestId stream found running =>
        exact ⟨(requestId, stream),
          ⟨(relay.registry.streams.mem_entries_iff _ _).2 found, running⟩, rfl⟩
  · have counted := relay.registry.count_cancelEach 0 _ distinct
    rw [Nat.zero_add] at counted
    rw [Registry.handlesOf, List.length_map]
    exact counted

/-- An accepted interrupt finds a session that is not past its source, and tells it to stop. -/
theorem Interrupts.found {relay : Relay} (coherent : relay.Coherent) {move : Move} {number : Nat}
    (interrupts : relay.Interrupts move number) :
    ∃ session, relay.sessions[number]? = some session ∧ session.isFinished = false ∧
      (relay.move move).sessions[number]? = some session ∧
      ((relay.move move).registry.handle number).cancelled = true := by
  have running (stream : ActiveStream) (requestId : String)
      (entered : relay.registry.lookup requestId = some stream)
      (notDone : (relay.registry.handle stream.handle).isDone = false) :
      ∃ session, relay.sessions[stream.handle]? = some session ∧ session.isFinished = false ∧
        stream.handle < relay.registry.handles.length := by
    obtain ⟨session, place, -⟩ := coherent.registered entered
    refine ⟨session, place, ?_, ?_⟩
    · simp only [Handle.isDone, Bool.or_eq_false_iff] at notDone
      rw [← coherent.finished_eq place]
      exact notDone.1
    · rw [coherent.length_handles]
      exact (List.getElem?_eq_some_iff.1 place).1
  cases interrupts with
  | @caller requestId caller stream entered accepted =>
      obtain ⟨stream', entered', -, notDone⟩ :=
        (relay.registry.cancelStream_eq_cancelled_iff requestId caller).1 accepted
      obtain rfl : stream = stream' := Option.some.inj (entered.symm.trans entered')
      obtain ⟨session, place, notFinished, made⟩ := running stream requestId entered notDone
      have signal : (relay.move (.cancelStream requestId caller)).registry =
          relay.registry.cancelHandle stream.handle :=
        relay.registry.cancelStream_of_cancelled entered accepted
      refine ⟨session, place, notFinished, place, ?_⟩
      rw [signal, Registry.handle_cancelHandle, if_pos ⟨rfl, made⟩]
  | @shutdown requestId stream entered notDone =>
      obtain ⟨session, place, notFinished, made⟩ := running stream requestId entered notDone
      have listed : stream.handle ∈ Registry.handlesOf relay.registry.streams.entries :=
        List.mem_map.2 ⟨(requestId, stream),
          (relay.registry.streams.mem_entries_iff _ _).2 entered, rfl⟩
      refine ⟨session, place, notFinished, place, ?_⟩
      have flags := relay.registry.handle_cancelEach 0 relay.registry.streams.entries
        stream.handle
      rw [if_pos ⟨listed, notDone, made⟩] at flags
      exact congrArg Handle.cancelled flags

/-- What an accepted interrupt does. The session falls silent exactly if no error of its source is
waiting to be reported; otherwise it fails with that error. A shutdown counts the sessions that it
interrupts. -/
theorem interrupt_silences_iff {relay : Relay} (reached : relay.Reachable) :
    (∀ {move number}, relay.Interrupts move number →
      ∃ session, relay.sessions[number]? = some session ∧ session.handle = number ∧
        ((relay.move move).Silent number session.channel.sent ↔
          ∀ error, session.phase ≠ .reporting error) ∧
        ∀ error, session.phase = .reporting error →
          (relay.move move).Failing number session.channel.sent error) ∧
    ∃ interrupted : List Nat, interrupted.Nodup ∧
      (∀ number, number ∈ interrupted ↔ relay.Interrupts .cancelAll number) ∧
      relay.cancelAll.1 = interrupted.length := by
  refine ⟨fun {move number} interrupts => ?_, count_cancelAll reached.coherent⟩
  obtain ⟨session, place, notFinished, after, told⟩ := interrupts.found reached.coherent
  have handleNumber := reached.coherent.handle_eq place
  refine ⟨session, place, handleNumber,
    ⟨fun silent error waiting => ?_, fun notReporting => ?_⟩,
    fun error waiting => failing_of_reporting after waiting⟩
  · -- The consumer leaves and the task runs: a waiting report becomes a failure.
    obtain ⟨later, there, failing⟩ :=
      failing_of_reporting after waiting [.abandon number, .poll number]
    obtain ⟨later', there', -, -, isOver⟩ := silent [.abandon number, .poll number]
    obtain rfl : later = later' := Option.some.inj (there.symm.trans there')
    have cancelled := isOver (by simp)
    rcases failing with ⟨stillWaiting, -⟩ | ⟨failed, -⟩
    · simp [Session.outcome?, stillWaiting] at cancelled
    · simp [failed] at cancelled
  · apply silent_of_stoppable after handleNumber told
    cases phase : session.phase with
    | created | awaiting | sending => simp [Session.isStoppable, phase]
    | reporting error => exact absurd phase (notReporting error)
    | closing | ended => simp [Session.isFinished, phase] at notFinished

/-- A relay with one session, polled once. The start event fills the channel, so what its source
brings waits for room. -/
def crowded (action : Action) : Relay :=
  (new 1 .discard).play
    [.start .single { requestId := "r1", conversationId := "c1", owner := "alice", query := "q" }
      { steps := [{ action }] }, .poll 0]

theorem reachable_crowded (action : Action) : (crowded action).Reachable :=
  (Reachable.new 1 .discard).play _

/-- A fragment that waits for room is never sent once its session has been cancelled. -/
theorem interrupt_silences_waiting_fragment :
    (crowded (.fragment "a")).Interrupts (.cancelStream "r1" "alice") 0 ∧
      ((crowded (.fragment "a")).move (.cancelStream "r1" "alice")).Silent 0
        #[.event (.start "c1" "r1")] := by
  have entered : (crowded (.fragment "a")).registry.lookup "r1" = some ⟨"alice", 0⟩ := by decide
  have interrupts : (crowded (.fragment "a")).Interrupts (.cancelStream "r1" "alice") 0 :=
    .caller entered (by decide)
  obtain ⟨session, place, -, silent, -⟩ :=
    (interrupt_silences_iff (reachable_crowded (.fragment "a"))).1 interrupts
  cases place
  refine ⟨interrupts, silent.2 ?_⟩
  intro error waiting
  cases waiting

/-- The owner of a session whose error waits for room is told that it has been cancelled, and yet
the error is sent and the session fails. -/
theorem accepted_interrupt_not_silent :
    (crowded (.fail (.remote "boom"))).Reachable ∧
      ((crowded (.fail (.remote "boom"))).cancelStream "r1" "alice").1 = .cancelled ∧
      (((crowded (.fail (.remote "boom"))).play
          [.cancelStream "r1" "alice", .receive 0, .poll 0]).sessions.map fun session =>
        (session.channel.sent.toList.map (· matches .failure _), session.outcome?)) =
        [([false, true], some (.failed "Upstream error: boom"))] :=
  ⟨reachable_crowded _, by decide, by decide⟩

end TokenRelay.Relay
