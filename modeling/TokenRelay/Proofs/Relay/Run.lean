/-
# Runs of the relay

Supplies the operations on a relay as data, and the relays that sequences of them lead to. A
session keeps its place for ever, and an operation does to the session at a place one of four
things: it polls it, it lets its consumer receive or leave, or it leaves it alone. Whatever every
one of these keeps, a whole run keeps.
-/

import TokenRelay.Proofs.Session.Poll
import TokenRelay.Session.Relay

namespace TokenRelay

namespace Channel

/-- How many items a channel can be made for. A session that is to have a channel for any other
number of items never comes to be. -/
structure Capacity where
  items : Nat
  roomy : 1 ≤ items
  countable : items ≤ limit

namespace Capacity

instance : Coe Capacity Nat := ⟨items⟩

/-- Room for one item. -/
def single : Capacity := ⟨1, by decide, by decide⟩

/-- Room for a few items. -/
def ample : Capacity := ⟨8, by decide, by decide⟩

end Capacity

theorem make?_items (capacity : Capacity) :
    make? capacity = some { capacity := capacity } :=
  if_pos ⟨capacity.roomy, capacity.countable⟩

end Channel

/-- One operation on a relay. A session may be started with a capacity of its own, of a channel that
can be made, and sources become ready as time advances. -/
inductive Move where
  | start (capacity : Channel.Capacity) (request : SessionRequest) (source : Script)
  | poll (number : Nat)
  | advance (milliseconds : Nat)
  | receive (number : Nat)
  | abandon (number : Nat)
  | cancelStream (requestId caller : String)
  | cancelAll

/-- Whether an operation starts a session. -/
def Move.isStart : Move → Bool
  | .start _ _ _ => true
  | .poll _ | .advance _ | .receive _ | .abandon _ | .cancelStream _ _ | .cancelAll => false

namespace Session

/-- The session after its consumer has asked for an item. -/
def afterReceive (session : Session) : Session :=
  if session.channel.abandoned then session
  else
    match session.channel.receive? with
    | some (_, channel) => { session with channel }
    | none => session

/-- The session after its consumer has left. -/
def afterAbandon (session : Session) : Session :=
  { session with channel := { session.channel with abandoned := true } }

/-- Receiving changes the channel and nothing else. -/
theorem exists_afterReceive (session : Session) :
    ∃ channel : Channel, session.afterReceive = { session with channel } ∧
      channel.sent = session.channel.sent ∧ channel.capacity = session.channel.capacity ∧
      channel.abandoned = session.channel.abandoned := by
  unfold afterReceive
  split
  · exact ⟨session.channel, rfl, rfl, rfl, rfl⟩
  · cases next : session.channel.receive? with
    | none => exact ⟨session.channel, rfl, rfl, rfl, rfl⟩
    | some result =>
        refine ⟨result.2, rfl, ?_⟩
        unfold Channel.receive? at next
        split at next
        · cases next
          exact ⟨rfl, rfl, rfl⟩
        · cases next

@[simp]
theorem phase_afterReceive (session : Session) : session.afterReceive.phase = session.phase := by
  obtain ⟨channel, same, -⟩ := session.exists_afterReceive
  rw [same]

@[simp]
theorem request_afterReceive (session : Session) :
    session.afterReceive.request = session.request := by
  obtain ⟨channel, same, -⟩ := session.exists_afterReceive
  rw [same]

@[simp]
theorem handle_afterReceive (session : Session) :
    session.afterReceive.handle = session.handle := by
  obtain ⟨channel, same, -⟩ := session.exists_afterReceive
  rw [same]

@[simp]
theorem sent_afterReceive (session : Session) :
    session.afterReceive.channel.sent = session.channel.sent := by
  obtain ⟨channel, same, sent, -⟩ := session.exists_afterReceive
  rw [same, sent]

end Session

namespace Relay

/-- The relay after one operation. -/
def move (relay : Relay) : Move → Relay
  | .start capacity request source => ((relay.withCapacity capacity).launch request source).relay
  | .poll number => relay.poll number
  | .advance milliseconds => relay.advance milliseconds
  | .receive number => (relay.receive number).2
  | .abandon number => relay.abandon number
  | .cancelStream requestId caller => (relay.cancelStream requestId caller).2
  | .cancelAll => relay.cancelAll.2

/-- The relay after a sequence of operations. -/
def play (relay : Relay) (moves : List Move) : Relay :=
  moves.foldl move relay

@[simp]
theorem play_nil (relay : Relay) : relay.play [] = relay := rfl

@[simp]
theorem play_cons (relay : Relay) (move : Move) (moves : List Move) :
    relay.play (move :: moves) = (relay.move move).play moves := rfl

theorem play_append (relay : Relay) (first second : List Move) :
    relay.play (first ++ second) = (relay.play first).play second :=
  List.foldl_append

/-- The relays that operations lead to from one without sessions. -/
inductive Reachable : Relay → Prop where
  | new (capacity : Nat) (transcripts : TranscriptPolicy) : Reachable (new capacity transcripts)
  | move {relay : Relay} (reached : Reachable relay) (move : Move) : Reachable (relay.move move)

theorem Reachable.play {relay : Relay} (reached : Reachable relay) (moves : List Move) :
    Reachable (relay.play moves) := by
  induction moves generalizing relay with
  | nil => exact reached
  | cons move moves ih => exact ih (reached.move move)

/-- A session as a start adds it. -/
def freshSession (relay : Relay) (request : SessionRequest) (source : Script) : Session :=
  { request := request
    handle := relay.registry.nextHandle
    source := source
    channel := { capacity := relay.capacity } }

section Launch

variable (relay : Relay) (request : SessionRequest) (source : Script)

/-- Where there is a channel, the call that starts a session adds it. -/
theorem launch_eq_opened (holds : 1 ≤ relay.capacity) (fits : relay.capacity ≤ Channel.limit) :
    relay.launch request source =
      .opened (relay.add request source { capacity := relay.capacity }) := by
  rw [launch, Channel.make?_items ⟨relay.capacity, holds, fits⟩]

/-- Where there is none, the session has been entered in the registry, and that is all. -/
theorem launch_eq_brokenOff (exceeds : Channel.limit < relay.capacity) :
    relay.launch request source = .brokenOff (relay.enter request) := by
  have refused : Channel.make? relay.capacity = none :=
    if_neg fun fits => absurd fits.2 (Nat.not_le.2 exceeds)
  rw [launch, refused]

theorem capacity_launch : (relay.launch request source).relay.capacity = relay.capacity := by
  unfold launch
  split <;> rfl

variable {relay request source} {after : Relay}

/-- What has been opened is the relay with the session. -/
theorem eq_add_of_opened (opened : relay.launch request source = .opened after) :
    after = relay.add request source { capacity := relay.capacity } := by
  unfold launch Channel.make? at opened
  split at opened
  · cases opened
  · next made =>
    obtain ⟨-, same⟩ := Option.ite_none_right_eq_some.1 made
    obtain rfl := Option.some.inj same
    exact (Launch.opened.inj opened).symm

theorem eq_enter_of_brokenOff (broken : relay.launch request source = .brokenOff after) :
    after = relay.enter request := by
  unfold launch at broken
  split at broken
  · exact (Launch.brokenOff.inj broken).symm
  · cases broken

end Launch

section Start

variable (relay : Relay) (capacity : Channel.Capacity) (request : SessionRequest)
  (source : Script)

theorem launch_withCapacity :
    (relay.withCapacity capacity).launch request source =
      .opened ((relay.withCapacity capacity).add request source { capacity := max capacity 1 }) :=
  launch_eq_opened _ request source (Nat.le_max_right capacity 1)
    (Nat.max_le.2 ⟨capacity.countable, by decide⟩)

/-- A start always adds a session, since its channel can be made. -/
theorem move_start :
    relay.move (.start capacity request source) =
      (relay.withCapacity capacity).add request source { capacity := max capacity 1 } := by
  rw [move, launch_withCapacity]
  rfl

/-- So it is a call that returns. -/
theorem launch_eq_move :
    (relay.withCapacity capacity).launch request source =
      .opened (relay.move (.start capacity request source)) := by
  rw [launch_withCapacity, move_start]

theorem registry_start :
    (relay.move (.start capacity request source)).registry = (relay.enter request).registry := by
  rw [move_start]
  rfl

end Start

theorem sessions_add (relay : Relay) (request : SessionRequest) (source : Script) :
    (relay.add request source { capacity := relay.capacity }).sessions =
      relay.sessions ++ [relay.freshSession request source] := rfl

theorem sessions_run (relay : Relay) (number : Nat) (before : Session) :
    (relay.run number before).sessions =
      relay.sessions.set number
        (before.poll (relay.registry.handle before.handle).cancelled relay.clock) := by
  simp only [run]
  split <;> rfl

/-- Setting the entry at a place changes it. -/
private theorem set_eq_modify {α : Type} {entries : List α} {number : Nat} {entry new : α}
    {change : α → α} (found : entries[number]? = some entry) (changed : change entry = new) :
    entries.set number new = entries.modify number change := by
  apply List.ext_getElem?
  intro place
  rw [List.getElem?_modify, List.getElem?_set]
  by_cases same : number = place
  · subst place
    have inside := (List.getElem?_eq_some_iff.1 found).1
    rw [if_pos rfl, if_pos inside, found, ← changed]
    simp
  · simp [same]

/-- A change that does nothing to the entry at a place does nothing. -/
private theorem modify_eq_of_unchanged {α : Type} {entries : List α} {number : Nat} {entry : α}
    {change : α → α} (found : entries[number]? = some entry) (unchanged : change entry = entry) :
    entries.modify number change = entries := by
  rw [← set_eq_modify found unchanged]
  obtain ⟨inside, rfl⟩ := List.getElem?_eq_some_iff.1 found
  exact List.set_getElem_self inside

theorem sessions_poll (relay : Relay) (number : Nat) :
    (relay.poll number).sessions =
      relay.sessions.modify number fun session =>
        session.poll (relay.registry.handle session.handle).cancelled relay.clock := by
  unfold poll
  cases found : relay.sessions[number]? with
  | none => exact (List.modify_eq_self (List.getElem?_eq_none_iff.1 found)).symm
  | some session =>
      cases ended : session.outcome? with
      | none =>
          simp only [ended, Option.isSome_none, Bool.false_eq_true, if_false]
          rw [sessions_run]
          exact set_eq_modify found rfl
      | some outcome =>
          simp only [ended, Option.isSome_some, if_true]
          refine (modify_eq_of_unchanged found ?_).symm
          exact Session.poll_of_ended ended _ _

theorem sessions_receive (relay : Relay) (number : Nat) :
    (relay.receive number).2.sessions = relay.sessions.modify number Session.afterReceive := by
  unfold receive
  cases found : relay.sessions[number]? with
  | none => exact (List.modify_eq_self (List.getElem?_eq_none_iff.1 found)).symm
  | some session =>
      by_cases gone : session.channel.abandoned = true
      · simp only [if_pos gone]
        exact (modify_eq_of_unchanged found (by simp [Session.afterReceive, gone])).symm
      · simp only [if_neg gone]
        cases next : session.channel.receive? with
        | none =>
            exact (modify_eq_of_unchanged found (by simp [Session.afterReceive, gone, next])).symm
        | some result =>
            exact set_eq_modify found (by simp [Session.afterReceive, gone, next])

theorem sessions_abandon (relay : Relay) (number : Nat) :
    (relay.abandon number).sessions = relay.sessions.modify number Session.afterAbandon := by
  unfold abandon
  cases found : relay.sessions[number]? with
  | none => exact (List.modify_eq_self (List.getElem?_eq_none_iff.1 found)).symm
  | some session => exact set_eq_modify found rfl

/-- What consumers do never reaches the registry. -/
theorem registry_receive (relay : Relay) (number : Nat) :
    (relay.receive number).2.registry = relay.registry := by
  unfold receive
  split
  · rfl
  · split
    · rfl
    · split <;> rfl

theorem registry_abandon (relay : Relay) (number : Nat) :
    (relay.abandon number).registry = relay.registry := by
  unfold abandon
  split <;> rfl

/-- What an operation makes of the session at a place. -/
def afterMove (relay : Relay) (number : Nat) (session : Session) : Move → Session
  | .poll target =>
    if target = number then
      session.poll (relay.registry.handle session.handle).cancelled relay.clock
    else session
  | .receive target => if target = number then session.afterReceive else session
  | .abandon target => if target = number then session.afterAbandon else session
  | .start _ _ _ | .advance _ | .cancelStream _ _ | .cancelAll => session

/-- No operation changes what a session was started for. -/
theorem request_afterMove (relay : Relay) (number : Nat) (session : Session) (move : Move) :
    (relay.afterMove number session move).request = session.request := by
  cases move with
  | poll target =>
      simp only [afterMove]
      split
      · exact (Session.continues_poll _ _ session).request_eq
      · rfl
  | receive target => simp only [afterMove]; split <;> simp
  | abandon target => simp only [afterMove]; split <;> rfl
  | start | advance | cancelStream | cancelAll => rfl

theorem handle_afterMove (relay : Relay) (number : Nat) (session : Session) (move : Move) :
    (relay.afterMove number session move).handle = session.handle := by
  cases move with
  | poll target =>
      simp only [afterMove]
      split
      · exact (Session.continues_poll _ _ session).handle_eq
      · rfl
  | receive target => simp only [afterMove]; split <;> simp
  | abandon target => simp only [afterMove]; split <;> rfl
  | start | advance | cancelStream | cancelAll => rfl

/-- An ended session keeps its outcome and sends nothing more. -/
theorem afterMove_of_ended {session : Session} {outcome : Outcome}
    (ended : session.outcome? = some outcome) (relay : Relay) (number : Nat) (move : Move) :
    (relay.afterMove number session move).outcome? = some outcome ∧
      (relay.afterMove number session move).channel.sent = session.channel.sent := by
  cases move with
  | poll target =>
      have unchanged : relay.afterMove number session (.poll target) = session := by
        simp only [afterMove, Session.poll_of_ended ended, ite_self]
      rw [unchanged]
      exact ⟨ended, rfl⟩
  | receive target =>
      simp only [afterMove]
      split
      · simpa [Session.outcome?] using ended
      · exact ⟨ended, rfl⟩
  | abandon target =>
      simp only [afterMove]
      split
      · exact ⟨ended, rfl⟩
      · exact ⟨ended, rfl⟩
  | start | advance | cancelStream | cancelAll => exact ⟨ended, rfl⟩

private theorem getElem?_modify_of_found {α : Type} {entries : List α} {number : Nat} {entry : α}
    (found : entries[number]? = some entry) (target : Nat) (change : α → α) :
    (entries.modify target change)[number]? =
      some (if target = number then change entry else entry) := by
  rw [List.getElem?_modify, found]
  rfl

/-- A session keeps its place. -/
theorem getElem?_sessions_move {relay : Relay} {number : Nat} {session : Session}
    (found : relay.sessions[number]? = some session) (move : Move) :
    (relay.move move).sessions[number]? = some (relay.afterMove number session move) := by
  cases move with
  | start capacity request source =>
      have inside := (List.getElem?_eq_some_iff.1 found).1
      rw [move_start]
      exact (List.getElem?_append_left inside).trans found
  | poll target =>
      rw [Relay.move, sessions_poll]
      exact getElem?_modify_of_found found target _
  | receive target =>
      rw [Relay.move, sessions_receive]
      exact getElem?_modify_of_found found target _
  | abandon target =>
      rw [Relay.move, sessions_abandon]
      exact getElem?_modify_of_found found target _
  | advance milliseconds => exact found
  | cancelStream requestId caller => exact found
  | cancelAll => exact found

theorem sessions_start (relay : Relay) (capacity : Channel.Capacity) (request : SessionRequest)
    (source : Script) :
    (relay.move (.start capacity request source)).sessions =
      relay.sessions ++ [(relay.withCapacity capacity).freshSession request source] := by
  rw [move_start]
  exact sessions_add _ _ _

theorem getElem?_sessions_start (relay : Relay) (capacity : Channel.Capacity)
    (request : SessionRequest) (source : Script) :
    (relay.move (.start capacity request source)).sessions[relay.nextSession]? =
      some ((relay.withCapacity capacity).freshSession request source) := by
  rw [sessions_start, nextSession]
  exact List.getElem?_concat_length

/-- How many sessions an operation adds. -/
theorem length_sessions_move (relay : Relay) (move : Move) :
    (relay.move move).sessions.length =
      match move with
      | .start _ _ _ => relay.sessions.length + 1
      | _ => relay.sessions.length := by
  cases move with
  | start capacity request source => simp [sessions_start]
  | poll target => simp [Relay.move, sessions_poll]
  | receive target => simp [Relay.move, sessions_receive]
  | abandon target => simp [Relay.move, sessions_abandon]
  | advance milliseconds => rfl
  | cancelStream requestId caller => rfl
  | cancelAll => rfl

/-- A place that an operation fills is the next one, and it gets a fresh session. -/
theorem start_of_getElem?_sessions {relay : Relay} {number : Nat} {move : Move} {after : Session}
    (free : relay.sessions[number]? = none)
    (found : (relay.move move).sessions[number]? = some after) :
    ∃ capacity request source, move = .start capacity request source ∧
      number = relay.nextSession ∧
      after = (relay.withCapacity capacity).freshSession request source := by
  have beyond := List.getElem?_eq_none_iff.1 free
  have inside := (List.getElem?_eq_some_iff.1 found).1
  rw [length_sessions_move] at inside
  cases move with
  | start capacity request source =>
      have place : number = relay.nextSession := Nat.le_antisymm (Nat.le_of_lt_succ inside) beyond
      refine ⟨capacity, request, source, rfl, place, ?_⟩
      rw [sessions_start, place, nextSession] at found
      exact (Option.some.inj (List.getElem?_concat_length.symm.trans found)).symm
  | poll | advance | receive | abandon | cancelStream | cancelAll =>
      exact absurd inside (Nat.not_lt_of_le beyond)

/-- What every operation keeps of the session at a place and of the relay around it, every run
keeps. -/
theorem play_induction (Keeps : Relay → Session → Prop) {number : Nat}
    (step : ∀ relay session move, relay.sessions[number]? = some session → Keeps relay session →
      Keeps (relay.move move) (relay.afterMove number session move))
    {relay : Relay} {session : Session} (found : relay.sessions[number]? = some session)
    (initial : Keeps relay session) (moves : List Move) :
    ∃ later, (relay.play moves).sessions[number]? = some later ∧
      Keeps (relay.play moves) later := by
  induction moves generalizing relay session with
  | nil => exact ⟨session, found, initial⟩
  | cons move moves ih =>
      exact ih (getElem?_sessions_move found move) (step relay session move found initial)

theorem request_play {relay : Relay} {number : Nat} {session : Session}
    (found : relay.sessions[number]? = some session) (moves : List Move) :
    ∃ later, (relay.play moves).sessions[number]? = some later ∧
      later.request = session.request := by
  refine play_induction (fun _ later => later.request = session.request) ?_ found rfl moves
  rintro relay later move - same
  exact (request_afterMove relay number later move).trans same

/-- Once a session has ended, nothing more happens to it but that its consumer receives. -/
theorem play_of_ended {relay : Relay} {number : Nat} {session : Session} {outcome : Outcome}
    (found : relay.sessions[number]? = some session) (ended : session.outcome? = some outcome)
    (moves : List Move) :
    ∃ later, (relay.play moves).sessions[number]? = some later ∧
      later.outcome? = some outcome ∧ later.channel.sent = session.channel.sent := by
  refine play_induction (fun _ later => later.outcome? = some outcome ∧
    later.channel.sent = session.channel.sent) ?_ found ⟨ended, rfl⟩ moves
  rintro relay later move - ⟨isOver, sent⟩
  have kept := afterMove_of_ended isOver relay number move
  exact ⟨kept.1, kept.2.trans sent⟩

end Relay

end TokenRelay
