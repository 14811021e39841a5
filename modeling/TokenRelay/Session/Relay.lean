/-
# The relay

Supplies the state in which sessions run side by side: the clock, the registry, the sessions, and
the records that ended sessions have handed over. Nothing happens between two operations; a
session goes on only when it is polled. A session enters the registry when it is started and
leaves it in the poll in which it ends, before its consumer can see the end of the stream.

A session is entered in the registry before its channel is made, so that whoever interrupts it right
after its start finds it. A call that asks for a channel that cannot be made never returns: it is
broken off, and what it has entered stays behind.
-/

import TokenRelay.Registry.Interrupt
import TokenRelay.Session.Basic

namespace TokenRelay

/-- What is done with the records of ended sessions. -/
inductive TranscriptPolicy where
  | discard
  /-- Records are kept, those of turns that were cut short only on request. -/
  | keep (partials : Bool)
  deriving DecidableEq, Repr

/-- Sessions that run side by side. -/
structure Relay where
  /-- How many items the channel of a session holds. -/
  capacity : Nat := 32
  transcripts : TranscriptPolicy := .discard
  /-- Milliseconds since the start of 1970. -/
  clock : Nat := 0
  registry : Registry := {}
  sessions : List Session := []
  /-- The records handed over so far. -/
  records : List TranscriptRecord := []

/-- What a call that starts a session leaves behind. -/
inductive Launch where
  /-- The session has been added. -/
  | opened (relay : Relay)
  /-- The call did not return. -/
  | brokenOff (relay : Relay)

/-- The relay after the call, however it went. -/
def Launch.relay : Launch → Relay
  | .opened relay | .brokenOff relay => relay

/-- What a consumer gets when it asks for the next item of a stream. -/
inductive Received where
  | item (item : Item)
  | endOfStream
  /-- Nothing yet. -/
  | pending
  /-- The consumer has given the stream up. -/
  | gone

namespace Relay

/-- An empty relay. No channel is asked to hold less than one item. -/
def new (capacity : Nat) (transcripts : TranscriptPolicy) : Relay :=
  { capacity := max capacity 1, transcripts := transcripts }

/-- The relay with another capacity for the channels of the sessions that are started next. -/
def withCapacity (relay : Relay) (capacity : Nat) : Relay :=
  { relay with capacity := max capacity 1 }

/-- The number of the session that is started next. -/
def nextSession (relay : Relay) : Nat := relay.sessions.length

/-- Enters a session in the registry, under a new handle. -/
def enter (relay : Relay) (request : SessionRequest) : Relay :=
  { relay with
    registry := relay.registry.addHandle.register request.requestId request.owner
      relay.registry.nextHandle }

/-- Enters a session in the registry and adds it, with a channel that has been made for it. -/
def add (relay : Relay) (request : SessionRequest) (source : Script) (channel : Channel) : Relay :=
  let session : Session := { request, handle := relay.registry.nextHandle, source, channel }
  { relay.enter request with sessions := relay.sessions ++ [session] }

/-- Starts a session, unless there is no channel for it. It has not run when this returns. -/
def launch (relay : Relay) (request : SessionRequest) (source : Script) : Launch :=
  match Channel.make? relay.capacity with
  | none => .brokenOff (relay.enter request)
  | some channel => .opened (relay.add request source channel)

/-- The record that an ended session hands over. -/
def transcriptOf (relay : Relay) (session : Session) : List TranscriptRecord :=
  match relay.transcripts with
  | .discard => []
  | .keep partials => (session.transcript? partials (.ofMilliseconds relay.clock)).toList

/-- Polls a session that has not ended. -/
def run (relay : Relay) (number : Nat) (before : Session) : Relay :=
  let session := before.poll (relay.registry.handle before.handle).cancelled relay.clock
  let registry :=
    if session.isFinished then relay.registry.finishHandle session.handle else relay.registry
  let relay := { relay with sessions := relay.sessions.set number session }
  match session.outcome? with
  | none => { relay with registry := registry }
  | some _ =>
    { relay with
      registry := registry.deregister session.request.requestId
      records := relay.records ++ relay.transcriptOf session }

/-- Polls a session. -/
def poll (relay : Relay) (number : Nat) : Relay :=
  match relay.sessions[number]? with
  | none => relay
  | some session => if session.outcome?.isSome then relay else relay.run number session

/-- Polls every session once. A poll ends only when the session waits for something that no other
session provides, so after this none can go on. -/
def settle (relay : Relay) : Relay :=
  (List.range relay.sessions.length).foldl poll relay

/-- Lets time pass. -/
def advance (relay : Relay) (milliseconds : Nat) : Relay :=
  { relay with clock := relay.clock + milliseconds }

/-- Takes the next item of a stream for its consumer. -/
def receive (relay : Relay) (number : Nat) : Received × Relay :=
  match relay.sessions[number]? with
  | none => (.gone, relay)
  | some session =>
    if session.channel.abandoned then (.gone, relay)
    else
      match session.channel.receive? with
      | some (item, channel) =>
        (.item item, { relay with sessions := relay.sessions.set number { session with channel } })
      | none => (if session.outcome?.isSome then .endOfStream else .pending, relay)

/-- The consumer of a stream leaves. -/
def abandon (relay : Relay) (number : Nat) : Relay :=
  match relay.sessions[number]? with
  | none => relay
  | some session =>
    { relay with
      sessions := relay.sessions.set number
        { session with channel := { session.channel with abandoned := true } } }

/-- Cancels a stream for a caller. -/
def cancelStream (relay : Relay) (requestId caller : String) : CancelOutcome × Relay :=
  let (outcome, registry) := relay.registry.cancelStream requestId caller
  (outcome, { relay with registry := registry })

/-- Interrupts a stream for a caller. -/
def interrupt (relay : Relay) (requestId caller : String) : InterruptResult × Relay :=
  let (result, registry) := relay.registry.interrupt requestId caller
  (result, { relay with registry := registry })

/-- Cancels every live stream and counts those that were not done yet. -/
def cancelAll (relay : Relay) : Nat × Relay :=
  let (count, registry) := relay.registry.cancelAll
  (count, { relay with registry := registry })

end Relay

end TokenRelay
