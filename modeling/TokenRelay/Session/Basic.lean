/-
# Sessions

Supplies the work that turns one source into one stream of events. A session sends the start
event, pulls its source and sends one token event for every fragment, and closes with the end
event. It stops early when it is cancelled, when its consumer has left, or when its source fails.
Events pass through a channel of bounded capacity, and a session that finds it full waits for the
consumer.

`Session.poll` runs a session until it waits for something: for its source, for room in the
channel, or for nothing because it has ended. Wherever it could go on in several ways it looks
first at cancellation, then at the consumer, then at the source and the channel. An error and the
end event are past cancellation: once they are about to be sent only the consumer matters.
-/

import TokenRelay.Source.Script
import TokenRelay.Transcript.Record

namespace TokenRelay

/-- The fragments of a turn, joined. -/
structure Accumulator where
  text : String := ""
  fragments : Nat := 0
  deriving DecidableEq, Repr

/-- Appends a fragment. -/
def Accumulator.push (accumulator : Accumulator) (fragment : String) : Accumulator :=
  ⟨accumulator.text ++ fragment, accumulator.fragments + 1⟩

/-- How a session ended. -/
inductive Outcome where
  | completed
  | cancelled
  | failed (message : String)
  /-- The consumer left before the end. -/
  | disconnected
  deriving DecidableEq, Repr

/-- The name of an outcome. -/
def Outcome.name : Outcome → String
  | .completed => "completed"
  | .cancelled => "cancelled"
  | .failed _ => "failed"
  | .disconnected => "disconnected"

/-- What a session is asked to stream. -/
structure SessionRequest where
  requestId : String
  conversationId : String
  owner : String
  query : String
  provider : Option String := none
  model : Option String := none
  /-- What is left of each quota, reported at the end of the turn. -/
  quotas : KeyMap UInt64 := .empty

/-- What passes through the channel of a session. -/
inductive Item where
  | event (event : Event)
  | failure (error : StreamError)

/-- The channel between a session and its consumer. It remembers everything that was sent, so what
it holds is the part that the consumer has not received yet. -/
structure Channel where
  /-- How many items may wait for the consumer. -/
  capacity : Nat
  sent : Array Item := #[]
  /-- How many items the consumer has received. -/
  received : Nat := 0
  /-- The consumer has left. -/
  abandoned : Bool := false

namespace Channel

/-- The most items that a channel can be made for. Its free places are counted in a word of the
machine, three bits of which serve other ends. -/
def limit : Nat := UInt64.size / 8 - 1

/-- Makes an empty channel, if it holds an item at all and its free places can be counted. -/
def make? (capacity : Nat) : Option Channel :=
  if 1 ≤ capacity ∧ capacity ≤ limit then some { capacity } else none

/-- How many items wait for the consumer. -/
def waiting (channel : Channel) : Nat := channel.sent.size - channel.received

/-- Whether one more item may wait. -/
def hasRoom (channel : Channel) : Bool := channel.waiting < channel.capacity

/-- Sends an item. -/
def send (channel : Channel) (item : Item) : Channel :=
  { channel with sent := channel.sent.push item }

/-- The item that the consumer receives next, and the channel afterwards. -/
def receive? (channel : Channel) : Option (Item × Channel) :=
  match channel.sent[channel.received]? with
  | some item => some (item, { channel with received := channel.received + 1 })
  | none => none

end Channel

/-- Where a session stands between two runs. -/
inductive Phase where
  /-- It has not run yet. -/
  | created
  /-- It has pulled its source; the given action takes effect at the given time. -/
  | awaiting (due : Nat) (action : Action)
  /-- It has a fragment and waits for room in the channel. -/
  | sending (fragment : String)
  /-- Its source has failed, and it waits for room in the channel. -/
  | reporting (error : StreamError)
  /-- Its source is over, and it waits for room in the channel. -/
  | closing
  | ended (outcome : Outcome)

/-- One session. -/
structure Session where
  request : SessionRequest
  /-- The number of its handle. -/
  handle : Nat
  /-- What is left of its source. -/
  source : Script
  channel : Channel
  phase : Phase := .created
  accumulator : Accumulator := {}

namespace Session

/-- How the session ended, if it has. -/
def outcome? (session : Session) : Option Outcome :=
  match session.phase with
  | .ended outcome => some outcome
  | _ => none

/-- Whether the session is beyond cancellation: its source is over, or it has ended. -/
def isFinished (session : Session) : Bool :=
  match session.phase with
  | .closing | .ended _ => true
  | _ => false

/-- The session, ended. -/
def finish (session : Session) (outcome : Outcome) : Session :=
  { session with phase := .ended outcome }

/-- The session with one more event in its channel. -/
def emit (session : Session) (event : Event) : Session :=
  { session with channel := session.channel.send (.event event) }

/-- The first event of the session. -/
def startEvent (session : Session) : Event :=
  .start session.request.conversationId session.request.requestId

/-- The last event of a complete session. -/
def endEvent (session : Session) : Event :=
  .finish session.source.metadata session.request.quotas

/-- Sends a fragment as the next token. -/
def sendToken (session : Session) (fragment : String) : Session :=
  let id := UInt64.ofNat session.accumulator.fragments
  { session.emit (.token id fragment) with
    accumulator := session.accumulator.push fragment }

/-- Reports the failure of the source. The session fails whether or not anybody hears of it. -/
def report (session : Session) (error : StreamError) : Session :=
  if session.channel.abandoned then session.finish (.failed error.text)
  else if session.channel.hasRoom then
    { session with channel := session.channel.send (.failure error.asRemote) }.finish
      (.failed error.text)
  else { session with phase := .reporting error }

/-- Sends the end event. The session is complete once the event is in the channel. -/
def close (session : Session) : Session :=
  if session.channel.abandoned then session.finish .disconnected
  else if session.channel.hasRoom then (session.emit session.endEvent).finish .completed
  else { session with phase := .closing }

/-- Goes through the given steps of the source until the session has to wait. -/
def forward (now : Nat) (session : Session) : List Step → Session
  | [] =>
    let session := { session with source := { session.source with steps := [] } }
    if session.source.endless then { session with phase := .awaiting now .hang }
    else session.close
  | step :: rest =>
    let after := { session with source := { session.source with steps := rest } }
    if 0 < step.delay then { after with phase := .awaiting (now + step.delay) step.action }
    else
      match step.action with
      | .fragment text =>
        if session.channel.hasRoom then forward now (session.sendToken text) rest
        else { after with phase := .sending text }
      | .fail error => after.report error
      | .finish => after.close
      | .hang => { after with phase := .awaiting now .hang }
      | .crash => after.finish (.failed "session task panicked")

/-- Runs the session until it waits, given whether it has been cancelled and the time. -/
def poll (cancelled : Bool) (now : Nat) (session : Session) : Session :=
  match session.phase with
  | .ended _ => session
  | .reporting error => session.report error
  | .closing => session.close
  | .created =>
    if cancelled then session.finish .cancelled
    else if session.channel.abandoned then session.finish .disconnected
    else (session.emit session.startEvent).forward now session.source.steps
  | .awaiting due action =>
    if cancelled then session.finish .cancelled
    else if session.channel.abandoned then session.finish .disconnected
    else if due ≤ now then session.forward now ({ action } :: session.source.steps)
    else session
  | .sending fragment =>
    if cancelled then session.finish .cancelled
    else if session.channel.abandoned then session.finish .disconnected
    else session.forward now ({ action := .fragment fragment } :: session.source.steps)

/-- What an ended session hands to the transcripts: a complete turn always, a turn that was cut
short only if such turns are kept, and a failed one never. Of a turn that was cut short nothing
is known but that. -/
def transcript? (session : Session) (keepsPartial : Bool) (timestamp : Timestamp) :
    Option TranscriptRecord :=
  let record (metadata : TurnMetadata) (interrupted : Bool) : TranscriptRecord :=
    { userId := session.request.owner
      conversationId := session.request.conversationId
      requestId := session.request.requestId
      query := session.request.query
      response := session.accumulator.text
      provider := session.request.provider
      model := session.request.model
      metadata := metadata
      interrupted := interrupted
      timestamp := timestamp }
  match session.phase with
  | .ended .completed => some (record session.source.metadata false)
  | .ended .cancelled | .ended .disconnected =>
    if keepsPartial then some (record .cutShort true) else none
  | _ => none

end Session

end TokenRelay
