/-
# Chat streams

Supplies the source behind a chat completion: a byte stream in chunks becomes text, the text is cut
into events at blank lines, and every event brings pieces of the answer, token counts, the mark of
the end, or an error. An event counts once it is complete, and the last one also when the stream
ends. Pieces are handed out one per pull; an error is handed out at once, before pieces of the same
chunk that have not been pulled yet.
-/

import TokenRelay.Chat.Feed
import TokenRelay.Chat.Line
import TokenRelay.Source.Script

namespace TokenRelay.Chat

/-- What has been made of the bytes that have arrived. -/
structure Reading where
  feed : Feed := {}
  /-- Text behind the last complete event. -/
  buffer : List Char := []
  /-- Pieces that have not been pulled yet. -/
  pending : List String := []
  /-- The last token counts. -/
  usage : Option Usage := none
  /-- The mark of the end has come, or the stream has ended. -/
  done : Bool := false

namespace Reading

/-- Takes in the lines of an event up to the first error, whose message is returned. -/
def absorb (reading : Reading) : List Line → Reading × Option String
  | [] => (reading, none)
  | .skipped :: rest => reading.absorb rest
  | .done :: rest => { reading with done := true }.absorb rest
  | .failure message :: _ => (reading, some message)
  | .delta pieces usage :: rest =>
    { reading with
      pending := reading.pending ++ pieces
      usage := usage.or reading.usage }.absorb rest

/-- Cuts a text into the events that are complete, each with the blank line that ends it, and the
text behind them. The event that is being read comes latest character first. -/
def cutFrom (event : List Char) : List Char → List (List Char) × List Char
  | [] => ([], event.reverse)
  | '\n' :: '\n' :: rest =>
    let (events, tail) := cutFrom [] rest
    (('\n' :: '\n' :: event).reverse :: events, tail)
  | character :: rest => cutFrom (character :: event) rest

/-- Takes in complete events up to the first error. The events behind it stay in the buffer, before
the text that follows them. -/
def absorbEvents (reading : Reading) (tail : List Char) :
    List (List Char) → Reading × Option String
  | [] => ({ reading with buffer := tail }, none)
  | event :: rest =>
    match reading.absorb (Line.ofText event) with
    | (reading, none) => reading.absorbEvents tail rest
    | (reading, some message) => ({ reading with buffer := rest.flatten ++ tail }, some message)

/-- Takes in one more chunk. -/
def receive (reading : Reading) (chunk : List UInt8) : Reading × Option String :=
  let (text, feed) := reading.feed.push chunk
  let (events, tail) := cutFrom [] (reading.buffer ++ text)
  { reading with feed := feed }.absorbEvents tail events

/-- Takes in the end of the stream: what is left makes one last event. -/
def finish (reading : Reading) : Reading × Option String :=
  let rest := reading.buffer ++ reading.feed.flush
  match { reading with feed := {}, buffer := [] }.absorb (Line.ofText rest) with
  | (reading, none) => ({ reading with done := true }, none)
  | (reading, some message) => (reading, some message)

/-- What is known about the turn. -/
def metadata (reading : Reading) : TurnMetadata :=
  { inputTokens := reading.usage.map Usage.promptTokens
    outputTokens := reading.usage.map Usage.completionTokens }

end Reading

/-- A chat stream: what has been made of it, and what is to come. -/
structure Stream where
  reading : Reading := {}
  chunks : List (List UInt8)
  /-- The connection breaks after the chunks, before the stream ends. -/
  broken : Bool := false

namespace Stream

/-- The error of a connection that breaks. -/
def brokenError : StreamError := .remote "Stream error: error decoding response body"

/-- Hands out the next piece, if there is one, or the end. -/
def handOut (stream : Stream) : Option (Pulled × Stream) :=
  match stream.reading.pending with
  | piece :: rest =>
    some (.fragment piece, { stream with reading := { stream.reading with pending := rest } })
  | [] => if stream.reading.done then some (.finished, stream) else none

/-- Pulls the next piece; takes in chunks until there is one. -/
def pullFrom (broken : Bool) (reading : Reading) : List (List UInt8) → Pulled × Stream
  | [] =>
    match handOut ⟨reading, [], broken⟩ with
    | some result => result
    | none =>
      if broken then (.failed brokenError, ⟨reading, [], false⟩)
      else
        match reading.finish with
        | (reading, some message) => (.failed (.remote message), ⟨reading, [], false⟩)
        | (reading, none) =>
          (handOut ⟨reading, [], false⟩).getD (.finished, ⟨reading, [], false⟩)
  | chunk :: rest =>
    match handOut ⟨reading, chunk :: rest, broken⟩ with
    | some result => result
    | none =>
      match reading.receive chunk with
      | (reading, some message) => (.failed (.remote message), ⟨reading, rest, broken⟩)
      | (reading, none) => pullFrom broken reading rest

/-- Pulls the next piece. -/
def pull (stream : Stream) : Pulled × Stream :=
  pullFrom stream.broken stream.reading stream.chunks

/-- The steps that a session goes through when it pulls the stream up to its end or its first
error, and what is known about the turn then. -/
def stepsFrom (broken : Bool) (reading : Reading) : List (List UInt8) → List Action × TurnMetadata
  | [] =>
    let pieces := reading.pending.map Action.fragment
    if reading.done then (pieces, reading.metadata)
    else if broken then (pieces ++ [.fail brokenError], reading.metadata)
    else
      match { reading with pending := [] }.finish with
      | (reading, some message) => (pieces ++ [.fail (.remote message)], reading.metadata)
      | (reading, none) => (pieces ++ reading.pending.map Action.fragment, reading.metadata)
  | chunk :: rest =>
    let pieces := reading.pending.map Action.fragment
    if reading.done then (pieces, reading.metadata)
    else
      match { reading with pending := [] }.receive chunk with
      | (reading, some message) => (pieces ++ [.fail (.remote message)], reading.metadata)
      | (reading, none) =>
        let (steps, metadata) := stepsFrom broken reading rest
        (pieces ++ steps, metadata)

/-- The stream as a script for a session: its chunks arrive without delay. -/
def toScript (stream : Stream) : Script :=
  let (actions, metadata) := stepsFrom stream.broken stream.reading stream.chunks
  { steps := actions.map fun action => { action }, metadata := metadata }

end Stream

end TokenRelay.Chat
