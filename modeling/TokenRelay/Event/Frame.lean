/-
# Frames

Supplies the wire form of events. One event is one frame: the field name `data: `, the event as
one line of JSON, and a blank line. Reading a frame undoes this in the order in which the parts
stand: the field name, the blank line, the JSON, the name of the event, its data. A body is a
sequence of frames, possibly with blank chunks between them.
-/

import TokenRelay.Event.Basic
import TokenRelay.Text.Blank

namespace TokenRelay

/-- Why a frame cannot be read. -/
inductive FrameError where
  /-- The text does not start with the field name. -/
  | unlabelled
  /-- The text does not end with a blank line. -/
  | unterminated
  /-- No event has this name. -/
  | unknownEvent (name : String)
  /-- The JSON of the frame or its data cannot be read. -/
  | json (fault : Fault)
  deriving DecidableEq, Repr

/-- The text of a frame error; a JSON fault has no text of its own. -/
def FrameError.message : FrameError → String
  | .unlabelled => "missing `data: ` prefix"
  | .unterminated => "missing blank line terminator"
  | .unknownEvent name => "unknown event type '" ++ name ++ "'"
  | .json _ => ""

namespace Event

/-- What every frame starts with. -/
def label : List Char := ['d', 'a', 't', 'a', ':', ' ']

/-- What every frame ends with. -/
def terminator : List Char := ['\n', '\n']

/-- The JSON form of quotas. -/
def quotasToJson (quotas : KeyMap UInt64) : Json :=
  .object (quotas.entries.map fun entry => (entry.1, .ofWord entry.2))

/-- The JSON form of an event: its name, its data, and at the end of a turn the quotas. -/
def toJson (event : Event) : Json :=
  match event with
  | .start conversationId requestId =>
    .object [("event", .string event.name),
      ("data", .object [("conversation_id", .string conversationId),
        ("request_id", .string requestId)])]
  | .token id text =>
    .object [("event", .string event.name),
      ("data", .object [("id", .ofWord id), ("token", .string text)])]
  | .finish metadata quotas =>
    .object [("event", .string event.name), ("data", metadata.toJson),
      ("available_quotas", quotasToJson quotas)]

/-- The frame of an event. -/
def encode (event : Event) : String :=
  String.ofList label ++ event.toJson.compact ++ String.ofList terminator

/-- A frame whose event has not been looked at yet. -/
structure RawFrame where
  event : String
  data : Json
  quotas : Option (KeyMap UInt64)

/-- A raw frame as a record. -/
def RawFrame.record : Record RawFrame :=
  Record.pure RawFrame.mk
    |>.and (.required "event" .string)
    |>.and (.required "data" Reader.value)
    |>.and (.defaulted "available_quotas" none (.option (.dictionary .word)))

/-- The data of a start event; a request without identifier counts as the empty one. -/
def startRecord : Record Event :=
  Record.pure Event.start
    |>.and (.required "conversation_id" .string)
    |>.and (.defaulted "request_id" "" .string)

/-- The data of a token event. -/
def tokenRecord : Record Event :=
  Record.pure Event.token
    |>.and (.required "id" .word)
    |>.and (.required "token" .string)

/-- The event of a raw frame. Quotas count at the end of a turn only. -/
def ofRawFrame (frame : RawFrame) : Except FrameError Event :=
  match frame.event with
  | "start" => (Reader.ofJson (startRecord.reader false) frame.data).mapError .json
  | "token" => (Reader.ofJson (tokenRecord.reader false) frame.data).mapError .json
  | "end" =>
    match Reader.ofJson TurnMetadata.reader frame.data with
    | .error fault => .error (.json fault)
    | .ok metadata => .ok (.finish metadata (frame.quotas.getD .empty))
  | name => .error (.unknownEvent name)

/-- A list without the given beginning, if it starts with it. -/
def dropLabel? (start : List Char) : List Char → Option (List Char)
  | text => if start.isPrefixOf text then some (text.drop start.length) else none

/-- A list without the given end, if it ends with it. -/
def dropTerminator? (ending text : List Char) : Option (List Char) :=
  (dropLabel? ending.reverse text.reverse).map List.reverse

/-- Reads the characters of one frame. -/
def decodeChars (frame : List Char) : Except FrameError Event :=
  match dropLabel? label frame with
  | none => .error .unlabelled
  | some rest =>
    match dropTerminator? terminator rest with
    | none => .error .unterminated
    | some payload =>
      match (RawFrame.record.reader false).run (Document.ofUnits (payload.map some)) with
      | .error fault => .error (.json fault)
      | .ok raw => ofRawFrame raw

/-- Reads one frame. -/
def decode (frame : String) : Except FrameError Event :=
  decodeChars frame.toList

/-- Cuts a body after every pair of newlines. The chunk that is being read and the chunks before
it come latest first. -/
def chunksFrom (chunks : List (List Char)) (chunk : List Char) :
    List Char → List (List Char)
  | [] => (if chunk.isEmpty then chunks else chunk.reverse :: chunks).reverse
  | '\n' :: '\n' :: rest => chunksFrom (('\n' :: '\n' :: chunk).reverse :: chunks) [] rest
  | character :: rest => chunksFrom chunks (character :: chunk) rest

/-- The chunks of a body, each with the pair of newlines that ends it. -/
def chunks (body : List Char) : List (List Char) :=
  chunksFrom [] [] body

/-- Reads chunks one after the other up to the first fault; the events so far come latest
first. -/
def decodeChunks (events : List Event) : List (List Char) → Except FrameError (List Event)
  | [] => .ok events.reverse
  | chunk :: rest =>
    if chunk.all Text.isBlank then decodeChunks events rest
    else
      match decodeChars chunk with
      | .error fault => .error fault
      | .ok event => decodeChunks (event :: events) rest

/-- Reads a body of frames; blank chunks are passed over. -/
def decodeAll (body : String) : Except FrameError (List Event) :=
  decodeChunks [] (chunks body.toList)

end Event

end TokenRelay
