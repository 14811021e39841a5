/-
# The server

Supplies the state of the server: who may use it, where answers come from, the sessions that run,
and the transcripts that have been written. Requests that sources were opened for are remembered in
order. The records that ended sessions hand over are written when the sessions have settled, each as
a file of its own; what cannot be written is lost, and nobody is told.
-/

import TokenRelay.Auth.Authenticator
import TokenRelay.Backend.Basic
import TokenRelay.Session.Relay
import TokenRelay.Settings.Basic
import TokenRelay.Transcript.Store

namespace TokenRelay

/-- The server between two requests. -/
structure Server where
  backend : Backend
  authenticator : Authenticator := .noop
  relay : Relay := {}
  /-- Where transcripts are kept, if they are. -/
  store : Option TranscriptStore := none
  files : FileTree := {}
  /-- How many records of the relay have been written. -/
  written : Nat := 0
  /-- What sources were opened for, latest last. -/
  opened : List InferenceRequest := []

namespace TranscriptSettings

/-- Where the settings have transcripts kept. -/
def store? (settings : TranscriptSettings) : Option TranscriptStore :=
  if settings.enabled then
    some ⟨settings.storagePath, settings.pepper, settings.storesPartial⟩
  else none

/-- What the settings have done with the records of ended sessions. -/
def policy (settings : TranscriptSettings) : TranscriptPolicy :=
  if settings.enabled then .keep settings.storesPartial else .discard

end TranscriptSettings

namespace Server

/-- The server that settings describe, before its first request. -/
def ofSettings (settings : Settings) (network : Network) : Server :=
  { backend := settings.inference.build network
    authenticator := .ofSettings settings.auth
    relay := .new settings.channelCapacity.toNat settings.transcripts.policy
    store := settings.transcripts.store? }

/-- Writes a record, numbered in the order in which records are handed over. -/
def write (names : Nat → Uuid) (server : Server) (numbered : TranscriptRecord × Nat) :
    Server :=
  match server.store with
  | none => server
  | some store =>
    { server with files := (store.store server.files (names numbered.2) numbered.1).1 }

/-- Lets every session go on until it waits, and writes the records that are new. The file of each
record has the name that is given for its number. -/
def settle (server : Server) (names : Nat → Uuid) : Server :=
  let relay := server.relay.settle
  let fresh := (relay.records.drop server.written).zipIdx server.written
  fresh.foldl (write names) { server with relay, written := relay.records.length }

/-- Lets time pass. -/
def advance (server : Server) (milliseconds : Nat) : Server :=
  { server with relay := server.relay.advance milliseconds }

/-- Takes the next item of a stream for its reader. -/
def receive (server : Server) (number : Nat) : Received × Server :=
  let (result, relay) := server.relay.receive number
  (result, { server with relay })

/-- The reader of a stream leaves. -/
def abandon (server : Server) (number : Nat) : Server :=
  { server with relay := server.relay.abandon number }

/-- Cancels every live stream and counts those that were not done yet. -/
def cancelAll (server : Server) : Nat × Server :=
  let (count, relay) := server.relay.cancelAll
  (count, { server with relay })

end Server

end TokenRelay
