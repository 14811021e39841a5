/-
# Settings in a TOML document

Supplies the reading of settings from a TOML text. Every section and every setting may be left out;
sections and settings that are not known are ignored.
-/

import TokenRelay.Settings.Basic
import TokenRelay.Toml.Document
import TokenRelay.Toml.Reader

namespace TokenRelay

/-- Why a text gives no settings. -/
inductive DocumentError where
  /-- It is no TOML, or a value does not fit its setting. -/
  | malformed
  | refused (error : SettingsError)
  deriving DecidableEq, Repr

/-- The text of the error. -/
def DocumentError.message : DocumentError → String
  | .malformed => "TOML parse error at an unknown position"
  | .refused error => error.message

namespace Settings

open Toml (Entries)

/-- Reads the section that says where to listen. -/
def readServer : Toml.Reader (String × UInt16) := fun item => do
  let fields ← item.fields? ["host", "port"]
  let host ← fields.field "host" ({} : Settings).host Toml.Reader.string
  let port ← fields.field "port" ({} : Settings).port.toNat (Toml.Reader.below UInt16.size)
  return (host, UInt16.ofNat port)

/-- Reads the section about the log. -/
def readLogging : Toml.Reader LogFormat := fun item => do
  let fields ← item.fields? ["format"]
  fields.field "format" .text (Toml.Reader.choice LogFormat.names)

/-- Reads the section about the backend. -/
def readInference : Toml.Reader BackendSettings := fun item => do
  let fields ← item.fields?
    ["provider", "model", "base_url", "api_key", "system_prompt", "mock_token_delay_ms"]
  let provider ← fields.field "provider" .mock (Toml.Reader.choice Provider.names)
  let model ← fields.field "model" none (Toml.Reader.present Toml.Reader.string)
  let baseUrl ← fields.field "base_url" none (Toml.Reader.present Toml.Reader.string)
  let apiKey ← fields.field "api_key" none (Toml.Reader.present Toml.Reader.string)
  let systemPrompt ← fields.field "system_prompt" none (Toml.Reader.present Toml.Reader.string)
  let delay ← fields.field "mock_token_delay_ms" 0 (Toml.Reader.below UInt64.size)
  return { provider, model, baseUrl, apiKey, systemPrompt, mockTokenDelay := UInt64.ofNat delay }

/-- Reads the section about authentication. -/
def readAuth : Toml.Reader AuthSettings := fun item => do
  let fields ← item.fields? ["module", "api_keys", "jwt_secret"]
  let module ← fields.field "module" .noop (Toml.Reader.choice AuthModule.names)
  let apiKeys ← fields.field "api_keys" [] (Toml.Reader.list Toml.Reader.string)
  let jwtSecret ← fields.field "jwt_secret" none (Toml.Reader.present Toml.Reader.string)
  return { module, apiKeys, jwtSecret }

/-- Reads the section about transcripts. -/
def readTranscripts : Toml.Reader TranscriptSettings := fun item => do
  let fields ← item.fields? ["enabled", "storage_path", "store_partial", "anonymization_pepper"]
  let enabled ← fields.field "enabled" false Toml.Reader.bool
  let storagePath ← fields.field "storage_path" ({} : TranscriptSettings).storagePath
    Toml.Reader.string
  let storesPartial ← fields.field "store_partial" false Toml.Reader.bool
  let pepper ← fields.field "anonymization_pepper" none (Toml.Reader.present Toml.Reader.string)
  return { enabled, storagePath, storesPartial, pepper }

/-- Reads the section about streams. -/
def readStreaming : Toml.Reader UInt64 := fun item => do
  let fields ← item.fields? ["channel_capacity"]
  let capacity ← fields.field "channel_capacity" ({} : Settings).channelCapacity.toNat
    (Toml.Reader.below UInt64.size)
  return UInt64.ofNat capacity

/-- Reads all sections. -/
def ofDocument? (document : Entries) : Option Settings := do
  let sections ← (Toml.Item.table .header document).fields?
    ["server", "logging", "inference", "auth", "transcripts", "streaming"]
  let (host, port) ← sections.field "server" (({} : Settings).host, ({} : Settings).port) readServer
  let logFormat ← sections.field "logging" .text readLogging
  let inference ← sections.field "inference" {} readInference
  let auth ← sections.field "auth" {} readAuth
  let transcripts ← sections.field "transcripts" {} readTranscripts
  let channelCapacity ← sections.field "streaming" ({} : Settings).channelCapacity readStreaming
  return { host, port, logFormat, inference, auth, transcripts, channelCapacity }

/-- The settings that a TOML text denotes. -/
def ofToml (text : String) : Except DocumentError Settings :=
  match (Toml.Document.ofText? text).bind ofDocument? with
  | none => .error .malformed
  | some settings =>
    match settings.validate with
    | .error error => .error (.refused error)
    | .ok () => .ok settings

end Settings

end TokenRelay
