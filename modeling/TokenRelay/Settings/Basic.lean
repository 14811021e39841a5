/-
# Settings of the server

Supplies the settings, their values in absence of a choice, and the conditions on them. The
conditions are tested in a fixed order, so settings that break several of them are always refused
for the same one. No refusal shows a secret.
-/

import TokenRelay.Auth.KeyEntry
import TokenRelay.Auth.Settings
import TokenRelay.Backend.Settings

namespace TokenRelay

/-- How the server writes its log. -/
inductive LogFormat where
  | text
  | json
  deriving DecidableEq, Repr

namespace LogFormat

/-- The name of a log format. -/
def name : LogFormat → String
  | .text => "text"
  | .json => "json"

/-- Every log format under its name. -/
def names : List (String × LogFormat) :=
  [(name .text, .text), (name .json, .json)]

/-- The log format that a user names. -/
def ofText : String → Except UnknownName LogFormat :=
  readName "log format" names

end LogFormat

/-- Whether and where the records of turns are kept. -/
structure TranscriptSettings where
  enabled : Bool := false
  storagePath : String := "transcripts"
  /-- Whether turns that were cut short are kept too. -/
  storesPartial : Bool := false
  /-- What pseudonyms are made with. -/
  pepper : Option String := none
  deriving DecidableEq, Repr

/-- The settings of the server. -/
structure Settings where
  host : String := "0.0.0.0"
  port : UInt16 := 8080
  logFormat : LogFormat := .text
  inference : BackendSettings := {}
  auth : AuthSettings := {}
  transcripts : TranscriptSettings := {}
  /-- How many items the channel of a session holds. -/
  channelCapacity : UInt64 := 32
  deriving DecidableEq, Repr

/-- Why settings are refused. -/
inductive SettingsError where
  | noCapacity
  | noKeys
  /-- An entry for a key is not in its form; it is kept without the key. -/
  | improperEntry (shown : String)
  | noSecret
  deriving DecidableEq, Repr

/-- The text of a refusal. -/
def SettingsError.message : SettingsError → String
  | .noCapacity => "streaming.channel_capacity must be at least 1"
  | .noKeys => "auth module 'api_key' requires at least one api key"
  | .improperEntry shown => "api key entry '" ++ shown ++ "' is not in owner:key form"
  | .noSecret => "auth module 'jwt' requires jwt_secret"

namespace Settings

/-- The address that the server listens at. -/
def address (settings : Settings) : String :=
  settings.host ++ ":" ++ toString settings.port.toNat

/-- The conditions on the settings of authentication: the chosen way to identify callers has what it
needs. What the other ways need is not looked at. -/
def validateAuth (auth : AuthSettings) : Except SettingsError Unit :=
  match auth.module with
  | .noop => .ok ()
  | .apiKey =>
    if auth.apiKeys.isEmpty then .error .noKeys
    else
      match auth.apiKeys.find? fun entry => (KeyEntry.ofText? entry).isNone with
      | some entry => .error (.improperEntry (KeyEntry.redact entry))
      | none => .ok ()
  | .jwt =>
    if (auth.jwtSecret.getD "").isEmpty then .error .noSecret else .ok ()

/-- The conditions on settings. -/
def validate (settings : Settings) : Except SettingsError Unit :=
  if settings.channelCapacity = 0 then .error .noCapacity else validateAuth settings.auth

end Settings

end TokenRelay
