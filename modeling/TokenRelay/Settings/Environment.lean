/-
# Settings in the environment

Supplies the reading of settings from the variables of an environment. A blank variable counts as
one that is not set. Texts are taken as they are; numbers, names and flags are trimmed first. The
variables are read in a fixed order, and the first improper one is reported.
-/

import TokenRelay.Settings.Basic
import TokenRelay.Text.Natural

namespace TokenRelay

/-- The values of variables by name. -/
abbrev Environment : Type := String → Option String

/-- Why the value of a variable is improper. -/
inductive ImproperValue where
  | numeral (error : Text.NumeralError)
  | name (error : UnknownName)
  /-- Neither a word for yes nor one for no; in the form in which it was compared. -/
  | flag (text : String)
  deriving DecidableEq, Repr

/-- The text of the reason. -/
def ImproperValue.message : ImproperValue → String
  | .numeral error => error.message
  | .name error => error.message
  | .flag text => text

/-- Why an environment gives no settings. -/
inductive EnvironmentError where
  | improper (name : String) (reason : ImproperValue)
  | refused (error : SettingsError)
  deriving DecidableEq, Repr

/-- The text of the error. -/
def EnvironmentError.message : EnvironmentError → String
  | .improper name reason => "Invalid value for " ++ name ++ ": " ++ reason.message
  | .refused error => error.message

namespace Environment

/-- The value of a variable, unless it is blank. -/
def text? (environment : Environment) (name : String) : Option String :=
  (environment name).filter fun value => !Text.isBlankText value

/-- Reads a variable; one that is not set has a value of its own. -/
def read {α : Type} (environment : Environment) (name : String) (default : α)
    (reader : String → Except ImproperValue α) : Except EnvironmentError α :=
  match environment.text? name with
  | none => .ok default
  | some value =>
    match reader value with
    | .ok result => .ok result
    | .error reason => .error (.improper name reason)

end Environment

namespace ImproperValue

/-- Reads a number below a bound. -/
def natural (bound : Nat) (text : String) : Except ImproperValue Nat :=
  (Text.natural bound (Text.trim text)).mapError .numeral

/-- Reads a name. -/
def named {α : Type} (reader : String → Except UnknownName α) (text : String) :
    Except ImproperValue α :=
  (reader text).mapError .name

/-- The words for yes and no. -/
def flags : List (String × Bool) :=
  [("1", true), ("true", true), ("yes", true), ("on", true),
    ("0", false), ("false", false), ("no", false), ("off", false)]

/-- Reads a word for yes or no; blanks around it and the case of its letters do not matter. -/
def yesOrNo (text : String) : Except ImproperValue Bool :=
  let word := Text.asciiLower (Text.trim text)
  match flags.lookup word with
  | some value => .ok value
  | none => .error (.flag word)

end ImproperValue

/-- The parts of a text between commas; the part that is being read comes latest first. -/
def commaPartsFrom (part : List Char) : List Char → List (List Char)
  | [] => [part.reverse]
  | character :: rest =>
    if character = ',' then part.reverse :: commaPartsFrom [] rest
    else commaPartsFrom (character :: part) rest

/-- The parts of a text between commas, trimmed, without the empty ones. -/
def commaParts (text : String) : List String :=
  ((commaPartsFrom [] text.toList).map Text.trimChars).filter (!·.isEmpty)
    |>.map String.ofList

namespace Settings

open ImproperValue

/-- The settings that an environment denotes, before the conditions on them are tested. -/
def readEnvironment (environment : Environment) : Except EnvironmentError Settings := do
  let provider ← environment.read "STREAMGATE_PROVIDER" .mock (named Provider.ofText)
  let delay ← environment.read "STREAMGATE_MOCK_TOKEN_DELAY_MS" 0 (natural UInt64.size)
  let module ← environment.read "STREAMGATE_AUTH_MODULE" .noop (named AuthModule.ofText)
  let enabled ← environment.read "STREAMGATE_TRANSCRIPTS_ENABLED" false yesOrNo
  let storesPartial ← environment.read "STREAMGATE_TRANSCRIPTS_STORE_PARTIAL" false yesOrNo
  let port ← environment.read "STREAMGATE_PORT" ({} : Settings).port.toNat (natural UInt16.size)
  let logFormat ← environment.read "STREAMGATE_LOG_FORMAT" .text (named LogFormat.ofText)
  let capacity ← environment.read "STREAMGATE_CHANNEL_CAPACITY"
    ({} : Settings).channelCapacity.toNat (natural UInt64.size)
  return {
    host := (environment.text? "STREAMGATE_HOST").getD ({} : Settings).host
    port := UInt16.ofNat port
    logFormat
    inference := {
      provider
      model := environment.text? "STREAMGATE_MODEL"
      baseUrl := environment.text? "STREAMGATE_BASE_URL"
      apiKey := environment.text? "STREAMGATE_INFERENCE_API_KEY"
      systemPrompt := environment.text? "STREAMGATE_SYSTEM_PROMPT"
      mockTokenDelay := UInt64.ofNat delay }
    auth := {
      module
      apiKeys := ((environment.text? "STREAMGATE_API_KEYS").map commaParts).getD []
      jwtSecret := environment.text? "STREAMGATE_JWT_SECRET" }
    transcripts := {
      enabled
      storagePath := (environment.text? "STREAMGATE_TRANSCRIPTS_PATH").getD
        ({} : TranscriptSettings).storagePath
      storesPartial
      pepper := environment.text? "STREAMGATE_TRANSCRIPTS_PEPPER" }
    channelCapacity := UInt64.ofNat capacity }

/-- The settings that an environment denotes. -/
def ofEnvironment (environment : Environment) : Except EnvironmentError Settings :=
  match readEnvironment environment with
  | .error error => .error error
  | .ok settings =>
    match settings.validate with
    | .error error => .error (.refused error)
    | .ok () => .ok settings

end Settings

end TokenRelay
