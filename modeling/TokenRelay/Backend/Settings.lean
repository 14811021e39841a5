/-
# Backend settings

Supplies the providers of answers, the settings that choose and describe one, and their JSON form.
-/

import TokenRelay.Json.Reader
import TokenRelay.Text.Name

namespace TokenRelay

/-- Where answers come from. -/
inductive Provider where
  | mock
  | openai
  deriving DecidableEq, Repr

namespace Provider

/-- The name of a provider. -/
def name : Provider → String
  | .mock => "mock"
  | .openai => "openai"

/-- Every provider under its name. -/
def names : List (String × Provider) :=
  [(name .mock, .mock), (name .openai, .openai)]

/-- The provider that a user names. -/
def ofText : String → Except UnknownName Provider :=
  readName "inference provider" names

/-- The model of a provider if none is chosen. -/
def defaultModel : Provider → String
  | .mock => "echo"
  | .openai => "gpt-4o-mini"

end Provider

/-- The settings of a backend. -/
structure BackendSettings where
  provider : Provider := .mock
  model : Option String := none
  baseUrl : Option String := none
  apiKey : Option String := none
  systemPrompt : Option String := none
  /-- Milliseconds before every fragment of the mock provider. -/
  mockTokenDelay : UInt64 := 0
  deriving DecidableEq, Repr

namespace BackendSettings

/-- The chosen model, or the one of the provider. -/
def modelOrDefault (settings : BackendSettings) : String :=
  settings.model.getD settings.provider.defaultModel

/-- The settings as a record; everything may be absent. -/
def record : Record BackendSettings :=
  Record.pure BackendSettings.mk
    |>.and (.defaulted "provider" .mock (.choice Provider.names))
    |>.and (.defaulted "model" none (.option .string))
    |>.and (.defaulted "base_url" none (.option .string))
    |>.and (.defaulted "api_key" none (.option .string))
    |>.and (.defaulted "system_prompt" none (.option .string))
    |>.and (.defaulted "mock_token_delay_ms" 0 .word)

/-- Reads the settings. -/
def reader : Reader BackendSettings := record.reader false

end BackendSettings

end TokenRelay
