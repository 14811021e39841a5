/-
# Choices of settings and their two written forms

Supplies choices of settings, every one of which may be left to its default, and writes them once as
variables and once as a document. One table lists the choices with the names that they have in both
forms. A choice that is not made is left out of both; of a section without any choice the header may
stand or not.
-/

import TokenRelay.Proofs.Toml.Written
import TokenRelay.Settings.Document
import TokenRelay.Settings.Environment

namespace TokenRelay

/-- The text of a variable with a value. -/
def Toml.Content.text : Toml.Content → String
  | .string text => text
  | .natural number => toString number
  | .bool value => toString value
  | .strings texts => ",".intercalate texts

/-- A setting with its value, if one was chosen. -/
structure Choice where
  /-- The key in its section. -/
  key : String
  /-- The name of its variable. -/
  name : String
  content : Option Toml.Content

/-- The written choices of a section. -/
def Choice.entries (choices : List Choice) : List (String × Toml.Content) :=
  choices.filterMap fun choice => choice.content.map fun content => (choice.key, content)

/-- The keys of the written choices are among those of all choices, in the same order. -/
theorem Choice.keys_sublist (choices : List Choice) :
    ((Choice.entries choices).map Prod.fst).Sublist (choices.map Choice.key) := by
  induction choices with
  | nil => exact .slnil
  | cons choice rest ih =>
      rw [entries, List.filterMap_cons]
      cases choice.content with
      | none => exact ih.cons choice.key
      | some content => exact ih.cons_cons choice.key

/-- What was chosen for each setting. -/
structure Choices where
  host : Option String := none
  port : Option Nat := none
  logFormat : Option LogFormat := none
  provider : Option Provider := none
  model : Option String := none
  baseUrl : Option String := none
  apiKey : Option String := none
  systemPrompt : Option String := none
  mockTokenDelay : Option Nat := none
  module : Option AuthModule := none
  apiKeys : Option (List String) := none
  jwtSecret : Option String := none
  enabled : Option Bool := none
  storagePath : Option String := none
  storesPartial : Option Bool := none
  pepper : Option String := none
  channelCapacity : Option Nat := none

namespace Choices

/-- The settings of the section `server`; so with the next ones. -/
def server (choices : Choices) : List Choice :=
  [⟨"host", "STREAMGATE_HOST", choices.host.map .string⟩,
   ⟨"port", "STREAMGATE_PORT", choices.port.map .natural⟩]

def logging (choices : Choices) : List Choice :=
  [⟨"format", "STREAMGATE_LOG_FORMAT", choices.logFormat.map (.string ·.name)⟩]

def inference (choices : Choices) : List Choice :=
  [⟨"provider", "STREAMGATE_PROVIDER", choices.provider.map (.string ·.name)⟩,
   ⟨"model", "STREAMGATE_MODEL", choices.model.map .string⟩,
   ⟨"base_url", "STREAMGATE_BASE_URL", choices.baseUrl.map .string⟩,
   ⟨"api_key", "STREAMGATE_INFERENCE_API_KEY", choices.apiKey.map .string⟩,
   ⟨"system_prompt", "STREAMGATE_SYSTEM_PROMPT", choices.systemPrompt.map .string⟩,
   ⟨"mock_token_delay_ms", "STREAMGATE_MOCK_TOKEN_DELAY_MS", choices.mockTokenDelay.map .natural⟩]

def auth (choices : Choices) : List Choice :=
  [⟨"module", "STREAMGATE_AUTH_MODULE", choices.module.map (.string ·.name)⟩,
   ⟨"api_keys", "STREAMGATE_API_KEYS", choices.apiKeys.map .strings⟩,
   ⟨"jwt_secret", "STREAMGATE_JWT_SECRET", choices.jwtSecret.map .string⟩]

def transcripts (choices : Choices) : List Choice :=
  [⟨"enabled", "STREAMGATE_TRANSCRIPTS_ENABLED", choices.enabled.map .bool⟩,
   ⟨"storage_path", "STREAMGATE_TRANSCRIPTS_PATH", choices.storagePath.map .string⟩,
   ⟨"store_partial", "STREAMGATE_TRANSCRIPTS_STORE_PARTIAL", choices.storesPartial.map .bool⟩,
   ⟨"anonymization_pepper", "STREAMGATE_TRANSCRIPTS_PEPPER", choices.pepper.map .string⟩]

def streaming (choices : Choices) : List Choice :=
  [⟨"channel_capacity", "STREAMGATE_CHANNEL_CAPACITY", choices.channelCapacity.map .natural⟩]

/-- The settings under their sections. -/
def table (choices : Choices) : List (String × List Choice) :=
  [("server", choices.server), ("logging", choices.logging), ("inference", choices.inference),
   ("auth", choices.auth), ("transcripts", choices.transcripts), ("streaming", choices.streaming)]

/-- The settings of all sections. -/
def rows (choices : Choices) : List Choice := choices.table.flatMap Prod.snd

/-- The choices as variables. -/
def environment (choices : Choices) : Environment := fun name =>
  (choices.rows.filterMap fun choice =>
    choice.content.map fun content => (choice.name, content.text)).lookup name

/-- A section is written if it has a choice, or if its header is to be written in any case. -/
def isWritten (bare : String → Bool) (part : String × List Choice) : Bool :=
  bare part.1 || !(Choice.entries part.2).isEmpty

/-- The choices as sections. -/
def sections (choices : Choices) (bare : String → Bool) : List Toml.Section :=
  (choices.table.filter (isWritten bare)).map fun part => ⟨part.1, Choice.entries part.2⟩

/-- The choices as a document. -/
def document (choices : Choices) (bare : String → Bool) : String :=
  Toml.written (choices.sections bare)

/-- What was chosen, with the defaults for the rest. -/
def settings (choices : Choices) : Settings where
  host := choices.host.getD ({} : Settings).host
  port := UInt16.ofNat (choices.port.getD ({} : Settings).port.toNat)
  logFormat := choices.logFormat.getD ({} : Settings).logFormat
  inference := {
    provider := choices.provider.getD ({} : BackendSettings).provider
    model := choices.model
    baseUrl := choices.baseUrl
    apiKey := choices.apiKey
    systemPrompt := choices.systemPrompt
    mockTokenDelay := UInt64.ofNat
      (choices.mockTokenDelay.getD ({} : BackendSettings).mockTokenDelay.toNat) }
  auth := {
    module := choices.module.getD ({} : AuthSettings).module
    apiKeys := choices.apiKeys.getD ({} : AuthSettings).apiKeys
    jwtSecret := choices.jwtSecret }
  transcripts := {
    enabled := choices.enabled.getD ({} : TranscriptSettings).enabled
    storagePath := choices.storagePath.getD ({} : TranscriptSettings).storagePath
    storesPartial := choices.storesPartial.getD ({} : TranscriptSettings).storesPartial
    pepper := choices.pepper }
  channelCapacity :=
    UInt64.ofNat (choices.channelCapacity.getD ({} : Settings).channelCapacity.toNat)

/-- The greatest number that a document has to be able to hold. -/
def greatestNumber : Nat := 0x7FFFFFFFFFFFFFFF

/-- An entry that stands for itself between commas. -/
structure IsPart (entry : String) : Prop where
  ne_empty : entry ≠ ""
  trimmed : Text.trim entry = entry
  plain : ',' ∉ entry.toList

/-- Choices that both forms can hold: numbers are not too great, texts are not blank, and the
entries for keys can be told apart between commas. -/
structure Proper (choices : Choices) : Prop where
  port : ∀ number ∈ choices.port, number < UInt16.size
  numbers : ∀ chosen ∈ [choices.mockTokenDelay, choices.channelCapacity], ∀ number ∈ chosen,
    number ≤ greatestNumber
  texts : ∀ chosen ∈ [choices.host, choices.model, choices.baseUrl, choices.apiKey,
    choices.systemPrompt, choices.jwtSecret, choices.storagePath, choices.pepper],
    ∀ text ∈ chosen, Text.isBlankText text = false
  apiKeys : ∀ entries ∈ choices.apiKeys, ∀ entry ∈ entries, IsPart entry

theorem Proper.fits {choices : Choices} (proper : choices.Proper) (chosen : Option Nat)
    (number : chosen ∈ [choices.mockTokenDelay, choices.channelCapacity]) :
    ∀ value ∈ chosen, value < UInt64.size := fun value inside =>
  Nat.lt_of_le_of_lt (proper.numbers chosen number value inside) (by decide)

/-- No setting shares its variable with another one. -/
theorem nodup_names (choices : Choices) : (choices.rows.map Choice.name).Nodup := by
  have names : choices.rows.map Choice.name =
      ["STREAMGATE_HOST", "STREAMGATE_PORT", "STREAMGATE_LOG_FORMAT", "STREAMGATE_PROVIDER",
       "STREAMGATE_MODEL", "STREAMGATE_BASE_URL", "STREAMGATE_INFERENCE_API_KEY",
       "STREAMGATE_SYSTEM_PROMPT", "STREAMGATE_MOCK_TOKEN_DELAY_MS", "STREAMGATE_AUTH_MODULE",
       "STREAMGATE_API_KEYS", "STREAMGATE_JWT_SECRET", "STREAMGATE_TRANSCRIPTS_ENABLED",
       "STREAMGATE_TRANSCRIPTS_PATH", "STREAMGATE_TRANSCRIPTS_STORE_PARTIAL",
       "STREAMGATE_TRANSCRIPTS_PEPPER", "STREAMGATE_CHANNEL_CAPACITY"] := rfl
  rw [names]
  decide

/-- The sections with the keys of their settings. -/
theorem names_table (choices : Choices) :
    choices.table.map (fun part => (part.1, part.2.map Choice.key)) =
      [("server", ["host", "port"]), ("logging", ["format"]),
       ("inference", ["provider", "model", "base_url", "api_key", "system_prompt",
         "mock_token_delay_ms"]),
       ("auth", ["module", "api_keys", "jwt_secret"]),
       ("transcripts", ["enabled", "storage_path", "store_partial", "anonymization_pepper"]),
       ("streaming", ["channel_capacity"])] := rfl

/-- Sections and settings have names that need no quotation marks, and no two settings of a section
share their key. -/
theorem named_table {choices : Choices} {part : String × List Choice}
    (listed : part ∈ choices.table) :
    Toml.IsBare part.1 ∧ (∀ key ∈ part.2.map Choice.key, Toml.IsBare key) ∧
      (part.2.map Choice.key).Nodup := by
  have named : ∀ names ∈ choices.table.map (fun part => (part.1, part.2.map Choice.key)),
      Toml.IsBare names.1 ∧ (∀ key ∈ names.2, Toml.IsBare key) ∧ names.2.Nodup := by
    rw [names_table]
    decide +kernel
  exact named _ (List.mem_map_of_mem listed)

theorem proper_sections (choices : Choices) (bare : String → Bool) :
    ∀ written ∈ choices.sections bare, written.Proper := by
  intro written inside
  obtain ⟨part, kept, rfl⟩ := List.mem_map.1 inside
  obtain ⟨name, keys, distinct⟩ := named_table (List.mem_filter.1 kept).1
  have written := Choice.keys_sublist part.2
  exact ⟨name, fun entry listed => keys _ (written.subset (List.mem_map_of_mem listed)),
    distinct.sublist written⟩

theorem nodup_table (choices : Choices) : (choices.table.map Prod.fst).Nodup :=
  (by decide : ["server", "logging", "inference", "auth", "transcripts", "streaming"].Nodup)

/-- The names of the written sections are among those of all sections, in the same order. -/
theorem names_sublist (choices : Choices) (bare : String → Bool) :
    ((choices.sections bare).map Toml.Section.name).Sublist (choices.table.map Prod.fst) := by
  rw [sections, List.map_map]
  exact List.filter_sublist.map Prod.fst

end Choices

end TokenRelay
