/-
# Settings from a written document

Supplies that a document with the sections for some choices denotes the settings that were chosen. A
section that is left out is read like one without entries.
-/

import TokenRelay.Proofs.Settings.Choices

namespace TokenRelay

open Toml (Content Entries Item)

/-! ### Fields of written tables -/

/-- What the written choices of a section are read as. -/
def Choice.items (choices : List Choice) : Entries := Toml.Section.items (Choice.entries choices)

theorem Choice.lookup_items {choices : List Choice} (once : (choices.map Choice.key).Nodup)
    {choice : Choice} (listed : choice ∈ choices) :
    (Choice.items choices).lookup choice.key = choice.content.map Content.item := by
  have found := lookup_filterMap Choice.key (fun choice => choice.content.map Content.item)
    once listed
  rw [← found, items, Toml.Section.items, entries, List.map_filterMap]
  simp [Option.map_map, Function.comp_def]

namespace Toml

/-- A table without unknown keys gives all its entries. -/
theorem Item.fields?_table {names : List String} {entries : Entries}
    (known : ∀ entry ∈ entries, entry.1 ∈ names) (origin : Origin) :
    Item.fields? names (.table origin entries) = some entries := by
  have rest : (entries.filter fun entry => !names.contains entry.1) = [] := by
    simpa [List.filter_eq_nil_iff] using known
  rw [fields?, rest]
  rfl

end Toml

namespace Choice

theorem fields?_items (choices : List Choice) :
    Item.fields? (choices.map Choice.key) (.table .header (Choice.items choices)) =
      some (Choice.items choices) := by
  apply Toml.Item.fields?_table
  intro entry inside
  simp only [items, Toml.Section.items, entries, List.mem_map, List.mem_filterMap,
    Option.map_eq_some_iff] at inside
  obtain ⟨_, ⟨choice, listed, _, _, rfl⟩, rfl⟩ := inside
  exact List.mem_map_of_mem listed

section Fields

variable {choices : List Choice} (once : (choices.map Choice.key).Nodup) {key name : String}
include once

/-- A choice is read from the value that was written for it. -/
theorem field_of_mem {α β : Type} {chosen : Option β} {write : β → Content}
    (listed : ⟨key, name, chosen.map write⟩ ∈ choices) (reader : Toml.Reader α) (value : β → α)
    (reads : ∀ choice ∈ chosen, reader (write choice).item = some (value choice)) (default : α) :
    (Choice.items choices).field key default reader = some ((chosen.map value).getD default) := by
  have found : (Choice.items choices).lookup key = (chosen.map write).map Content.item :=
    lookup_items once listed
  rw [Entries.field, found]
  cases chosen with
  | none => rfl
  | some choice => exact reads choice rfl

theorem field_natural {chosen : Option Nat} (listed : ⟨key, name, chosen.map .natural⟩ ∈ choices)
    {bound : Nat} (fits : ∀ number ∈ chosen, number < bound) (default : Nat) :
    (Choice.items choices).field key default (Toml.Reader.below bound) =
      some (chosen.getD default) := by
  have reads : ∀ number ∈ chosen, Toml.Reader.below bound (Content.natural number).item =
      some number := by
    intro number inside
    have small := fits number inside
    simp [Content.item, Toml.Reader.below, small]
  simpa using field_of_mem once listed _ id reads default

theorem field_flag {chosen : Option Bool} (listed : ⟨key, name, chosen.map .bool⟩ ∈ choices)
    (default : Bool) :
    (Choice.items choices).field key default Toml.Reader.bool = some (chosen.getD default) := by
  simpa using field_of_mem once listed Toml.Reader.bool id (fun _ _ => rfl) default

theorem field_string {chosen : Option String} (listed : ⟨key, name, chosen.map .string⟩ ∈ choices)
    (default : String) :
    (Choice.items choices).field key default Toml.Reader.string = some (chosen.getD default) := by
  simpa using field_of_mem once listed Toml.Reader.string id (fun _ _ => rfl) default

theorem field_present {chosen : Option String}
    (listed : ⟨key, name, chosen.map .string⟩ ∈ choices) :
    (Choice.items choices).field key none (Toml.Reader.present Toml.Reader.string) =
      some chosen := by
  have read := field_of_mem once listed (Toml.Reader.present Toml.Reader.string) some
    (fun _ _ => rfl) none
  rw [read]
  cases chosen <;> rfl

theorem field_strings {chosen : Option (List String)}
    (listed : ⟨key, name, chosen.map .strings⟩ ∈ choices) (default : List String) :
    (Choice.items choices).field key default (Toml.Reader.list Toml.Reader.string) =
      some (chosen.getD default) := by
  have reads (texts : List String) :
      Toml.Reader.list Toml.Reader.string (Content.strings texts).item = some texts := by
    change (texts.map fun text => .scalar (.string text)).mapM Toml.Reader.string = some texts
    induction texts with
    | nil => rfl
    | cons text rest ih =>
        rw [List.map_cons, List.mapM_cons, ih]
        rfl
  simpa using field_of_mem once listed _ id (fun texts _ => reads texts) default

theorem field_name {α : Type} {chosen : Option α} {label : α → String}
    (listed : ⟨key, name, chosen.map (.string <| label ·)⟩ ∈ choices)
    {names : List (String × α)} (named : ∀ value, names.lookup (label value) = some value)
    (default : α) :
    (Choice.items choices).field key default (Toml.Reader.choice names) =
      some (chosen.getD default) := by
  simpa using field_of_mem once listed (Toml.Reader.choice names) id
    (fun value _ => named value) default

end Fields

end Choice

/-! ### The sections -/

theorem LogFormat.lookup_name (format : LogFormat) :
    LogFormat.names.lookup format.name = some format := by
  cases format <;> rfl

theorem Provider.lookup_name (provider : Provider) :
    Provider.names.lookup provider.name = some provider := by
  cases provider <;> rfl

theorem AuthModule.lookup_name (module : AuthModule) :
    AuthModule.names.lookup module.name = some module := by
  cases module <;> rfl

namespace Settings

open Choice

variable {choices : Choices}

theorem readServer_items (fits : ∀ number ∈ choices.port, number < UInt16.size) :
    readServer (.table .header (items choices.server)) =
      some (choices.settings.host, choices.settings.port) := by
  have once : (choices.server.map Choice.key).Nodup :=
    (Choices.named_table (List.mem_of_getElem? (i := 0) rfl)).2.2
  have fields : Item.fields? ["host", "port"] (.table .header (items choices.server)) =
      some (items choices.server) := fields?_items choices.server
  have host := field_string once (List.mem_of_getElem? (i := 0) rfl) ({} : Settings).host
  have port := field_natural once (List.mem_of_getElem? (i := 1) rfl) fits
    ({} : Settings).port.toNat
  simp only [readServer, fields, host, port, Option.bind_eq_bind, Option.bind_some]
  rfl

theorem readLogging_items (choices : Choices) :
    readLogging (.table .header (items choices.logging)) = some choices.settings.logFormat := by
  have once : (choices.logging.map Choice.key).Nodup :=
    (Choices.named_table (List.mem_of_getElem? (i := 1) rfl)).2.2
  have fields : Item.fields? ["format"] (.table .header (items choices.logging)) =
      some (items choices.logging) := fields?_items choices.logging
  have format := field_name once (List.mem_of_getElem? (i := 0) rfl) LogFormat.lookup_name .text
  simp only [readLogging, fields, format, Option.bind_eq_bind, Option.bind_some]
  rfl

theorem readInference_items
    (fits : ∀ number ∈ choices.mockTokenDelay, number < UInt64.size) :
    readInference (.table .header (items choices.inference)) = some choices.settings.inference := by
  have once : (choices.inference.map Choice.key).Nodup :=
    (Choices.named_table (List.mem_of_getElem? (i := 2) rfl)).2.2
  have fields : Item.fields? ["provider", "model", "base_url", "api_key", "system_prompt",
      "mock_token_delay_ms"] (.table .header (items choices.inference)) =
      some (items choices.inference) := fields?_items choices.inference
  have provider := field_name once (List.mem_of_getElem? (i := 0) rfl) Provider.lookup_name .mock
  have model := field_present once (List.mem_of_getElem? (i := 1) rfl)
  have baseUrl := field_present once (List.mem_of_getElem? (i := 2) rfl)
  have apiKey := field_present once (List.mem_of_getElem? (i := 3) rfl)
  have systemPrompt := field_present once (List.mem_of_getElem? (i := 4) rfl)
  have delay := field_natural once (List.mem_of_getElem? (i := 5) rfl) fits 0
  simp only [readInference, fields, provider, model, baseUrl, apiKey, systemPrompt, delay,
    Option.bind_eq_bind, Option.bind_some]
  rfl

theorem readAuth_items (choices : Choices) :
    readAuth (.table .header (items choices.auth)) = some choices.settings.auth := by
  have once : (choices.auth.map Choice.key).Nodup :=
    (Choices.named_table (List.mem_of_getElem? (i := 3) rfl)).2.2
  have fields : Item.fields? ["module", "api_keys", "jwt_secret"]
      (.table .header (items choices.auth)) =
      some (items choices.auth) := fields?_items choices.auth
  have module := field_name once (List.mem_of_getElem? (i := 0) rfl) AuthModule.lookup_name .noop
  have apiKeys := field_strings once (List.mem_of_getElem? (i := 1) rfl) []
  have jwtSecret := field_present once (List.mem_of_getElem? (i := 2) rfl)
  simp only [readAuth, fields, module, apiKeys, jwtSecret, Option.bind_eq_bind, Option.bind_some]
  rfl

theorem readTranscripts_items (choices : Choices) :
    readTranscripts (.table .header (items choices.transcripts)) =
      some choices.settings.transcripts := by
  have once : (choices.transcripts.map Choice.key).Nodup :=
    (Choices.named_table (List.mem_of_getElem? (i := 4) rfl)).2.2
  have fields : Item.fields? ["enabled", "storage_path", "store_partial", "anonymization_pepper"]
      (.table .header (items choices.transcripts)) =
      some (items choices.transcripts) := fields?_items choices.transcripts
  have enabled := field_flag once (List.mem_of_getElem? (i := 0) rfl) false
  have storagePath := field_string once (List.mem_of_getElem? (i := 1) rfl)
    ({} : TranscriptSettings).storagePath
  have storesPartial := field_flag once (List.mem_of_getElem? (i := 2) rfl) false
  have pepper := field_present once (List.mem_of_getElem? (i := 3) rfl)
  simp only [readTranscripts, fields, enabled, storagePath, storesPartial, pepper,
    Option.bind_eq_bind, Option.bind_some]
  rfl

theorem readStreaming_items (fits : ∀ number ∈ choices.channelCapacity, number < UInt64.size) :
    readStreaming (.table .header (items choices.streaming)) =
      some choices.settings.channelCapacity := by
  have once : (choices.streaming.map Choice.key).Nodup :=
    (Choices.named_table (List.mem_of_getElem? (i := 5) rfl)).2.2
  have fields : Item.fields? ["channel_capacity"] (.table .header (items choices.streaming)) =
      some (items choices.streaming) := fields?_items choices.streaming
  have capacity := field_natural once (List.mem_of_getElem? (i := 0) rfl) fits
    ({} : Settings).channelCapacity.toNat
  simp only [readStreaming, fields, capacity, Option.bind_eq_bind, Option.bind_some]
  rfl

/-- A section that is left out is read like one without entries. -/
theorem field_sections (choices : Choices) {name : String} {rows : List Choice}
    (listed : (name, rows) ∈ choices.table) {α : Type} (reader : Toml.Reader α) (default : α)
    (absent : reader (.table .header []) = some default) (bare : String → Bool) :
    Entries.field ((choices.sections bare).map Toml.Section.entry) name default reader =
      reader (.table .header (items rows)) := by
  have written : (choices.sections bare).map Toml.Section.entry =
      choices.table.filterMap fun part =>
        (if Choices.isWritten bare part then some (Item.table .header (items part.2))
          else none).map fun found => (part.1, found) := by
    rw [Choices.sections, List.map_map]
    induction choices.table with
    | nil => rfl
    | cons part rest ih =>
        rw [List.filter_cons, List.filterMap_cons, ← ih]
        cases Choices.isWritten bare part <;> rfl
  have found := lookup_filterMap Prod.fst (fun part : String × List Choice =>
    if Choices.isWritten bare part then some (Item.table .header (items part.2)) else none)
    choices.nodup_table listed
  rw [Entries.field, written, found]
  cases kept : Choices.isWritten bare (name, rows) with
  | true => rfl
  | false =>
      have none : entries rows = [] := by simpa using (Bool.or_eq_false_iff.1 kept).2
      rw [items, none]
      exact absent.symm

theorem ofDocument?_sections (proper : choices.Proper) (bare : String → Bool) :
    ofDocument? ((choices.sections bare).map Toml.Section.entry) = some choices.settings := by
  have fields : Item.fields? ["server", "logging", "inference", "auth", "transcripts", "streaming"]
      (.table .header ((choices.sections bare).map Toml.Section.entry)) =
      some ((choices.sections bare).map Toml.Section.entry) := by
    apply Toml.Item.fields?_table
    intro entry inside
    obtain ⟨written, listed, rfl⟩ := List.mem_map.1 inside
    exact (choices.names_sublist bare).subset (List.mem_map_of_mem listed)
  have server := (field_sections choices (List.mem_of_getElem? (i := 0) rfl) readServer
    (({} : Settings).host, ({} : Settings).port) rfl bare).trans (readServer_items proper.port)
  have logging := (field_sections choices (List.mem_of_getElem? (i := 1) rfl) readLogging
    .text rfl bare).trans (readLogging_items choices)
  have inference := (field_sections choices (List.mem_of_getElem? (i := 2) rfl) readInference
    {} rfl bare).trans (readInference_items (proper.fits _ (by simp)))
  have auth := (field_sections choices (List.mem_of_getElem? (i := 3) rfl) readAuth
    {} rfl bare).trans (readAuth_items choices)
  have transcripts := (field_sections choices (List.mem_of_getElem? (i := 4) rfl) readTranscripts
    {} rfl bare).trans (readTranscripts_items choices)
  have streaming := (field_sections choices (List.mem_of_getElem? (i := 5) rfl) readStreaming
    ({} : Settings).channelCapacity rfl bare).trans (readStreaming_items (proper.fits _ (by simp)))
  simp only [ofDocument?, fields, server, logging, inference, auth, transcripts, streaming,
    Option.bind_eq_bind, Option.bind_some]
  rfl

/-- The document for some choices is read as the settings that were chosen. -/
theorem ofText?_document (proper : choices.Proper) (bare : String → Bool) :
    (Toml.Document.ofText? (choices.document bare)).bind ofDocument? = some choices.settings := by
  have once := choices.nodup_table.sublist (choices.names_sublist bare)
  rw [Choices.document, Toml.ofText?_written (choices.proper_sections bare) once, Option.bind_some,
    ofDocument?_sections proper]

end Settings

end TokenRelay
