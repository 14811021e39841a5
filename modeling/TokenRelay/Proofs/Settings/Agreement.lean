/-
# Variables and documents agree

Supplies that the same choices give the same settings, whether they are written as variables or as a
document, and are refused with the same message where they break a condition.
-/

import TokenRelay.Proofs.Settings.Document
import TokenRelay.Proofs.Settings.Environment

namespace TokenRelay.Settings

/-- Whatever is chosen and whatever is left to its default, the variables and the document denote
the settings that were chosen; if these break a condition, both are refused for it and say so with
the same message. -/
theorem environment_agrees_with_document {choices : Choices} (proper : choices.Proper)
    (bare : String → Bool) :
    (choices.settings.validate = .ok () →
      ofEnvironment choices.environment = .ok choices.settings ∧
        ofToml (choices.document bare) = .ok choices.settings) ∧
    ∀ reason, choices.settings.validate = .error reason →
      ∃ error error', ofEnvironment choices.environment = .error error ∧
        ofToml (choices.document bare) = .error error' ∧
        error.message = reason.message ∧ error'.message = reason.message := by
  simp only [ofEnvironment, readEnvironment_environment proper, ofToml, ofText?_document proper]
  constructor
  · intro accepted
    rw [accepted]
    exact ⟨rfl, rfl⟩
  · intro reason refused
    rw [refused]
    exact ⟨.refused reason, .refused reason, rfl, rfl, rfl, rfl⟩

/-- Choices for a server with two callers and a model whose name needs escapes. -/
def keyedChoices : Choices where
  model := some "a \"b\"\n"
  module := some .apiKey
  apiKeys := some ["alice:one", "bob:two"]
  storesPartial := some true
  channelCapacity := some 8

/-- Choices that ask for keys without any. -/
def keylessChoices : Choices where
  module := some .apiKey

theorem keyedChoices_agree :
    keyedChoices.document (· = "logging") =
        String.join ["[logging]\n", "[inference]\n", "model = \"a \\\"b\\\"\\u000a\"\n", "[auth]\n",
          "module = \"api_key\"\n", "api_keys = [\"alice:one\", \"bob:two\"]\n", "[transcripts]\n",
          "store_partial = true\n", "[streaming]\n", "channel_capacity = 8\n"] ∧
      ofEnvironment keyedChoices.environment = .ok keyedChoices.settings ∧
      ofToml (keyedChoices.document (· = "logging")) = .ok keyedChoices.settings ∧
      ∃ error error', ofEnvironment keylessChoices.environment = .error error ∧
        ofToml (keylessChoices.document fun _ => false) = .error error' ∧
        error.message = "auth module 'api_key' requires at least one api key" ∧
        error'.message = "auth module 'api_key' requires at least one api key" := by
  have parts : ∀ entry ∈ ["alice:one", "bob:two"],
      entry ≠ "" ∧ Text.trim entry = entry ∧ ',' ∉ entry.toList := by decide +kernel
  have keyed : keyedChoices.Proper := {
    port := nofun
    numbers := by simp [keyedChoices, Choices.greatestNumber]
    texts := by
      simp only [keyedChoices]
      decide +kernel
    apiKeys := by
      rintro _ ⟨⟩ entry inside
      obtain ⟨ne_empty, trimmed, plain⟩ := parts entry inside
      exact ⟨ne_empty, trimmed, plain⟩ }
  have keyless : keylessChoices.Proper := {
    port := nofun
    numbers := by simp [keylessChoices]
    texts := by simp [keylessChoices]
    apiKeys := nofun }
  obtain ⟨environment, document⟩ := (environment_agrees_with_document keyed (· = "logging")).1 rfl
  refine ⟨?_, environment, document, ?_⟩
  · decide +kernel
  · exact (environment_agrees_with_document keyless fun _ => false).2 .noKeys rfl

end TokenRelay.Settings
