/-
# Refusals keep secrets

Supplies that nobody learns a secret from the refusal of settings. Settings that differ in secrets
only are both accepted or both refused with the same message. An entry for a key is shown up to its
first colon. One without a colon may be a key as a whole, so nothing of it is shown.
-/

import Mathlib.Data.List.Forall2
import TokenRelay.Proofs.Auth.Ring
import TokenRelay.Proofs.Text.Trim
import TokenRelay.Settings.Basic

namespace TokenRelay

namespace KeyEntry

/-- Two entries for keys differ at most in what may be a key: the texts behind the first colon,
which are both blank or neither, or the whole texts if neither has a colon. -/
inductive Alike : String → String → Prop
  | bare {text text' : String} (plain : ':' ∉ text.toList) (plain' : ':' ∉ text'.toList) :
      Alike text text'
  | keyed {owner key key' : String} (plain : ':' ∉ owner.toList)
      (blank : Text.isBlankText key = Text.isBlankText key') :
      Alike (owner ++ ":" ++ key) (owner ++ ":" ++ key')

theorem atColon?_eq_none {text : String} (plain : ':' ∉ text.toList) : atColon? text = none := by
  rw [Option.eq_none_iff_forall_ne_some]
  rintro ⟨before, after⟩ found
  obtain ⟨whole, -⟩ := atColon?_eq_some_iff.1 found
  exact plain (by simp [whole])

theorem atColon?_append {owner key : String} (plain : ':' ∉ owner.toList) :
    atColon? (owner ++ ":" ++ key) = some (owner.toList, key.toList) :=
  atColon?_eq_some_iff.2 ⟨by simp, plain⟩

/-- A text with a colon is an entry if there is something on both sides of it. -/
theorem isNone_ofText?_append {owner key : String} (plain : ':' ∉ owner.toList) :
    (ofText? (owner ++ ":" ++ key)).isNone =
      (Text.isBlankText owner || Text.isBlankText key) := by
  simp only [ofText?, atColon?_append plain, Text.isEmpty_trimChars]
  rw [Text.isBlankText, Text.isBlankText]
  split
  · next blank => exact blank.symm
  · next filled => exact (Bool.eq_false_iff.2 filled).symm

theorem isNone_ofText?_of_plain {text : String} (plain : ':' ∉ text.toList) :
    (ofText? text).isNone = true := by
  simp only [ofText?, atColon?_eq_none plain, Option.isNone_none]

theorem redact_append {owner key : String} (plain : ':' ∉ owner.toList) :
    redact (owner ++ ":" ++ key) = owner ++ ":***" := by
  simp only [redact, atColon?_append plain, String.ofList_toList]

theorem redact_of_plain {text : String} (plain : ':' ∉ text.toList) : redact text = "***" := by
  simp only [redact, atColon?_eq_none plain]

/-- What is shown of an entry: the owner, or nothing if there is no colon behind which its key would
be. -/
theorem redact_cases (text : String) :
    (':' ∉ text.toList ∧ redact text = "***") ∨
      ∃ owner key, text = owner ++ ":" ++ key ∧ ':' ∉ owner.toList ∧
        redact text = owner ++ ":***" := by
  by_cases colon : ':' ∈ text.toList
  · obtain ⟨before, after, whole, plain⟩ := List.eq_append_cons_of_mem colon
    obtain rfl : text = String.ofList before ++ ":" ++ String.ofList after := by
      rw [← String.toList_inj, whole]
      simp
    have plain : ':' ∉ (String.ofList before).toList := by rwa [String.toList_ofList]
    exact .inr ⟨_, _, rfl, plain, redact_append plain⟩
  · exact .inl ⟨colon, redact_of_plain colon⟩

variable {text text' : String}

/-- They are both proper or both improper. -/
theorem Alike.isNone_eq (alike : Alike text text') :
    (ofText? text).isNone = (ofText? text').isNone := by
  cases alike with
  | bare plain plain' => rw [isNone_ofText?_of_plain plain, isNone_ofText?_of_plain plain']
  | keyed plain blank => rw [isNone_ofText?_append plain, isNone_ofText?_append plain, blank]

/-- They are shown as the same text. -/
theorem Alike.redact_eq (alike : Alike text text') : redact text = redact text' := by
  cases alike with
  | bare plain plain' => rw [redact_of_plain plain, redact_of_plain plain']
  | keyed plain blank => rw [redact_append plain, redact_append plain]

/-- The first of some texts that is no entry for a key. -/
def firstImproper? (texts : List String) : Option String :=
  texts.find? fun text => (ofText? text).isNone

/-- Of alike entries the first improper ones are at the same place, so they are shown alike. -/
theorem map_redact_firstImproper?_eq {entries entries' : List String}
    (alike : List.Forall₂ Alike entries entries') :
    (firstImproper? entries).map redact = (firstImproper? entries').map redact := by
  unfold firstImproper?
  induction alike with
  | nil => rfl
  | cons first rest ih =>
      rw [List.find?_cons, List.find?_cons, first.isNone_eq]
      split
      · exact congrArg some first.redact_eq
      · exact ih

end KeyEntry

namespace Settings

/-- The settings with the secrets of others. -/
def withSecretsOf (settings other : Settings) : Settings :=
  { settings with
    inference := { settings.inference with apiKey := other.inference.apiKey }
    auth := { settings.auth with
      apiKeys := other.auth.apiKeys
      jwtSecret := other.auth.jwtSecret }
    transcripts := { settings.transcripts with pepper := other.transcripts.pepper } }

/-- Two settings differ in secrets only: in what may be a key in the entries for keys, in what
tokens are signed with if both have something for it or neither has, in the key of the backend, and
in what pseudonyms are made with. -/
structure Alike (settings settings' : Settings) : Prop where
  withSecretsOf_eq : settings.withSecretsOf settings' = settings'
  apiKeys : List.Forall₂ KeyEntry.Alike settings.auth.apiKeys settings'.auth.apiKeys
  jwtSecret : settings.auth.jwtSecret ∈ [none, some ""] ↔
    settings'.auth.jwtSecret ∈ [none, some ""]

variable {settings settings' : Settings}

theorem Alike.channelCapacity_eq (alike : settings.Alike settings') :
    settings.channelCapacity = settings'.channelCapacity := by
  rw [← alike.withSecretsOf_eq]
  rfl

theorem Alike.module_eq (alike : settings.Alike settings') :
    settings.auth.module = settings'.auth.module := by
  rw [← alike.withSecretsOf_eq]
  rfl

/-- If callers present keys, there have to be keys, and the first entry that is not in its form is
reported as it is shown. -/
theorem validateAuth_of_apiKey {auth : AuthSettings} (chosen : auth.module = .apiKey) :
    validateAuth auth =
      if auth.apiKeys.isEmpty then .error .noKeys
      else
        match (KeyEntry.firstImproper? auth.apiKeys).map KeyEntry.redact with
        | some shown => .error (.improperEntry shown)
        | none => .ok () := by
  simp only [validateAuth, chosen, KeyEntry.firstImproper?]
  cases auth.apiKeys.find? _ <;> rfl

/-- If they present signed tokens, there has to be something to sign them with. -/
theorem validateAuth_of_jwt {auth : AuthSettings} (chosen : auth.module = .jwt) :
    validateAuth auth = if auth.jwtSecret ∈ [none, some ""] then .error .noSecret else .ok () := by
  have missing : (auth.jwtSecret.getD "").isEmpty = true ↔ auth.jwtSecret ∈ [none, some ""] := by
    cases auth.jwtSecret <;> simp
  simp only [validateAuth, chosen, missing]

/-- The conditions on authentication see no more of the secrets than what alike settings share. -/
theorem Alike.validateAuth_eq (alike : settings.Alike settings') :
    validateAuth settings.auth = validateAuth settings'.auth := by
  have module_eq := alike.module_eq
  cases chosen : settings'.auth.module with
  | noop => simp only [validateAuth, module_eq, chosen]
  | apiKey =>
      have isEmpty_eq : settings.auth.apiKeys.isEmpty = settings'.auth.apiKeys.isEmpty := by
        rw [Bool.eq_iff_iff, List.isEmpty_iff_length_eq_zero, List.isEmpty_iff_length_eq_zero,
          alike.apiKeys.length_eq]
      rw [validateAuth_of_apiKey (module_eq.trans chosen), validateAuth_of_apiKey chosen,
        isEmpty_eq, KeyEntry.map_redact_firstImproper?_eq alike.apiKeys]
  | jwt =>
      simp only [validateAuth_of_jwt (module_eq.trans chosen), validateAuth_of_jwt chosen,
        alike.jwtSecret]

/-- An entry is reported if it is the first that is not in its form. -/
theorem exists_of_validate_eq {shown : String}
    (refused : settings.validate = .error (.improperEntry shown)) :
    ∃ entry, KeyEntry.firstImproper? settings.auth.apiKeys = some entry ∧
      KeyEntry.redact entry = shown := by
  unfold validate at refused
  split at refused
  · cases refused
  · cases chosen : settings.auth.module with
    | noop => simp [validateAuth, chosen] at refused
    | apiKey =>
        rw [validateAuth_of_apiKey chosen] at refused
        split at refused
        · cases refused
        · split at refused
          · next found =>
            cases refused
            exact Option.map_eq_some_iff.1 found
          · cases refused
    | jwt =>
        rw [validateAuth_of_jwt chosen] at refused
        split at refused <;> cases refused

/-- Settings that differ in secrets only are both accepted, or both refused for the same reason and
so with the same message. Of the entries for keys a message shows at most the owner in the first one
that is not in its form, and nothing of it if it has no colon. -/
theorem refusal_tells_no_secret (alike : settings.Alike settings') :
    settings.validate = settings'.validate ∧
      ∀ shown, settings.validate = .error (.improperEntry shown) →
        ∃ entry, KeyEntry.firstImproper? settings.auth.apiKeys = some entry ∧
          ((':' ∉ entry.toList ∧ shown = "***") ∨
            ∃ owner key, entry = owner ++ ":" ++ key ∧ ':' ∉ owner.toList ∧
              shown = owner ++ ":***") := by
  constructor
  · rw [validate, validate, alike.channelCapacity_eq, alike.validateAuth_eq]
  · intro shown refused
    obtain ⟨entry, found, rfl⟩ := exists_of_validate_eq refused
    exact ⟨entry, found, KeyEntry.redact_cases entry⟩

/-- Settings of a server with a backend, whose callers present keys. -/
def guarded (apiKeys : List String) (jwtSecret apiKey pepper : Option String) : Settings :=
  { inference := { provider := .openai, apiKey }
    auth := { module := .apiKey, apiKeys, jwtSecret }
    transcripts := { enabled := true, pepper } }

/-- In place of a key without its owner any other may stand. -/
theorem lone_key_not_told :
    let settings := guarded ["alice:one", "sesame", "bob:"] (some "s") (some "k") none
    let settings' := guarded ["alice:two:2", "abracadabra", "bob: "] (some "t") none (some "salt")
    settings.Alike settings' ∧ settings.validate = settings'.validate ∧
      settings.validate = .error (.improperEntry "***") ∧
      SettingsError.message (.improperEntry "***") =
        "api key entry '***' is not in owner:key form" := by
  intro settings settings'
  have alice : KeyEntry.Alike ("alice" ++ ":" ++ "one") ("alice" ++ ":" ++ "two:2") :=
    .keyed (by decide) (by decide)
  have bob : KeyEntry.Alike ("bob" ++ ":" ++ "") ("bob" ++ ":" ++ " ") :=
    .keyed (by decide) (by decide)
  have alike : settings.Alike settings' := {
    withSecretsOf_eq := rfl
    apiKeys := .cons alice (.cons (.bare (by decide) (by decide)) (.cons bob .nil))
    jwtSecret := by decide }
  exact ⟨alike, (refusal_tells_no_secret alike).1, rfl, rfl⟩

end Settings

end TokenRelay
