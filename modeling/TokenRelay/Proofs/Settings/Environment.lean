/-
# Settings from written variables

Supplies that an environment with the variables for some choices denotes the settings that were
chosen.
-/

import TokenRelay.Proofs.Settings.Choices

namespace TokenRelay

/-! ### Texts between commas -/

theorem commaPartsFrom_eq (part text : List Char) :
    commaPartsFrom part text = text.splitOnPPrepend (· == ',') part := by
  induction text generalizing part with
  | nil => rfl
  | cons character rest ih => simp only [commaPartsFrom, List.splitOnPPrepend, ih, beq_iff_eq]

theorem Choices.IsPart.trimChars_eq {entry : String} (part : IsPart entry) :
    Text.trimChars entry.toList = entry.toList := by
  have same := part.trimmed
  rwa [← String.toList_inj, Text.trim, String.toList_ofList] at same

section Parts

variable {entries : List String} (parts : ∀ entry ∈ entries, Choices.IsPart entry)
include parts

/-- Parts that stand for themselves are found between the commas. -/
theorem commaParts_intercalate : commaParts (",".intercalate entries) = entries := by
  cases entries with
  | nil => rfl
  | cons first rest =>
      have split : commaPartsFrom [] (",".intercalate (first :: rest)).toList =
          (first :: rest).map String.toList := by
        have plain : ∀ part ∈ (first :: rest).map String.toList, ',' ∉ part := by
          simpa using fun entry inside => (parts entry inside).plain
        rw [commaPartsFrom_eq, String.toList_intercalate]
        exact List.splitOn_intercalate ',' plain (by simp)
      have trimmed : ∀ entry ∈ first :: rest,
          (Text.trimChars ∘ String.toList) entry = entry.toList :=
        fun entry inside => (parts entry inside).trimChars_eq
      have kept : ∀ part ∈ (first :: rest).map String.toList, (!part.isEmpty) = true := by
        simpa using fun entry inside => (parts entry inside).ne_empty
      rw [commaParts, split, List.map_map, List.map_congr_left trimmed,
        List.filter_eq_self.2 kept, List.map_map]
      simp [Function.comp_def]

/-- A text that is made of them is blank only if there are none. -/
theorem isBlankText_intercalate :
    Text.isBlankText (",".intercalate entries) = entries.isEmpty := by
  cases entries with
  | nil => rfl
  | cons first rest =>
      have part := parts first List.mem_cons_self
      obtain ⟨character, characters, begins⟩ := List.exists_cons_of_ne_nil
        (mt String.toList_eq_nil_iff.1 part.ne_empty)
      have visible : Text.isBlank character = false :=
        (Text.isTrimmed_iff.2 part.trimChars_eq).first (by rw [begins]; rfl)
      rw [Text.isBlankText, String.toList_intercalate, List.map_cons, begins]
      cases rest <;> simp [visible]

end Parts

namespace Environment

/-- A variable has the text that was written for its choice. -/
theorem environment_of_mem {choices : Choices} {choice : Choice} (listed : choice ∈ choices.rows) :
    choices.environment choice.name = choice.content.map Toml.Content.text := by
  have written := lookup_filterMap Choice.name
    (fun choice => choice.content.map Toml.Content.text) choices.nodup_names listed
  simpa [Choices.environment, Option.map_map, Function.comp_def] using written

/-- The text is found, unless it is blank. -/
theorem text?_of_mem {choices : Choices} {choice : Choice} (listed : choice ∈ choices.rows)
    (visible : ∀ content ∈ choice.content, Text.isBlankText content.text = false) :
    choices.environment.text? choice.name = choice.content.map Toml.Content.text := by
  rw [text?, environment_of_mem listed]
  cases content : choice.content with
  | none => rfl
  | some content' => simp [visible content' content]

/-- A text is found as it was chosen. -/
theorem text?_string (choices : Choices) {key name : String} {chosen : Option String}
    (listed : ⟨key, name, chosen.map .string⟩ ∈ choices.rows)
    (visible : ∀ text ∈ chosen, Text.isBlankText text = false) :
    choices.environment.text? name = chosen := by
  have found := text?_of_mem listed (by simpa [Toml.Content.text] using visible)
  simpa [Option.map_map, Function.comp_def, Toml.Content.text] using found

/-- A choice is read from the text that was written for it. -/
theorem read_of_mem {α : Type} {choices : Choices} {key name : String} {chosen : Option α}
    {write : α → Toml.Content} (listed : ⟨key, name, chosen.map write⟩ ∈ choices.rows)
    (visible : ∀ choice ∈ chosen, Text.isBlankText (write choice).text = false)
    {reader : String → Except ImproperValue α}
    (reads : ∀ choice ∈ chosen, reader (write choice).text = .ok choice) (default : α) :
    choices.environment.read name default reader = .ok (chosen.getD default) := by
  have found := text?_of_mem listed (by simpa using visible)
  rw [read, found]
  cases chosen with
  | none => rfl
  | some choice => simp [reads choice rfl]

end Environment

namespace ImproperValue

theorem natural_toString {bound number : Nat} (fits : number < bound) :
    natural bound (toString number) = .ok number := by
  have trimmed : Text.trim (toString number) = toString number := by
    rw [Text.trim, Text.toList_toString, (Text.isTrimmed_toDigits number).trimChars_eq,
      ← Text.toList_toString, String.ofList_toList]
  rw [natural, trimmed, Text.natural_toString fits]
  rfl

theorem yesOrNo_toString (value : Bool) : yesOrNo (toString value) = .ok value := by
  cases value <;> rfl

theorem named_provider (provider : Provider) :
    named Provider.ofText provider.name = .ok provider := by
  cases provider <;> rfl

theorem named_logFormat (format : LogFormat) :
    named LogFormat.ofText format.name = .ok format := by
  cases format <;> rfl

theorem named_authModule (module : AuthModule) :
    named AuthModule.ofText module.name = .ok module := by
  cases module <;> rfl

end ImproperValue

namespace Environment

open ImproperValue

variable (choices : Choices) {key name : String}

theorem read_natural {chosen : Option Nat}
    (listed : ⟨key, name, chosen.map .natural⟩ ∈ choices.rows) {bound : Nat}
    (fits : ∀ number ∈ chosen, number < bound) (default : Nat) :
    choices.environment.read name default (natural bound) = .ok (chosen.getD default) :=
  read_of_mem listed (fun number _ => Text.isBlankText_toString number)
    (fun number inside => natural_toString (fits number inside)) default

theorem read_flag {chosen : Option Bool}
    (listed : ⟨key, name, chosen.map .bool⟩ ∈ choices.rows) (default : Bool) :
    choices.environment.read name default yesOrNo = .ok (chosen.getD default) :=
  read_of_mem listed (fun value _ => by cases value <;> rfl)
    (fun value _ => yesOrNo_toString value) default

theorem read_name {α : Type} {chosen : Option α} {label : α → String}
    (listed : ⟨key, name, chosen.map (.string <| label ·)⟩ ∈ choices.rows)
    (visible : ∀ value, Text.isBlankText (label value) = false)
    {reader : String → Except UnknownName α}
    (reads : ∀ value, named reader (label value) = .ok value) (default : α) :
    choices.environment.read name default (named reader) = .ok (chosen.getD default) :=
  read_of_mem listed (fun value _ => visible value)
    (fun value _ => reads value) default

/-- Of entries for keys that were written nothing is lost, even if there are none. -/
theorem commaParts_text? (listed : ⟨key, name, choices.apiKeys.map .strings⟩ ∈ choices.rows)
    (parts : ∀ entries ∈ choices.apiKeys, ∀ entry ∈ entries, Choices.IsPart entry) :
    ((choices.environment.text? name).map commaParts).getD [] = choices.apiKeys.getD [] := by
  have found : choices.environment name = choices.apiKeys.map (",".intercalate ·) :=
    (environment_of_mem listed).trans (Option.map_map ..)
  rw [text?, found]
  cases chosen : choices.apiKeys with
  | none => rfl
  | some entries =>
      have read := commaParts_intercalate (parts entries chosen)
      have blank := isBlankText_intercalate (parts entries chosen)
      cases entries with
      | nil => rfl
      | cons first rest =>
          have kept : (some (",".intercalate (first :: rest))).filter (!Text.isBlankText ·) =
              some (",".intercalate (first :: rest)) := by simp [blank]
          exact (congrArg (fun found => (found.map commaParts).getD []) kept).trans read

end Environment

namespace Settings

open Environment ImproperValue

theorem readEnvironment_environment {choices : Choices} (proper : choices.Proper) :
    readEnvironment choices.environment = .ok choices.settings := by
  have host := text?_string choices (List.mem_of_getElem? (i := 0) rfl)
    (proper.texts choices.host (by simp))
  have port := read_natural choices (List.mem_of_getElem? (i := 1) rfl) proper.port
    ({} : Settings).port.toNat
  have logFormat := read_name choices (List.mem_of_getElem? (i := 2) rfl)
    (fun choice => by cases choice <;> rfl) named_logFormat .text
  have provider := read_name choices (List.mem_of_getElem? (i := 3) rfl)
    (fun choice => by cases choice <;> rfl) named_provider .mock
  have model := text?_string choices (List.mem_of_getElem? (i := 4) rfl)
    (proper.texts choices.model (by simp))
  have baseUrl := text?_string choices (List.mem_of_getElem? (i := 5) rfl)
    (proper.texts choices.baseUrl (by simp))
  have apiKey := text?_string choices (List.mem_of_getElem? (i := 6) rfl)
    (proper.texts choices.apiKey (by simp))
  have systemPrompt := text?_string choices (List.mem_of_getElem? (i := 7) rfl)
    (proper.texts choices.systemPrompt (by simp))
  have delay := read_natural choices (List.mem_of_getElem? (i := 8) rfl)
    (proper.fits choices.mockTokenDelay (by simp)) 0
  have module := read_name choices (List.mem_of_getElem? (i := 9) rfl)
    (fun choice => by cases choice <;> rfl) named_authModule .noop
  have apiKeys := commaParts_text? choices (List.mem_of_getElem? (i := 10) rfl) proper.apiKeys
  have jwtSecret := text?_string choices (List.mem_of_getElem? (i := 11) rfl)
    (proper.texts choices.jwtSecret (by simp))
  have enabled := read_flag choices (List.mem_of_getElem? (i := 12) rfl) false
  have storagePath := text?_string choices (List.mem_of_getElem? (i := 13) rfl)
    (proper.texts choices.storagePath (by simp))
  have storesPartial := read_flag choices (List.mem_of_getElem? (i := 14) rfl) false
  have pepper := text?_string choices (List.mem_of_getElem? (i := 15) rfl)
    (proper.texts choices.pepper (by simp))
  have capacity := read_natural choices (List.mem_of_getElem? (i := 16) rfl)
    (proper.fits choices.channelCapacity (by simp)) ({} : Settings).channelCapacity.toNat
  simp only [readEnvironment, provider, delay, module, enabled, storesPartial, port, logFormat,
    capacity, bind, Except.bind, pure, Except.pure, host, model, baseUrl, apiKey, systemPrompt,
    apiKeys, jwtSecret, storagePath, pepper]
  rfl

end Settings

end TokenRelay
