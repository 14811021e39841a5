/-
# Blank variables

Supplies when a blank variable counts as one that is not set. A setting is read from its variable
only if there is something in it, so there a blank variable always does. The variable that names the
file is followed even if it is blank. Then what is loaded is not the same as without it, unless a
file with that blank name holds the very settings that are loaded when no file is named. Errors are
told apart by their messages, which is all of them that is ever seen.
-/

import Mathlib.Tactic.TFAE
import TokenRelay.Settings.Load

namespace TokenRelay

namespace Environment

/-- Whether a variable is one of the server's, to be told by its name. -/
def isOwn (name : String) : Bool := "STREAMGATE_".toList.isPrefixOf name.toList

/-- An environment from which the blank ones of some variables have been removed. -/
def withoutBlanks (environment : Environment) (among : String → Bool) : Environment := fun name =>
  (environment name).filter fun value => !(among name && Text.isBlankText value)

variable (environment : Environment) (among : String → Bool)

/-- Blank variables have no text, so none is lost with them. -/
theorem text?_withoutBlanks (name : String) :
    (environment.withoutBlanks among).text? name = environment.text? name := by
  rw [text?, text?, withoutBlanks, Option.filter_filter]
  congr 1
  funext value
  cases Text.isBlankText value <;> simp

/-- Of a variable that is among the chosen ones only what is not blank is left. -/
theorem withoutBlanks_of_among {name : String} (chosen : among name = true) :
    environment.withoutBlanks among name = environment.text? name := by
  simp [withoutBlanks, text?, chosen]

/-- Any other variable keeps its value. -/
theorem withoutBlanks_of_not_among {name : String} (kept : among name = false) :
    environment.withoutBlanks among name = environment name := by
  rw [withoutBlanks]
  cases environment name <;> simp [kept]

end Environment

theorem SettingsError.head?_message (error : SettingsError) :
    error.message.toList.head? ≠ some 'F' := by
  cases error with
  | improperEntry shown =>
      change ("api key entry '" ++ shown ++ "' is not in owner:key form").toList.head? ≠ _
      simp
  | _ => decide

/-- The message about a variable or about settings does not begin like one about a file. -/
theorem EnvironmentError.head?_message (error : EnvironmentError) :
    error.message.toList.head? ≠ some 'F' := by
  cases error with
  | improper name reason =>
      change ("Invalid value for " ++ name ++ ": " ++ reason.message).toList.head? ≠ _
      simp
  | refused error => exact error.head?_message

namespace LoadError

/-- The path of the file that an error is about. -/
def path? : LoadError → Option String
  | .file path _ => some path
  | .encoding path => some path
  | .document path _ => some path
  | .environment _ => none

/-- An error about a file says what has failed and names the file. -/
theorem exists_message {error : LoadError} {path : String} (about : error.path? = some path) :
    ∃ action ∈ ["Failed to read config ", "Failed to parse config "], ∃ reason,
      error.message.toList = action.toList ++ (path.toList ++ ':' :: reason) := by
  have written (action path reason : String) :
      (action ++ path ++ ": " ++ reason).toList =
        action.toList ++ (path.toList ++ ':' :: ' ' :: reason.toList) := by
    simp
  cases error with
  | file _ error =>
      cases about
      exact ⟨_, List.mem_cons_self, _, written _ path error.message⟩
  | encoding _ =>
      cases about
      refine ⟨_, List.mem_cons_self, " stream did not contain valid UTF-8".toList, ?_⟩
      exact String.toList_append.trans (by simp)
  | document _ error =>
      cases about
      exact ⟨_, List.mem_cons_of_mem _ List.mem_cons_self, _, written _ path error.message⟩
  | environment error => cases about

/-- The usual path begins with a letter, and a blank one, even if it is empty, with none. -/
theorem append_ne_of_isBlankText {path : String} (blank : Text.isBlankText path = true)
    (reason reason' : List Char) :
    path.toList ++ ':' :: reason ≠ Settings.usualFile.toList ++ ':' :: reason' := by
  intro same
  have first := congrArg List.head? same
  rw [Text.isBlankText] at blank
  cases begins : path.toList with
  | nil => simp [begins, Settings.usualFile] at first
  | cons character rest =>
      obtain rfl : character = 's' := by simpa [begins, Settings.usualFile] using first
      rw [begins, List.all_cons] at blank
      cases blank

/-- A message about a file with a blank name is never one about the usual file or about no file. -/
theorem message_ne {error error' : LoadError} {path : String} (blank : Text.isBlankText path = true)
    (about : error.path? = some path)
    (about' : error'.path? = none ∨ error'.path? = some Settings.usualFile) :
    error.message ≠ error'.message := by
  intro same
  obtain ⟨action, listed, reason, text⟩ := exists_message about
  rcases about' with none | usual
  · cases error' with
    | environment error' =>
        have text' : error'.message.toList = action.toList ++ (path.toList ++ ':' :: reason) :=
          (congrArg String.toList same.symm).trans text
        simp only [List.mem_cons, List.not_mem_nil, or_false] at listed
        apply error'.head?_message
        rcases listed with rfl | rfl <;> simp [text']
    | _ => cases none
  · obtain ⟨action', listed', reason', text'⟩ := exists_message usual
    rw [same, text'] at text
    have path_ne := append_ne_of_isBlankText blank reason reason'
    simp only [List.mem_cons, List.not_mem_nil, or_false] at listed listed'
    -- Either the two files failed at different actions, or what follows the action differs.
    rcases listed with rfl | rfl <;> rcases listed' with rfl | rfl
    · exact path_ne (List.append_cancel_left text).symm
    · simp at text
    · simp at text
    · exact path_ne (List.append_cancel_left text).symm

end LoadError

namespace Settings

/-- What the environment denotes depends on the variables only by their texts. -/
theorem ofEnvironment_congr {environment environment' : Environment}
    (same : ∀ name, environment.text? name = environment'.text? name) :
    ofEnvironment environment = ofEnvironment environment' := by
  have read {α : Type} (name : String) (default : α) (reader : String → Except ImproperValue α) :
      environment.read name default reader = environment'.read name default reader := by
    rw [Environment.read, Environment.read, same]
  simp only [ofEnvironment, readEnvironment, read, same]

variable (tree : FileTree) (environment : Environment)

/-- The settings if no file is named. -/
def loadUnnamed : Except LoadError Settings :=
  if tree.isPresent usualFile then ofFile tree usualFile
  else (ofEnvironment environment).mapError .environment

variable {tree environment}

/-- A named file decides alone. -/
theorem load_of_named {path : String} (named : environment "STREAMGATE_CONFIG" = some path) :
    load tree environment = ofFile tree path := by
  simp only [load, filePath?, named]

theorem load_of_unnamed (unnamed : environment "STREAMGATE_CONFIG" = none) :
    load tree environment = loadUnnamed tree environment := by
  simp only [load, filePath?, unnamed, loadUnnamed]
  cases tree.isPresent usualFile <;> rfl

/-- What is loaded depends on the path of the file and on the texts of the other variables. -/
theorem load_congr {environment' : Environment}
    (config : environment "STREAMGATE_CONFIG" = environment' "STREAMGATE_CONFIG")
    (same : ∀ name, environment.text? name = environment'.text? name) :
    load tree environment = load tree environment' := by
  simp only [load, filePath?, config, ofEnvironment_congr same]

/-- An error whose kind was changed is what some error was changed to. -/
theorem exists_of_mapError_eq_error {ε ε' α : Type} {result : Except ε α} {change : ε → ε'}
    {error : ε'} (failed : result.mapError change = .error error) :
    ∃ reason, change reason = error := by
  cases result with
  | ok value => cases failed
  | error reason => exact ⟨reason, Except.error.inj failed⟩

/-- Reading a file fails with an error about it. -/
theorem path?_of_ofFile {path : String} {error : LoadError}
    (failed : ofFile tree path = .error error) : error.path? = some path := by
  unfold ofFile at failed
  split at failed
  · cases failed
    rfl
  · split at failed
    · cases failed
      rfl
    · obtain ⟨reason, rfl⟩ := exists_of_mapError_eq_error failed
      rfl

theorem path?_of_loadUnnamed {error : LoadError}
    (failed : loadUnnamed tree environment = .error error) :
    error.path? = none ∨ error.path? = some usualFile := by
  unfold loadUnnamed at failed
  split at failed
  · exact .inr (path?_of_ofFile failed)
  · obtain ⟨reason, rfl⟩ := exists_of_mapError_eq_error failed
    exact .inl rfl

/-- A file with a blank name does as well as no named file only if both give the same settings. -/
theorem exists_settings_of_mapError_eq {path : String} (blank : Text.isBlankText path = true)
    (same : (ofFile tree path).mapError LoadError.message =
      (loadUnnamed tree environment).mapError LoadError.message) :
    ∃ settings, ofFile tree path = .ok settings ∧ loadUnnamed tree environment = .ok settings := by
  cases named : ofFile tree path with
  | ok settings =>
      cases unnamed : loadUnnamed tree environment with
      | ok settings' =>
          rw [named, unnamed] at same
          exact ⟨settings, rfl, congrArg _ (Except.ok.inj same).symm⟩
      | error error => rw [named, unnamed] at same; cases same
  | error error =>
      cases unnamed : loadUnnamed tree environment with
      | ok settings => rw [named, unnamed] at same; cases same
      | error error' =>
          rw [named, unnamed] at same
          exact absurd (Except.error.inj same)
            (LoadError.message_ne blank (path?_of_ofFile named) (path?_of_loadUnnamed unnamed))

/-- Of the path for the file only one that is not blank is left. -/
theorem config_withoutBlanks (environment : Environment) :
    environment.withoutBlanks Environment.isOwn "STREAMGATE_CONFIG" =
      environment.text? "STREAMGATE_CONFIG" :=
  environment.withoutBlanks_of_among _ (by decide)

/-- A blank path is gone with the other blanks, and then no file is named. -/
theorem load_withoutBlanks_of_named {path : String}
    (named : environment "STREAMGATE_CONFIG" = some path)
    (blank : Text.isBlankText path = true) :
    load tree (environment.withoutBlanks Environment.isOwn) = loadUnnamed tree environment := by
  have unnamed : environment.withoutBlanks Environment.isOwn "STREAMGATE_CONFIG" = none := by
    simp [config_withoutBlanks, Environment.text?, named, blank]
  rw [load_of_unnamed unnamed, loadUnnamed, loadUnnamed,
    ofEnvironment_congr (environment.text?_withoutBlanks _)]

/-- Any other path is still there. -/
theorem load_withoutBlanks
    (config : environment.text? "STREAMGATE_CONFIG" = environment "STREAMGATE_CONFIG") :
    load tree (environment.withoutBlanks Environment.isOwn) = load tree environment :=
  load_congr ((config_withoutBlanks environment).trans config) (environment.text?_withoutBlanks _)

variable (tree environment)

/-- Blank variables count as unset for every setting: whichever of them are removed, the same
settings are loaded, or the same error is reported. The one exception is the variable that names the
file. If it is removed with them, the outcome, even if of an error only the message is looked at, is
the same exactly if its blank text names a file with the settings that are loaded when no file is
named. The empty text names none, so with it nothing is ever loaded. -/
theorem blank_counts_as_unset_iff :
    (∀ among, among "STREAMGATE_CONFIG" = false →
      load tree (environment.withoutBlanks among) = load tree environment) ∧
    [load tree (environment.withoutBlanks Environment.isOwn) = load tree environment,
      (load tree (environment.withoutBlanks Environment.isOwn)).mapError LoadError.message =
        (load tree environment).mapError LoadError.message,
      ∀ path, environment "STREAMGATE_CONFIG" = some path → Text.isBlankText path = true →
        ∃ settings, ofFile tree path = .ok settings ∧
          loadUnnamed tree environment = .ok settings].TFAE ∧
    (environment "STREAMGATE_CONFIG" = some "" →
      load tree environment = .error (.file "" .notFound)) := by
  refine ⟨fun among kept => ?_, ?_, fun empty => ?_⟩
  · exact load_congr (environment.withoutBlanks_of_not_among among kept)
      (environment.text?_withoutBlanks among)
  · tfae_have 1 → 2 := fun same => by rw [same]
    tfae_have 2 → 3 := by
      intro same path named blank
      rw [load_withoutBlanks_of_named named blank, load_of_named named] at same
      exact exists_settings_of_mapError_eq blank same.symm
    tfae_have 3 → 1 := by
      intro sound
      cases named : environment "STREAMGATE_CONFIG" with
      | none => exact load_withoutBlanks (by simp [Environment.text?, named])
      | some path =>
          cases blank : Text.isBlankText path with
          | false => exact load_withoutBlanks (by simp [Environment.text?, named, blank])
          | true =>
              obtain ⟨settings, file, unnamed⟩ := sound path named blank
              rw [load_withoutBlanks_of_named named blank, load_of_named named, file, unnamed]
    tfae_finish
  · rw [load_of_named empty]
    rfl

/-- A variable for the file that holds nothing keeps the server from starting, whatever else there
is; without it the port is read from its own variable. -/
theorem empty_file_name_followed :
    let environment : Environment :=
      (List.lookup · [("STREAMGATE_CONFIG", ""), ("STREAMGATE_PORT", "9100")])
    load {} (environment.withoutBlanks Environment.isOwn) = .ok { port := 9100 } ∧
      load {} environment = .error (.file "" .notFound) ∧
      LoadError.message (.file "" .notFound) =
        "Failed to read config : No such file or directory (os error 2)" :=
  ⟨rfl, rfl, by decide⟩

end Settings

end TokenRelay
