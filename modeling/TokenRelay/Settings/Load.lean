/-
# Where settings come from

Supplies the choice between a file and variables. The file that a variable names must be there; a
file with the usual name is read if it is there; otherwise the variables decide. A file decides
alone: with one, no other variable is looked at.
-/

import TokenRelay.Files.Tree
import TokenRelay.Settings.Document
import TokenRelay.Settings.Environment
import TokenRelay.Text.Utf8

namespace TokenRelay

/-- Why settings cannot be loaded. -/
inductive LoadError where
  | file (path : String) (error : FileError)
  /-- The file is no text. -/
  | encoding (path : String)
  | document (path : String) (error : DocumentError)
  | environment (error : EnvironmentError)
  deriving DecidableEq, Repr

/-- The text of the error. -/
def LoadError.message : LoadError → String
  | .file path error => "Failed to read config " ++ path ++ ": " ++ error.message
  | .encoding path => "Failed to read config " ++ path ++ ": stream did not contain valid UTF-8"
  | .document path error => "Failed to parse config " ++ path ++ ": " ++ error.message
  | .environment error => error.message

namespace Settings

/-- The name of the file that is read if no other is named. -/
def usualFile : String := "streamgate.toml"

/-- The path of the file with the settings, if there is one. -/
def filePath? (tree : FileTree) (environment : Environment) : Option String :=
  match environment "STREAMGATE_CONFIG" with
  | some path => some path
  | none => if tree.isPresent usualFile then some usualFile else none

/-- The settings in a file. -/
def ofFile (tree : FileTree) (path : String) : Except LoadError Settings :=
  match tree.read path with
  | .error error => .error (.file path error)
  | .ok content =>
    match Text.Utf8.decode? content with
    | none => .error (.encoding path)
    | some text => (ofToml text).mapError (.document path)

/-- The settings that the server starts with. -/
def load (tree : FileTree) (environment : Environment) : Except LoadError Settings :=
  match filePath? tree environment with
  | some path => ofFile tree path
  | none => (ofEnvironment environment).mapError .environment

end Settings

end TokenRelay
