/-
# Paths

Supplies paths as texts: how two are joined, and the names they consist of. Empty names and single
dots do not change where a path leads.
-/

namespace TokenRelay.Path

/-- Whether a path starts at the top of all files. -/
def isAbsolute (path : String) : Bool :=
  path.toList.head? == some '/'

/-- A path below another. An absolute path stands for itself; otherwise one slash parts the two,
unless the first is empty or ends in a slash. -/
def join (first second : String) : String :=
  if isAbsolute second || first.isEmpty then second
  else if first.toList.getLast? = some '/' then first ++ second
  else first ++ "/" ++ second

/-- Cuts a text at its slashes; the name that is being read comes latest character first. -/
def namesFrom (name : List Char) : List Char → List String
  | [] => [String.ofList name.reverse]
  | character :: rest =>
    if character = '/' then String.ofList name.reverse :: namesFrom [] rest
    else namesFrom (character :: name) rest

/-- The names that a path consists of. -/
def names (path : String) : List String :=
  (namesFrom [] path.toList).filter fun name => name ≠ "" ∧ name ≠ "."

end TokenRelay.Path
