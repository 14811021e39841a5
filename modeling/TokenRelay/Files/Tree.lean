/-
# File trees

Supplies a tree of directories and files with the operations that make a directory, make it with all
directories above it, write a file and read one. A path that does not start at the top of the tree
starts from its working directory. Each operation fails for the first reason it meets on its way
along the path, and then changes nothing but the directories it has already made.

The files of a tree may have to share a bounded number of bytes; directories take no room. A file is
there before its content is written, so if there is not enough room for that, it stays behind with
the beginning of its content.
-/

import TokenRelay.Files.Path

namespace TokenRelay

/-- Why a file operation fails. -/
inductive FileError where
  | notFound
  | exists
  | notDirectory
  | isDirectory
  | nameTooLong
  /-- A path holds the character NUL. -/
  | nul
  /-- There is no room left. -/
  | full
  deriving DecidableEq, Repr

/-- The text of a file error. -/
def FileError.message : FileError → String
  | .notFound => "No such file or directory (os error 2)"
  | .exists => "File exists (os error 17)"
  | .notDirectory => "Not a directory (os error 20)"
  | .isDirectory => "Is a directory (os error 21)"
  | .nameTooLong => "File name too long (os error 36)"
  | .nul => "file name contained an unexpected NUL byte"
  | .full => "No space left on device (os error 28)"

/-- Directories and files, each under the names that lead to it from the top. -/
structure FileTree where
  /-- The directories but the one at the top. -/
  directories : List (List String) := []
  files : List (List String × List UInt8) := []
  /-- The directory from which relative paths start. -/
  workingDirectory : List String := []
  /-- How many bytes the files may hold together, if that is bounded. -/
  quota : Option Nat := none

namespace FileTree

/-- Whether a directory is at a place. -/
def isDirectory (tree : FileTree) (place : List String) : Bool :=
  place.isEmpty || tree.directories.contains place

/-- The content of the file at a place. -/
def content? (tree : FileTree) (place : List String) : Option (List UInt8) :=
  tree.files.lookup place

/-- A name has at most 255 bytes. -/
def fitsName (name : String) : Bool := name.utf8ByteSize ≤ 255

/-- Goes on from a directory along names, every one of which has to be a directory. -/
def walk (tree : FileTree) (place : List String) :
    List String → Except FileError (List String)
  | [] => .ok place
  | name :: rest =>
    if name = ".." then walk tree place.dropLast rest
    else if !fitsName name then .error .nameTooLong
    else
      let next := place ++ [name]
      if tree.isDirectory next then walk tree next rest
      else if (tree.content? next).isSome then .error .notDirectory
      else .error .notFound

/-- The directory from which a path starts. -/
def start (tree : FileTree) (path : String) : List String :=
  if Path.isAbsolute path then [] else tree.workingDirectory

/-- Where a path leads: the directory it goes through last, and its last name. A path without a
name of its own, or whose last name leads up, leads to a directory. -/
def locate (tree : FileTree) (path : String) :
    Except FileError (List String × Option String) :=
  if path.toList.contains '\x00' then .error .nul
  else if path.isEmpty then .error .notFound
  else if 4096 ≤ path.utf8ByteSize then .error .nameTooLong
  else
    let names := Path.names path
    match names.getLast? with
    | none => .ok (tree.start path, none)
    | some last =>
      if last = ".." then (tree.walk (tree.start path) names).map fun place => (place, none)
      else
        match tree.walk (tree.start path) names.dropLast with
        | .error error => .error error
        | .ok place => if fitsName last then .ok (place, some last) else .error .nameTooLong

/-- The place of the directory that a path leads to. -/
def directoryAt? (tree : FileTree) (path : String) : Option (List String) :=
  match tree.locate path with
  | .error _ => none
  | .ok (place, none) => some place
  | .ok (place, some name) =>
    if tree.isDirectory (place ++ [name]) then some (place ++ [name]) else none

/-- Makes a directory; the one above it has to be there. -/
def makeDirectory (tree : FileTree) (path : String) : Except FileError FileTree :=
  match tree.locate path with
  | .error error => .error error
  | .ok (_, none) => .error .exists
  | .ok (place, some name) =>
    let target := place ++ [name]
    if tree.isDirectory target || (tree.content? target).isSome then .error .exists
    else .ok { tree with directories := tree.directories ++ [target] }

/-- The path of the directory above, if the path has a name of its own. -/
def parent? (path : String) : Option String :=
  let names := Path.names path
  if names.isEmpty then none
  else
    let above := "/".intercalate names.dropLast
    some (if Path.isAbsolute path then "/" ++ above else above)

/-- Makes a directory that may be there already. -/
def ensureDirectory (tree : FileTree) (path : String) : Except FileError FileTree :=
  match tree.makeDirectory path with
  | .ok tree => .ok tree
  | .error error => if (tree.directoryAt? path).isSome then .ok tree else .error error

/-- Makes a directory and those above it that are missing, going up at most the given number of
times. Returns the tree with the directories that were made before the first fault. -/
def makeDirectoriesFrom (tree : FileTree) (path : String) :
    Nat → FileTree × Option FileError
  | 0 => (tree, some .notFound)
  | fuel + 1 =>
    if path.isEmpty then (tree, none)
    else
      match tree.makeDirectory path with
      | .ok tree => (tree, none)
      | .error .notFound =>
        match parent? path with
        | none => (tree, some .notFound)
        | some above =>
          match makeDirectoriesFrom tree above fuel with
          | (tree, some error) => (tree, some error)
          | (tree, none) =>
            match tree.ensureDirectory path with
            | .ok tree => (tree, none)
            | .error error => (tree, some error)
      | .error error =>
        if (tree.directoryAt? path).isSome then (tree, none) else (tree, some error)

/-- Makes a directory and those above it that are missing. -/
def makeDirectories (tree : FileTree) (path : String) : FileTree × Option FileError :=
  tree.makeDirectoriesFrom path ((Path.names path).length + 1)

/-- How many bytes the files hold together. -/
def size (tree : FileTree) : Nat :=
  tree.files.foldr (fun file bytes => file.2.length + bytes) 0

/-- As much of a content as there is room for beside the files. -/
def fitting (tree : FileTree) (content : List UInt8) : List UInt8 :=
  match tree.quota with
  | none => content
  | some quota => content.take (quota - tree.size)

/-- Removes the file at a place, if there is one. -/
def without (tree : FileTree) (place : List String) : FileTree :=
  { tree with files := tree.files.filter (·.1 ≠ place) }

/-- Writes a file, in place of one that is there. If there is not enough room, as much of the
content is written as fits. -/
def write (tree : FileTree) (path : String) (content : List UInt8) :
    FileTree × Option FileError :=
  match tree.locate path with
  | .error error => (tree, some error)
  | .ok (_, none) => (tree, some .isDirectory)
  | .ok (place, some name) =>
    let target := place ++ [name]
    if tree.isDirectory target then (tree, some .isDirectory)
    else
      let others := tree.without target
      let written := others.fitting content
      ({ others with files := others.files ++ [(target, written)] },
        if written.length < content.length then some .full else none)

/-- Reads a file. -/
def read (tree : FileTree) (path : String) : Except FileError (List UInt8) :=
  match tree.locate path with
  | .error error => .error error
  | .ok (_, none) => .error .isDirectory
  | .ok (place, some name) =>
    let target := place ++ [name]
    if tree.isDirectory target then .error .isDirectory
    else
      match tree.content? target with
      | some content => .ok content
      | none => .error .notFound

/-- Whether a file or a directory is at the end of a path. -/
def isPresent (tree : FileTree) (path : String) : Bool :=
  match tree.locate path with
  | .error _ => false
  | .ok (_, none) => true
  | .ok (place, some name) =>
    tree.isDirectory (place ++ [name]) || (tree.content? (place ++ [name])).isSome

end FileTree

end TokenRelay
