/-
# The tree of a TOML document

Supplies the values of TOML and the three ways to extend a document: a value under a key, a table
with a header of its own, and one more table of a list of tables. Every table remembers how it came
about, because that decides who may still extend it: a table is opened by one header at most, dotted
keys extend only what dotted keys have made, and nothing extends a table in braces.
-/

import TokenRelay.Toml.Scalar

namespace TokenRelay.Toml

/-- How a table came about. -/
inductive Origin where
  /-- By a header of its own. -/
  | header
  /-- On the way to the table of another header. -/
  | passed
  /-- By a dotted key. -/
  | dotted
  /-- In braces. -/
  | closed
  deriving DecidableEq, Repr

/-- A value. -/
inductive Item where
  | scalar (value : Scalar)
  | list (items : List Item)
  | table (origin : Origin) (entries : List (String × Item))
  /-- Tables that were added one by one, the latest first. -/
  | tables (all : List (List (String × Item)))

/-- The keys of a table with their values. -/
abbrev Entries : Type := List (String × Item)

namespace Entries

/-- Changes the value of a key that is there. -/
def put (entries : Entries) (key : String) (item : Item) : Entries :=
  entries.map fun entry => if entry.1 = key then (key, item) else entry

/-- Changes the table at the end of a path, given how the table at its start came about. Tables that
are missing on the way are made; of a list of tables the latest is entered. -/
def change (dotted : Bool) (edit : Origin → Entries → Option (Origin × Entries)) :
    List String → Origin → Entries → Option (Origin × Entries)
  | [], origin, entries => edit origin entries
  | key :: path, origin, entries =>
    match entries.lookup key with
    | none =>
      (change dotted edit path (if dotted then .dotted else .passed) []).map fun inner =>
        (origin, entries ++ [(key, .table inner.1 inner.2)])
    | some (.table before inside) =>
      if before = .closed ∨ (dotted ∧ before = .header) then none
      else
        (change dotted edit path before inside).map fun inner =>
          (origin, put entries key (.table inner.1 inner.2))
    | some (.tables (latest :: earlier)) =>
      (change dotted edit path .header latest).map fun inner =>
        (origin, put entries key (.tables (inner.2 :: earlier)))
    | some (.tables []) | some (.scalar _) | some (.list _) => none

/-- Gives a value to a key that has none. -/
def add (key : String) (item : Item) (origin : Origin) (entries : Entries) :
    Option (Origin × Entries) :=
  if (entries.lookup key).isSome then none else some (origin, entries ++ [(key, item)])

/-- Gives a value to a dotted key, of which `path` is all but the last part. -/
def addAt (path : List String) (key : String) (item : Item) (origin : Origin)
    (entries : Entries) : Option (Origin × Entries) :=
  match path with
  | [] => add key item origin entries
  | _ :: _ =>
    change true
      (fun inner inside => if inner = .dotted then add key item inner inside else none)
      path origin entries

/-- Opens a table by a header. It may be there already if it was only passed before. -/
def openTable (key : String) (origin : Origin) (entries : Entries) : Option (Origin × Entries) :=
  match entries.lookup key with
  | none => some (origin, entries ++ [(key, .table .header [])])
  | some (.table .passed inside) => some (origin, put entries key (.table .header inside))
  | some _ => none

/-- Adds a table to a list of tables, which is made if need be. -/
def extendTables (key : String) (origin : Origin) (entries : Entries) :
    Option (Origin × Entries) :=
  match entries.lookup key with
  | none => some (origin, entries ++ [(key, .tables [[]])])
  | some (.tables all) => some (origin, put entries key (.tables ([] :: all)))
  | some _ => none

end Entries

end TokenRelay.Toml
