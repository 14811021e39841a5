/-
# Reading values of a known type from TOML

Supplies readers: functions from values of TOML to typed values, undefined where a value does not
fit. Nothing is converted: a number is not read as a string, nor a string as a number. A record is
read by its fields, which come from a table, or from a list in the order of the fields; every field
has a value for its absence. What stands under other keys has to be readable, no more.
-/

import TokenRelay.Toml.Item

namespace TokenRelay.Toml

/-- A reader of values of one type. -/
abbrev Reader (α : Type) : Type := Item → Option α

/-- Half of what a word of 128 bits can count: the bound of negative integers. -/
def greatestHalf : Int := 0x80000000000000000000000000000000

/-- Whether a scalar has a value that some number type can hold. -/
def Scalar.isReadable : Scalar → Bool
  | .integer value => -greatestHalf ≤ value && value < 2 * greatestHalf
  | .decimal representable => representable
  | .bool _ | .moment | .string _ => true

mutual

/-- Whether every number in a value is one that some number type can hold. -/
def Item.isReadable : Item → Bool
  | .scalar value => value.isReadable
  | .list items => areReadable items
  | .table _ entries => areEntriesReadable entries
  | .tables all => areTablesReadable all
termination_by structural item => item

/-- Whether all items are readable. -/
def areReadable : List Item → Bool
  | [] => true
  | item :: rest => item.isReadable && areReadable rest
termination_by structural items => items

/-- Whether the values of all entries are readable. -/
def areEntriesReadable : List (String × Item) → Bool
  | [] => true
  | (_, item) :: rest => item.isReadable && areEntriesReadable rest
termination_by structural entries => entries

/-- Whether all tables are readable. -/
def areTablesReadable : List (List (String × Item)) → Bool
  | [] => true
  | entries :: rest => areEntriesReadable entries && areTablesReadable rest
termination_by structural all => all

end

/-- The items of a list; the tables of a list of tables are items too. -/
def Item.items? : Item → Option (List Item)
  | .list items => some items
  | .tables all => some (all.reverse.map (.table .header))
  | .scalar _ | .table _ _ => none

/-- The fields of a record with the given names. A moment stands for a record without fields. -/
def Item.fields? (names : List String) : Item → Option Entries
  | .table _ entries =>
    if areEntriesReadable (entries.filter fun entry => !names.contains entry.1) then some entries
    else none
  | .scalar .moment => some []
  | item => item.items?.map names.zip

/-- The content of a field, or the value for its absence. -/
def Entries.field {α : Type} (fields : Entries) (name : String) (default : α)
    (reader : Reader α) : Option α :=
  match fields.lookup name with
  | none => some default
  | some item => reader item

namespace Reader

/-- Reads a string. -/
def string : Reader String
  | .scalar (.string text) => some text
  | _ => none

/-- Reads a truth value. -/
def bool : Reader Bool
  | .scalar (.bool value) => some value
  | _ => none

/-- Reads an integer from zero up to a bound. -/
def below (bound : Nat) : Reader Nat
  | .scalar (.integer value) => if 0 ≤ value ∧ value < bound then some value.toNat else none
  | _ => none

/-- Reads a list. -/
def list {α : Type} (reader : Reader α) : Reader (List α) := fun item =>
  match item.items? with
  | some items => items.mapM reader
  | none => none

/-- Reads a value that may be absent but is there. -/
def present {α : Type} (reader : Reader α) : Reader (Option α) := fun item =>
  (reader item).map some

/-- Reads a name out of a fixed list: as a string, or as the only key of a table with an empty list
or table as its value. -/
def choice {α : Type} (names : List (String × α)) : Reader α
  | .scalar (.string name) => names.lookup name
  | .table _ [(name, .list [])] | .table _ [(name, .table _ [])] => names.lookup name
  | _ => none

end Reader

end TokenRelay.Toml
