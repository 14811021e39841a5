/-
# Reading values of a known type from JSON

Supplies readers: functions from syntax trees to typed values that stop at the first fault. There
are two faults. A text is `malformed` if it is no JSON, nests too deeply, or holds a string or
number without a value where that value counts; it is a `mismatch` if it is JSON so far but does
not fit the type. A record is read from an object or from an array of its fields in order;
`Record` lists the fields with their readers and puts the values together.
-/

import TokenRelay.Json.Tree

namespace TokenRelay

/-- Why a text cannot be read. -/
inductive Fault where
  | malformed
  | mismatch
  deriving DecidableEq, Repr

/-- A reader gets the number of arrays and objects that may still be entered, and a tree. -/
def Reader (α : Type) : Type := Nat → Tree → Except Fault α

namespace Reader

/-- Arrays and objects nest at most this deep, counted from the top value. -/
def depthLimit : Nat := 127

/-- The fault of a tree that is not of the kind that is read: what has no value of its own is
malformed, everything else a mismatch. -/
def refusal : Tree → Fault
  | .broken | .number none | .string none => .malformed
  | _ => .mismatch

/-- Reads a string. -/
def string : Reader String
  | _, .string (some value) => .ok value
  | _, other => .error (refusal other)

/-- Reads a truth value. -/
def bool : Reader Bool
  | _, .bool value => .ok value
  | _, other => .error (refusal other)

/-- Reads an exact integer from zero to the greatest 64-bit word. -/
def word : Reader UInt64
  | _, .number (some (.int value)) =>
    if 0 ≤ value ∧ value < UInt64.size then .ok (UInt64.ofNat value.toNat) else .error .mismatch
  | _, other => .error (refusal other)

/-- Reads any number at all, exact or not. -/
def number : Reader Number
  | _, .number (some value) => .ok value
  | _, other => .error (refusal other)

/-- Reads `null`. -/
def null : Reader Unit
  | _, .null => .ok ()
  | _, other => .error (refusal other)

/-- Reads `null` as nothing and everything else with the given reader. -/
def option {α : Type} (reader : Reader α) : Reader (Option α)
  | _, .null => .ok none
  | depth, other => (reader depth other).map some

/-- Applies a further test to what was read; a value that fails it does not fit the type. -/
def refine {α β : Type} (reader : Reader α) (test : α → Option β) : Reader β := fun depth tree =>
  match reader depth tree with
  | .error fault => .error fault
  | .ok value =>
    match test value with
    | some refined => .ok refined
    | none => .error .mismatch

/-- What the end of an array or object says about its text. -/
def ending {α : Type} (value : α) : Ending → Except Fault α
  | .closed => .ok value
  | .misplaced | .broken => .error .malformed

/-- Reads the items of an array one after the other; those read so far come latest first. -/
def itemsFrom {α : Type} (reader : Reader α) (depth : Nat) (found : List α) :
    List Tree → Except Fault (List α)
  | [] => .ok found.reverse
  | item :: rest =>
    match reader depth item with
    | .error fault => .error fault
    | .ok value => itemsFrom reader depth (value :: found) rest

/-- Reads an array of values of one type. -/
def list {α : Type} (reader : Reader α) : Reader (List α)
  | 0, .array _ _ => .error .malformed
  | depth + 1, .array items last =>
    match itemsFrom reader depth [] items with
    | .error fault => .error fault
    | .ok values => ending values last
  | _, other => .error (refusal other)

/-- Reads the members of an object one after the other; those read so far come latest first. -/
def membersFrom {α : Type} (reader : Reader α) (depth : Nat) (found : List (String × α)) :
    List (Option String × Tree) → Except Fault (List (String × α))
  | [] => .ok found.reverse
  | (none, _) :: _ => .error .malformed
  | (some key, value) :: rest =>
    match reader depth value with
    | .error fault => .error fault
    | .ok value => membersFrom reader depth ((key, value) :: found) rest

/-- Reads an object whose values are of one type; the last value of a repeated key counts. -/
def dictionary {α : Type} (reader : Reader α) : Reader (KeyMap α)
  | 0, .object _ _ => .error .malformed
  | depth + 1, .object members last =>
    match membersFrom reader depth [] members with
    | .error fault => .error fault
    | .ok values => ending (KeyMap.ofList values) last
  | _, other => .error (refusal other)

mutual

/-- Reads any value. Its objects come out by increasing key with the last value of a repeated
key. -/
def value (depth : Nat) : Tree → Except Fault Json
  | .null => .ok .null
  | .bool value => .ok (.bool value)
  | .number (some value) => .ok (.number value)
  | .string (some value) => .ok (.string value)
  | .array items last =>
    match depth with
    | 0 => .error .malformed
    | depth + 1 =>
      match valuesFrom depth [] items with
      | .error fault => .error fault
      | .ok values => ending (.array values) last
  | .object members last =>
    match depth with
    | 0 => .error .malformed
    | depth + 1 =>
      match memberValuesFrom depth [] members with
      | .error fault => .error fault
      | .ok values => ending (Json.settle values) last
  | .number none | .string none | .broken => .error .malformed
termination_by structural tree => tree

/-- Reads the items of an array of any values; those read so far come latest first. -/
def valuesFrom (depth : Nat) (found : List Json) : List Tree → Except Fault (List Json)
  | [] => .ok found.reverse
  | item :: rest =>
    match value depth item with
    | .error fault => .error fault
    | .ok value => valuesFrom depth (value :: found) rest
termination_by structural items => items

/-- Reads the members of an object of any values; those read so far come latest first. -/
def memberValuesFrom (depth : Nat) (found : List (String × Json)) :
    List (Option String × Tree) → Except Fault (List (String × Json))
  | [] => .ok found.reverse
  | (none, _) :: _ => .error .malformed
  | (some key, item) :: rest =>
    match value depth item with
    | .error fault => .error fault
    | .ok value => memberValuesFrom depth ((key, value) :: found) rest
termination_by structural members => members

end

/-- Reads a name out of a fixed list: as a string, or as an object with the name as its only key
and `null` as its value. -/
def choice {α : Type} (names : List (String × α)) : Reader α
  | _, .string (some name) =>
    match names.lookup name with
    | some value => .ok value
    | none => .error .mismatch
  | 0, .object _ _ => .error .malformed
  | _ + 1, .object [] .misplaced => .error .mismatch
  | _ + 1, .object [] _ => .error .malformed
  | _ + 1, .object ((none, _) :: _) _ => .error .malformed
  | depth + 1, .object ((some name, content) :: rest) last =>
    match names.lookup name with
    | none => .error .mismatch
    | some value =>
      match null depth content with
      | .error fault => .error fault
      | .ok () => if rest.isEmpty then ending value last else .error .malformed
  | _, _ => .error .malformed

/-- Reads a whole text: nothing but blanks may follow the value. -/
def run {α : Type} (reader : Reader α) (document : Document) : Except Fault α :=
  match reader depthLimit document.tree with
  | .error fault => .error fault
  | .ok value => if document.trailing then .error .malformed else .ok value

/-- Reads a value that has been read as JSON before. Such a value is well formed, so it can only
fail to fit the type. -/
def ofJson {α : Type} (reader : Reader α) (source : Json) : Except Fault α :=
  match reader depthLimit source.tree with
  | .error _ => .error .mismatch
  | .ok value => .ok value

end Reader

/-- A field of a record, as far as its presence and its content are concerned. -/
structure Field where
  name : String
  /-- Whether a tree can be the content of the field. -/
  check : Reader Unit
  /-- Whether a record written as an array may end before the field. -/
  droppable : Bool

/-- A record: its fields in order, and how their contents make a value. -/
structure Record (α : Type) where
  fields : List Field
  build : Nat → (String → Option Tree) → Except Fault α

namespace Record

/-- Whether a reader accepts a tree. -/
def accepts {α : Type} (reader : Reader α) : Reader Unit := fun depth tree =>
  match reader depth tree with
  | .error fault => .error fault
  | .ok _ => .ok ()

/-- A record without fields. -/
def pure {α : Type} (value : α) : Record α := ⟨[], fun _ _ => .ok value⟩

/-- The fields of one record and then those of another. -/
def and {α β : Type} (first : Record (α → β)) (second : Record α) : Record β where
  fields := first.fields ++ second.fields
  build := fun depth find =>
    match first.build depth find with
    | .error fault => .error fault
    | .ok make =>
      match second.build depth find with
      | .error fault => .error fault
      | .ok value => .ok (make value)

/-- A field that must be there. -/
def required {α : Type} (name : String) (reader : Reader α) : Record α where
  fields := [⟨name, accepts reader, false⟩]
  build := fun depth find =>
    match find name with
    | none => .error .mismatch
    | some tree => reader depth tree

/-- A field that may be `null` or absent from an object. -/
def optional {α : Type} (name : String) (reader : Reader α) : Record (Option α) where
  fields := [⟨name, accepts (Reader.option reader), false⟩]
  build := fun depth find =>
    match find name with
    | none => .ok none
    | some tree => Reader.option reader depth tree

/-- A field with a value for its absence. -/
def defaulted {α : Type} (name : String) (default : α) (reader : Reader α) : Record α where
  fields := [⟨name, accepts reader, true⟩]
  build := fun depth find =>
    match find name with
    | none => .ok default
    | some tree => reader depth tree

/-- Checks the members of an object from left to right: the contents of known keys, and that none
of them comes twice. Unknown keys are skipped with whatever they hold, unless the record is
strict. -/
def checkMembers (fields : List Field) (strict : Bool) (depth : Nat)
    (seen : List String) : List (Option String × Tree) → Except Fault Unit
  | [] => .ok ()
  | (none, _) :: _ => .error .malformed
  | (some key, tree) :: rest =>
    match fields.find? (·.name == key) with
    | none => if strict then .error .mismatch else checkMembers fields strict depth seen rest
    | some field =>
      if seen.contains key then .error .mismatch
      else
        match field.check depth tree with
        | .error fault => .error fault
        | .ok () => checkMembers fields strict depth (key :: seen) rest

/-- Checks the items of an array against the fields in order. -/
def checkItems (depth : Nat) (last : Ending) : List Field → List Tree → Except Fault Unit
  | [], [] => Reader.ending () last
  | [], _ :: _ => .error .malformed
  | field :: fields, [] =>
    match last with
    | .closed => if field.droppable then checkItems depth last fields [] else .error .mismatch
    | .misplaced | .broken => .error .malformed
  | field :: fields, item :: rest =>
    match field.check depth item with
    | .error fault => .error fault
    | .ok () => checkItems depth last fields rest

/-- The content of a key among the members of an object. -/
def content? (members : List (Option String × Tree)) (name : String) : Option Tree :=
  members.lookup (some name)

/-- Reads a record from an object, or from an array that lists the fields in order. A strict
record has no keys but its own. -/
def reader {α : Type} (record : Record α) (strict : Bool) : Reader α
  | 0, .object _ _ => .error .malformed
  | 0, .array _ _ => .error .malformed
  | depth + 1, .object members last =>
    match checkMembers record.fields strict depth [] members with
    | .error fault => .error fault
    | .ok () =>
      match Reader.ending () last with
      | .error fault => .error fault
      | .ok () => record.build depth (content? members)
  | depth + 1, .array items last =>
    match checkItems depth last record.fields items with
    | .error fault => .error fault
    | .ok () =>
      record.build depth (content? ((record.fields.map fun field => some field.name).zip items))
  | _, other => .error (Reader.refusal other)

end Record

end TokenRelay
