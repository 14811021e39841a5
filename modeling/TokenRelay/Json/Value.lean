/-
# JSON values

Supplies the values a JSON text stands for. The members of an object keep an order, so a value
says how it is written down; an object whose members came from a foreign text is `Settled`: its
keys are strictly increasing, which makes equal objects equal values. The nesting of a value is
counted here because readers bound it.
-/

import TokenRelay.Json.Number
import TokenRelay.KeyMap

namespace TokenRelay

/-- A JSON value; an object lists its members in the order in which they are written. -/
inductive Json where
  | null
  | bool (value : Bool)
  | number (value : Number)
  | string (value : String)
  | array (items : List Json)
  | object (members : List (String × Json))

namespace Json

/-- An exact natural number as a value. -/
def ofNat (value : Nat) : Json := .number (.int value)

/-- A text or `null`. -/
def ofText? : Option String → Json
  | none => .null
  | some text => .string text

mutual

/-- How many arrays and objects are open at once in the deepest part of a value. -/
def nesting : Json → Nat
  | .null | .bool _ | .number _ | .string _ => 0
  | .array items => itemNesting items + 1
  | .object members => memberNesting members + 1
termination_by structural value => value

/-- The greatest nesting among the items of an array. -/
def itemNesting : List Json → Nat
  | [] => 0
  | item :: rest => max item.nesting (itemNesting rest)
termination_by structural items => items

/-- The greatest nesting among the values of an object. -/
def memberNesting : List (String × Json) → Nat
  | [] => 0
  | (_, value) :: rest => max value.nesting (memberNesting rest)
termination_by structural members => members

end

mutual

/-- Every object in the value lists its keys in strictly increasing order. -/
def Settled : Json → Prop
  | .null | .bool _ | .number _ | .string _ => True
  | .array items => SettledItems items
  | .object members => (members.map Prod.fst).Pairwise (· < ·) ∧ SettledMembers members
termination_by structural value => value

/-- Every item of an array is settled. -/
def SettledItems : List Json → Prop
  | [] => True
  | item :: rest => item.Settled ∧ SettledItems rest
termination_by structural items => items

/-- Every value of an object is settled. -/
def SettledMembers : List (String × Json) → Prop
  | [] => True
  | (_, value) :: rest => value.Settled ∧ SettledMembers rest
termination_by structural members => members

end

/-- The object with the given members by increasing key and the last value of a repeated key. -/
def settle (members : List (String × Json)) : Json :=
  .object (KeyMap.ofList members).entries

end Json

end TokenRelay
