import PageAudit.Text.Basic

/-! JSON values. A whole number that fits into 64 bits is kept apart from every other one. -/

namespace PageAudit.Json

/-- A number is an integer of 64 bits, with or without a sign, or a decimal
`significand * 10 ^ exponent`.
-/
inductive Number where
  | integer (value : Int)
  | decimal (significand exponent : Int)
deriving DecidableEq

/-- A JSON value. The members of an object are in the order in which they were written, and
of two with one key the later counts.
-/
inductive Value where
  | null
  | bool (value : Bool)
  | number (value : Number)
  | string (value : Text)
  | array (items : List Value)
  | object (members : List (Text × Value))

namespace Value

/-- A count as a value. -/
def count (number : Nat) : Value :=
  .number (.integer number)

/-- The member of an object with a given key. -/
def member? (key : Text) : Value → Option Value
  | .object members => (members.reverse.find? (fun member => member.1 == key)).map (·.2)
  | _ => none

/-- The value as a count: an integer from 0 up. -/
def count? : Value → Option Nat
  | .number (.integer (.ofNat value)) => some value
  | _ => none

/-- The value as a truth value. -/
def bool? : Value → Option Bool
  | .bool value => some value
  | _ => none

/-- The value as a string. -/
def string? : Value → Option Text
  | .string value => some value
  | _ => none

/-- The value as a list of values. -/
def array? : Value → Option (List Value)
  | .array items => some items
  | _ => none

/-- The value as a list of strings. An entry of another type rejects all of it. -/
def strings? (value : Value) : Option (List Text) :=
  value.array?.bind (·.mapM string?)

end Value

end PageAudit.Json
