import PageAudit.Json.Document

/-! Reading records from JSON documents, member by member. -/

namespace PageAudit.Json.Document

/-- A count is an integer from 0 up. -/
def count? : Document → Option Nat
  | .number (some (.integer (.ofNat value))) => some value
  | _ => none

/-- A truth value. -/
def bool? : Document → Option Bool
  | .bool value => some value
  | _ => none

/-- A string. -/
def text? : Document → Option Text
  | .string value => value
  | _ => none

/-- A list of strings. -/
def texts? : Document → Option (List Text)
  | .array items => items.mapM text?
  | _ => none

/-- A string, or nothing. -/
def optionalText? : Document → Option (Option Text)
  | .null => some none
  | document => document.text?.map some

/-- The name of a choice, which is a string or the key of a single member without a value. -/
def choice? : Document → Option Text
  | .object [(key, .null)] => key
  | document => document.text?

/-- The values of a field among the members of an object. -/
def valuesOf (members : List (Option Text × Document)) (field : Text) : List Document :=
  (members.filter (fun member => member.1 == some field)).map (·.2)

/-- The value of a field that occurs at most once. -/
def fieldOf? (members : List (Option Text × Document)) (field : Text)
    : Option (Option Document) :=
  match valuesOf members field with
  | [] => some none
  | [value] => some (some value)
  | _ => none

/-- The values of the fields of a record, as far as they are there. A record is an object, in
which further members are ignored but no field occurs twice, or a list of values in the
order of the fields, which may end early.
-/
def record? (fields : List Text) : Document → Option (List (Option Document))
  | .object members =>
      if members.any (·.1.isNone) then none else fields.mapM (fieldOf? members)
  | .array items =>
      if items.length ≤ fields.length then
        some (items.map some ++ List.replicate (fields.length - items.length) none)
      else none
  | _ => none

end PageAudit.Json.Document
