import PageAudit.Json.Value

/-! JSON documents: the structure of a text that follows the grammar of JSON.

The grammar allows numbers beyond every floating-point number and escapes that name half of a
surrogate pair. A document marks such places, since they matter only where a value is asked
for.
-/

namespace PageAudit.Json

/-- A document. A number or a string, also one that is a key, is absent where the written form
denotes none.
-/
inductive Document where
  | null
  | bool (value : Bool)
  | number (value : Option Number)
  | string (value : Option Text)
  | array (items : List Document)
  | object (members : List (Option Text × Document))

namespace Document

/-- Arrays and objects may be nested this deep in a value. -/
def maxDepth : Nat :=
  127

mutual

/-- The value of a document whose arrays and objects are nested at most `depth` deep, when all
of its numbers and strings denote something.
-/
def valueWithin? : Nat → Document → Option Value
  | _, .null => some .null
  | _, .bool value => some (.bool value)
  | _, .number value => value.map .number
  | _, .string value => value.map .string
  | 0, .array _ => none
  | depth + 1, .array items => (itemsWithin? depth items).map .array
  | 0, .object _ => none
  | depth + 1, .object members => (membersWithin? depth members).map .object

/-- The values of the items of an array. -/
def itemsWithin? : Nat → List Document → Option (List Value)
  | _, [] => some []
  | depth, item :: items =>
      (valueWithin? depth item).bind fun value =>
        (itemsWithin? depth items).map (value :: ·)

/-- The keys and values of the members of an object. -/
def membersWithin? : Nat → List (Option Text × Document) → Option (List (Text × Value))
  | _, [] => some []
  | depth, (key, member) :: members =>
      key.bind fun key =>
        (valueWithin? depth member).bind fun value =>
          (membersWithin? depth members).map ((key, value) :: ·)

end

/-- The value of a document. -/
def value? (document : Document) : Option Value :=
  valueWithin? maxDepth document

end Document

end PageAudit.Json
