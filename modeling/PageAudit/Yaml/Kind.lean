import PageAudit.Decimal.Binary64
import PageAudit.Json.Value
import PageAudit.Text.Numeral
import PageAudit.Yaml.Tag

/-! The values of YAML scalars, in the terms of JSON. The kind of a plain scalar without a tag is
read off its text.
-/

namespace PageAudit.Yaml

/-- Digits behind a zero are no number. -/
def isPaddedNumeral (text : Text) : Bool :=
  match Text.dropSign text with
  | '0' :: rest => !rest.isEmpty && rest.all Char.isDigit
  | _ => false

/-- The number that at least one digit of a base denotes. -/
def digitsIn? (base : Nat) (digits : Text) : Option Nat :=
  if digits.isEmpty then none else Text.digitsIn? base digits

/-- The number of digits behind the mark of their base. -/
def marked? (text : Text) : Option Nat :=
  match text with
  | '0' :: 'x' :: digits => digitsIn? 16 digits
  | '0' :: 'o' :: digits => digitsIn? 8 digits
  | '0' :: 'b' :: digits => digitsIn? 2 digits
  | _ => none

/-- The integer of a text without a sign. -/
def magnitude? (text : Text) : Option Nat :=
  (marked? text).orElse fun _ => if isPaddedNumeral text then none else Text.readNat? text

/-- The integer that a text denotes. -/
def integer? (text : Text) : Option Int :=
  match text with
  | '-' :: digits => (magnitude? digits).map (fun value => -(value : Int))
  | '+' :: digits => (magnitude? digits).map Int.ofNat
  | digits => (magnitude? digits).map Int.ofNat

/-- The significand and the exponent of a decimal numeral. -/
def decimalParts (text : Text) : Nat × Int :=
  let (whole, rest) := Text.spanDigits text
  let (fraction, rest) :=
    match rest with
    | '.' :: rest => Text.spanDigits rest
    | rest => ([], rest)
  let exponent : Int :=
    match rest with
    | _ :: '-' :: digits => -(Text.digitsValue digits : Int)
    | _ :: rest => Text.digitsValue (Text.dropSign rest)
    | [] => 0
  (Text.digitsValue (whole ++ fraction), exponent - fraction.length)

/-- A decimal is beyond the greatest floating-point number. Its number of digits before the
point decides, except close to that number.
-/
def isTooLarge (significand : Nat) (exponent : Int) : Bool :=
  let places := (Text.ofNat significand).length + exponent
  significand != 0 && 308 < places
    && (310 < places
      || Binary64.overflowLimit * Nat.pow 10 (-exponent).toNat
        ≤ significand * Nat.pow 10 exponent.toNat)

/-- The floating-point number that a text denotes. An infinite or undefined one has no value in
JSON. A numeral whose number is too large is none.
-/
def float? (text : Text) : Option Json.Value :=
  let (isNegative, unsigned) :=
    match text with
    | '-' :: rest => (true, rest)
    | '+' :: rest => (false, rest)
    | rest => (false, rest)
  if ([".inf", ".Inf", ".INF"] : List Text).any (· == unsigned) then some .null
  else if ([".nan", ".NaN", ".NAN"] : List Text).any (· == text) then some .null
  else if Text.isUnsignedDecimal unsigned then
    let (significand, exponent) := decimalParts unsigned
    if isTooLarge significand exponent then none
    else some (.number (.decimal (if isNegative then -significand else significand) exponent))
  else none

/-- The truth value that a text denotes. -/
def bool? (text : Text) : Option Bool :=
  if (["true", "True", "TRUE"] : List Text).any (· == text) then some true
  else if (["false", "False", "FALSE"] : List Text).any (· == text) then some false
  else none

/-- A text denotes the absence of a value. -/
def isNull (text : Text) : Bool :=
  (["null", "Null", "NULL", "~"] : List Text).any (· == text)

/-- The value of an integer. Beyond 64 bits it has none, unless it is beyond 128 bits too. -/
def integerValue? (value : Int) : Option Json.Value :=
  if Int64.minValue.toInt ≤ value ∧ value < UInt64.size then some (.number (.integer value))
  else none

/-- An integer that fits into 128 bits. Digits beyond are read as another kind of scalar. -/
def wideInteger? (text : Text) : Option Int :=
  let half : Int := Nat.pow 2 127
  (integer? text).filter (fun value => -half ≤ value && value < 2 * half)

/-- The value of a plain scalar without a tag. -/
def plainValue? (text : Text) : Option Json.Value :=
  if text.isEmpty ∨ isNull text then some .null
  else
    match bool? text with
    | some value => some (.bool value)
    | none =>
        match wideInteger? text with
        | some value => integerValue? value
        | none =>
            if isPaddedNumeral text then some (.string text)
            else some ((float? text).getD (.string text))

/-- The tag is one of the document's own. It gives no value in JSON. -/
def isOwnKind (name : Name) : Bool :=
  Name.isLocal name && (Text.ofBytes? name).isSome

/-- The value of a scalar with a tag, whose name is given in full. A local name that is no text
counts as no tag.
-/
def taggedValue? (name : Name) (isPlain : Bool) (text : Text) : Option Json.Value :=
  if isOwnKind name then none
  else if name = standardName "bool" then (bool? text).map .bool
  else if name = standardName "int" then (wideInteger? text).bind integerValue?
  else if name = standardName "float" then float? text
  else if name = standardName "null" then if isNull text then some .null else none
  else if Name.isLocal name ∧ isPlain then plainValue? text
  else some (.string text)

/-- The value of a scalar with the name of its tag. -/
def scalarValue? (name : Option Name) (isPlain : Bool) (text : Text) : Option Json.Value :=
  match name with
  | some name => taggedValue? name isPlain text
  | none => if isPlain then plainValue? text else some (.string text)

end PageAudit.Yaml
