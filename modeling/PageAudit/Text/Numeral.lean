import PageAudit.Text.Basic

/-! Decimal numerals: the texts that denote a number, possibly with a fraction and an
exponent, and reading whole numbers.
-/

namespace PageAudit.Text

/-- The longest run of decimal digits at the front of a text, and what follows it. -/
def spanDigits (text : Text) : Text × Text :=
  text.span Char.isDigit

/-- The number that a run of digits denotes. -/
def digitsValue (digits : Text) : Nat :=
  digits.foldl (fun value digit => 10 * value + (digit.toNat - '0'.toNat)) 0

/-- The number denoted by a text that holds at least one digit and nothing else. -/
def readNat? (text : Text) : Option Nat :=
  if text.isEmpty || !text.all Char.isDigit then none else some (digitsValue text)

/-- A sign in front of a numeral is dropped. -/
def dropSign : Text → Text
  | '+' :: rest => rest
  | '-' :: rest => rest
  | text => text

/-- The end of a text or an exponent: `e`, perhaps a sign, and at least one digit. -/
def isExponentTail : Text → Bool
  | [] => true
  | char :: rest =>
      let digits := dropSign rest
      (char == 'e' || char == 'E') && !digits.isEmpty && digits.all Char.isDigit

/-- Digits with an optional point among or beside them, at least one of them, and then
perhaps an exponent.
-/
def isUnsignedDecimal (text : Text) : Bool :=
  let (whole, rest) := spanDigits text
  match rest with
  | '.' :: rest =>
      let (fraction, tail) := spanDigits rest
      (!whole.isEmpty || !fraction.isEmpty) && isExponentTail tail
  | tail => !whole.isEmpty && isExponentTail tail

/-- A text denotes a floating-point number: a decimal numeral or, in any case, a name of
infinity or of the undefined number, each with an optional sign.
-/
def isFloatNumeral (text : Text) : Bool :=
  let magnitude := dropSign text
  isUnsignedDecimal magnitude || sameLetters magnitude "inf"
    || sameLetters magnitude "infinity" || sameLetters magnitude "nan"

end PageAudit.Text
