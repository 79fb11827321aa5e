import PageAudit.Text.Basic

/-! Numbers with 53 significant binary digits, and their decimal text.

Sizes and durations are shown as such numbers. Each operation gives the number with 53
digits that is nearest to the exact result, and of two the one with the even last digit.
-/

namespace PageAudit

/-- The whole number nearest to a quotient, and the even one of two. -/
def roundDiv (numerator denominator : Nat) : Nat :=
  let quotient := numerator / denominator
  let twice := 2 * (numerator % denominator)
  if twice < denominator ∨ (twice = denominator ∧ quotient % 2 = 0) then quotient
  else quotient + 1

/-- The number `mantissa / 2 ^ shift`. -/
structure Binary64 where
  mantissa : Nat
  shift : Nat

namespace Binary64

/-- The number of significant binary digits. -/
def precision : Nat :=
  53

/-- The whole number with at most 53 significant binary digits that is nearest to a given one. -/
def nearestNat (number : Nat) : Nat :=
  let unit := Nat.pow 2 (number.log2 + 1 - precision)
  roundDiv number unit * unit

/-- The number nearest to a whole one. -/
def ofNat (number : Nat) : Binary64 :=
  { mantissa := nearestNat number, shift := 0 }

/-- The number nearest to the quotient of two whole numbers. -/
def ofQuotient (numerator denominator : Nat) : Binary64 :=
  let wide := precision + denominator.log2 + 1 - numerator.log2
  let quotient := numerator * Nat.pow 2 wide / denominator
  let shift :=
    if Nat.pow 2 (precision + 1) ≤ quotient then wide - 2
    else if Nat.pow 2 precision ≤ quotient then wide - 1
    else wide
  { mantissa := roundDiv (numerator * Nat.pow 2 shift) denominator, shift }

/-- The number nearest to a sum. -/
def add (left right : Binary64) : Binary64 :=
  { mantissa :=
      nearestNat
        (left.mantissa * Nat.pow 2 right.shift + right.mantissa * Nat.pow 2 left.shift)
    shift := left.shift + right.shift }

/-- The number divided by a power of two. -/
def divPow (number : Binary64) (exponent : Nat) : Binary64 :=
  { number with shift := number.shift + exponent }

/-- A digit string of at least `width` digits, with zeros in front where needed. -/
def paddedDigits (width number : Nat) : Text :=
  let digits := Text.ofNat number
  List.replicate (width - digits.length) '0' ++ digits

/-- The exact value rounded to a number of decimal places, with ties to the even digit. -/
def fixed (places : Nat) (number : Binary64) : Text :=
  let scaled := roundDiv (number.mantissa * Nat.pow 10 places) (Nat.pow 2 number.shift)
  Text.ofNat (scaled / Nat.pow 10 places)
    ++ '.' :: paddedDigits places (scaled % Nat.pow 10 places)

/-- The least number that is too large: half a step above the greatest one. -/
def overflowLimit : Nat :=
  Nat.pow 2 1024 - Nat.pow 2 970

/-- A product of a significand and a power of ten, each first rounded, is beyond the greatest
number.
-/
def overflows (significand exponent : Nat) : Bool :=
  significand != 0
    && (308 < exponent
      || overflowLimit ≤ nearestNat significand * nearestNat (Nat.pow 10 exponent))

end Binary64

end PageAudit
