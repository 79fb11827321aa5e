import PageAudit.Decimal.Binary64
import PageAudit.Json.Value
import PageAudit.Text.Numeral

/-! JSON numerals, read digit by digit, and the numbers that they denote. -/

namespace PageAudit.Json

/-- How far a numeral is read: its sign, a zero that no digit may follow, its whole digits,
its point, its fraction, the mark and the sign of its exponent, or its exponent.
-/
inductive Numeral.Stage where
  | sign
  | zero
  | whole
  | point
  | fraction
  | mark
  | markSign
  | exponent
deriving DecidableEq

/-- A numeral as far as it is read. The digits of each part are in reverse. -/
structure Numeral where
  stage : Numeral.Stage
  negative : Bool := false
  whole : Text := []
  fraction : Text := []
  exponentNegative : Bool := false
  exponent : Text := []

namespace Numeral

/-- The numeral that a character begins. -/
def begin? (char : Char) : Option Numeral :=
  if char = '-' then some { stage := .sign, negative := true }
  else if char = '0' then some { stage := .zero, whole := [char] }
  else if char.isDigit then some { stage := .whole, whole := [char] }
  else none

/-- The numeral with its first whole digit. -/
def beginWhole? (numeral : Numeral) (char : Char) : Option Numeral :=
  if char = '0' then some { numeral with stage := .zero, whole := [char] }
  else if char.isDigit then some { numeral with stage := .whole, whole := [char] }
  else none

/-- The numeral with a point or the mark of an exponent behind the digits before it. -/
def leaveDigits? (numeral : Numeral) (char : Char) : Option Numeral :=
  if char = 'e' ∨ char = 'E' then some { numeral with stage := .mark }
  else if char = '.' ∧ numeral.stage ≠ .fraction then some { numeral with stage := .point }
  else none

/-- The numeral with one more digit of its fraction. -/
def pushFraction? (numeral : Numeral) (char : Char) : Option Numeral :=
  if char.isDigit then
    some { numeral with stage := .fraction, fraction := char :: numeral.fraction }
  else none

/-- The numeral with one more digit of its exponent. -/
def pushExponent? (numeral : Numeral) (char : Char) : Option Numeral :=
  if char.isDigit then
    some { numeral with stage := .exponent, exponent := char :: numeral.exponent }
  else none

/-- The numeral with one more character, when that continues it. -/
def push? (numeral : Numeral) (char : Char) : Option Numeral :=
  match numeral.stage with
  | .sign => beginWhole? numeral char
  | .zero => leaveDigits? numeral char
  | .whole =>
      if char.isDigit then some { numeral with whole := char :: numeral.whole }
      else leaveDigits? numeral char
  | .point => pushFraction? numeral char
  | .fraction => (pushFraction? numeral char).orElse (fun _ => leaveDigits? numeral char)
  | .mark =>
      if char = '+' then some { numeral with stage := .markSign }
      else if char = '-' then
        some { numeral with stage := .markSign, exponentNegative := true }
      else pushExponent? numeral char
  | .markSign => pushExponent? numeral char
  | .exponent => pushExponent? numeral char

/-- A numeral may end behind a digit. -/
def isComplete (numeral : Numeral) : Bool :=
  match numeral.stage with
  | .zero | .whole | .fraction | .exponent => true
  | .sign | .point | .mark | .markSign => false

/-- The greatest number that 64 bits hold. -/
def maxCount : Nat :=
  UInt64.size - 1

/-- (absorb significand digits) appends the digits to a significand as long as it fits into 64
bits. It answers with the result and with the number of digits that were left out.
-/
def absorb : Nat → Text → Nat × Nat
  | significand, [] => (significand, 0)
  | significand, digit :: digits =>
      let next := 10 * significand + (digit.toNat - '0'.toNat)
      if next ≤ maxCount then absorb next digits else (significand, digits.length + 1)

/-- The significand and the exponent of a numeral that is no integer of 64 bits. -/
def scaled (numeral : Numeral) : Nat × Int :=
  let (whole, omitted) := absorb 0 numeral.whole.reverse
  let (significand, ignored) := absorb whole numeral.fraction.reverse
  let shift : Int := omitted - (numeral.fraction.length - ignored : Nat)
  let exponent : Int := Text.digitsValue numeral.exponent.reverse
  (significand, if numeral.exponentNegative then shift - exponent else shift + exponent)

/-- The number of a numeral with a fraction, an exponent or more than 64 bits. There is none
when it is beyond the greatest floating-point number.
-/
def decimal? (numeral : Numeral) : Option Number :=
  let (significand, exponent) := numeral.scaled
  if Binary64.overflows significand exponent.toNat then none
  else
    some (.decimal (if numeral.negative then -significand else significand) exponent)

/-- The number that a complete numeral denotes. A zero with a minus sign is no integer. -/
def number? (numeral : Numeral) : Option Number :=
  let whole := Text.digitsValue numeral.whole.reverse
  if numeral.stage ≠ .zero ∧ numeral.stage ≠ .whole then numeral.decimal?
  else if ¬ numeral.negative ∧ whole ≤ maxCount then some (.integer whole)
  else if numeral.negative ∧ 0 < whole ∧ whole ≤ UInt64.size / 2 then some (.integer (-whole))
  else numeral.decimal?

end Numeral

end PageAudit.Json
