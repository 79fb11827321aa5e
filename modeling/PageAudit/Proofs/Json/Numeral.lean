import Mathlib.Algebra.Group.Int.Defs
import PageAudit.Json.Numeral
import PageAudit.Json.Printer
import PageAudit.Proofs.Decimal.Binary64
import PageAudit.Proofs.Text.Numeral

/-! An integer of 64 bits is written as a numeral that denotes it. A greater one is written as a
numeral that denotes some number, which keeps no more than its first digits.
-/

namespace PageAudit.Json

/-- An integer of 64 bits, with a sign below zero and without one from zero up. A decimal may have
digits that no number keeps, so it is none of these.
-/
def Number.IsWord : Number → Prop
  | .integer value => -(2 ^ 63 : Int) ≤ value ∧ value < 2 ^ 64
  | .decimal _ _ => False

namespace Numeral

/-- A numeral that is read up to a whole digit. -/
def IsWhole (numeral : Numeral) : Prop :=
  numeral.stage = .zero ∨ numeral.stage = .whole

theorem IsWhole.isComplete {numeral : Numeral} (whole : numeral.IsWhole)
    : numeral.isComplete := by
  unfold Numeral.isComplete
  rcases whole with zero | whole
  · rw [zero]
  · rw [whole]

/-- No other character than a digit, a point or the mark of an exponent continues whole digits. -/
theorem IsWhole.push?_eq_none {numeral : Numeral} (whole : numeral.IsWhole) {char : Char}
    (noDigit : char.isDigit = false) (noMark : char ∉ ['.', 'e', 'E'])
    : numeral.push? char = none := by
  obtain ⟨noPoint, noLower, noUpper, -⟩ : char ≠ '.' ∧ char ≠ 'e' ∧ char ≠ 'E' ∧ char ∉ [] := by
    simpa using noMark
  have leaves : numeral.leaveDigits? char = none := by
    simp [leaveDigits?, noPoint, noLower, noUpper]
  rcases whole with zero | whole
  · simp [push?, zero, leaves]
  · simp [push?, whole, noDigit, leaves]

theorem begin?_of_isDigit {char : Char} (digit : char.isDigit) (nonzero : char ≠ '0')
    : begin? char = some { stage := .whole, whole := [char] } := by
  have noSign : char ≠ '-' := by
    rintro rfl
    exact absurd digit (by decide)
  simp [begin?, noSign, nonzero, digit]

/-- Whole digits are read one behind the other, by induction over the digits. -/
theorem foldlM_push?_digits (negative : Bool) (seen : Text) {digits : Text}
    (each : ∀ char ∈ digits, char.isDigit)
    : digits.foldlM push? { stage := .whole, negative, whole := seen }
      = some { stage := .whole, negative, whole := digits.reverse ++ seen } := by
  induction digits generalizing seen with
  | nil => rfl
  | cons digit digits ih =>
      have first : digit.isDigit := each digit List.mem_cons_self
      have others := ih (digit :: seen) fun char member => each char (.tail _ member)
      rw [List.foldlM_cons]
      simp [push?, first, others]

/-- The whole digits of a number denote it, behind a minus sign its opposite. -/
theorem number?_of_digits {negative : Bool} {value : Nat}
    (fits : if negative then 0 < value ∧ value ≤ 2 ^ 63 else value < 2 ^ 64)
    : number? { stage := .whole, negative, whole := (Text.ofNat value).reverse }
      = some (.integer (if negative then -value else value)) := by
  have same : Text.digitsValue (Text.ofNat value) = value := Text.digitsValue_ofNat value
  cases negative with
  | false =>
      have small : value ≤ maxCount := Nat.le_of_lt_succ fits
      simp [number?, same, small]
  | true =>
      obtain ⟨positive, small⟩ := fits
      have half : value ≤ UInt64.size / 2 := small
      simp [number?, same, positive, half]

/-- Each further digit makes ten times as much of a number, and more. -/
theorem mul_pow_le_foldl (value : Nat) (digits : Text)
    : value * 10 ^ digits.length
      ≤ digits.foldl (fun value digit => 10 * value + (digit.toNat - '0'.toNat)) value := by
  induction digits generalizing value with
  | nil => exact Nat.le_of_eq (Nat.mul_one value)
  | cons digit digits ih =>
      have first : value * 10 ≤ 10 * value + (digit.toNat - '0'.toNat) := by omega
      have power : 10 ^ (digits.length + 1) = 10 * 10 ^ digits.length := Nat.pow_succ'
      rw [List.length_cons, power, ← Nat.mul_assoc, List.foldl_cons]
      exact Nat.le_trans (Nat.mul_le_mul_right _ first) (ih _)

/-- What a significand keeps of some digits, with zeros in place of the others, is not more than
what the digits denote.
-/
theorem absorb_le (significand : Nat) (digits : Text)
    : (absorb significand digits).1 * 10 ^ (absorb significand digits).2
      ≤ digits.foldl (fun value digit => 10 * value + (digit.toNat - '0'.toNat)) significand := by
  induction digits generalizing significand with
  | nil => exact Nat.le_of_eq (Nat.mul_one significand)
  | cons digit digits ih =>
      unfold absorb
      dsimp only
      split
      · exact ih _
      · exact mul_pow_le_foldl significand (digit :: digits)

/-- Whole digits denote a number also when 64 bits do not hold it. -/
theorem exists_number?_of_digits {value : Nat} (small : value < 2 ^ 200)
    : ∃ number,
        number? { stage := .whole, whole := (Text.ofNat value).reverse } = some number := by
  have same : Text.digitsValue (Text.ofNat value) = value := Text.digitsValue_ofNat value
  have kept : (absorb 0 (Text.ofNat value)).1 * 10 ^ (absorb 0 (Text.ofNat value)).2 ≤ value := by
    have whole := absorb_le 0 (Text.ofNat value)
    rw [← Text.digitsValue, same] at whole
    exact whole
  -- A significand with few digits left out is bounded as well as one with many: both factors are
  -- rounded up by less than themselves, and their product is bounded by the number.
  have within := Binary64.overflows_eq_false (Nat.lt_of_le_of_lt kept small)
  have decimal : decimal? { stage := .whole, whole := (Text.ofNat value).reverse }
      = some (.decimal (absorb 0 (Text.ofNat value)).1 (absorb 0 (Text.ofNat value)).2) := by
    simp [decimal?, scaled, absorb, Text.digitsValue, within]
  by_cases word : value ≤ maxCount
  · exact ⟨.integer value, by simp [number?, same, word]⟩
  · exact ⟨_, by simpa [number?, same, word] using decimal⟩

end Numeral

/-- (Numerates text value) says that a text is read as a numeral with whole digits that denotes an
integer.
-/
def Numerates (text : Text) (value : Int) : Prop :=
  ∃ first rest begun numeral,
    text = first :: rest
    ∧ Numeral.begin? first = some begun
    ∧ rest.foldlM Numeral.push? begun = some numeral
    ∧ numeral.IsWhole
    ∧ numeral.number? = some (.integer value)

/-- The digits of a number above zero are read as whole digits from the first one on. -/
theorem exists_digits {value : Nat} (positive : 0 < value)
    : ∃ first rest,
        Text.ofNat value = first :: rest
        ∧ first.isDigit
        ∧ first ≠ '0'
        ∧ ∀ negative,
          rest.foldlM Numeral.push? { stage := .whole, negative, whole := [first] }
          = some { stage := .whole, negative, whole := (Text.ofNat value).reverse } := by
  obtain ⟨first, rest, digits, nonzero⟩ := Text.ofNat_eq_cons positive
  have each (char : Char) (member : char ∈ first :: rest) : char.isDigit :=
    Text.isDigit_of_mem_ofNat (digits ▸ member)
  refine ⟨first, rest, digits, each first List.mem_cons_self, nonzero, fun negative => ?_⟩
  rw [Numeral.foldlM_push?_digits negative [first] fun char member => each char (.tail _ member),
    digits, List.reverse_cons]

theorem numerates_ofNat {value : Nat} (fits : value < 2 ^ 64)
    : Numerates (Text.ofNat value) value := by
  rcases Nat.eq_zero_or_pos value with rfl | positive
  · exact ⟨'0', [], { stage := .zero, whole := ['0'] }, { stage := .zero, whole := ['0'] },
      Text.ofNat_zero, rfl, rfl, .inl rfl, rfl⟩
  · obtain ⟨first, rest, digits, digit, nonzero, read⟩ := exists_digits positive
    exact ⟨first, rest, _, _, digits, Numeral.begin?_of_isDigit digit nonzero, read false,
      .inr rfl, Numeral.number?_of_digits fits⟩

/-- An integer of 64 bits is written as a numeral that denotes it. -/
theorem numerates_writeInt {value : Int} (word : (Number.integer value).IsWord)
    : Numerates (writeInt value) value := by
  obtain ⟨low, high⟩ := word
  cases value with
  | ofNat value =>
      have fits : value < 2 ^ 64 := Int.ofNat_lt.mp high
      exact numerates_ofNat fits
  | negSucc value =>
      obtain ⟨first, rest, digits, digit, nonzero, read⟩ := exists_digits (Nat.succ_pos value)
      have begun : Numeral.push? { stage := .sign, negative := true } first
          = some { stage := .whole, negative := true, whole := [first] } := by
        simp [Numeral.push?, Numeral.beginWhole?, digit, nonzero]
      have fits : value + 1 ≤ 2 ^ 63 := by omega
      refine ⟨'-', first :: rest, { stage := .sign, negative := true },
        { stage := .whole, negative := true, whole := (Text.ofNat (value + 1)).reverse },
        ?_, rfl, ?_, .inr rfl, ?_⟩
      · rw [writeInt, digits]
      · rw [List.foldlM_cons, begun]
        exact read true
      · exact Numeral.number?_of_digits ⟨Nat.succ_pos value, fits⟩

end PageAudit.Json
