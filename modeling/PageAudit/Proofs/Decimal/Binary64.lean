import Mathlib.Algebra.Group.Nat.Defs
import PageAudit.Decimal.Binary64
import PageAudit.Proofs.Text.Numeral

/-! Rounding to 53 significant digits keeps the size of a number, so a product of moderate size
has a floating-point number. Its decimal text is of digits around a point.
-/

namespace PageAudit.Binary64

theorem roundDiv_le (numerator denominator : Nat)
    : roundDiv numerator denominator ≤ numerator / denominator + 1 := by
  unfold roundDiv
  dsimp only
  split <;> omega

/-- Rounding to significant digits at most doubles a number. -/
theorem nearestNat_le (number : Nat) : nearestNat number ≤ 2 * number := by
  rcases Nat.eq_zero_or_pos number with rfl | positive
  · exact Nat.le_refl 0
  · let unit := Nat.pow 2 (number.log2 + 1 - precision)
    have unitLe : unit ≤ number := by
      have exponent : number.log2 + 1 - precision ≤ number.log2 := by
        simp only [precision]
        omega
      calc unit
        _ ≤ 2 ^ number.log2 := Nat.pow_le_pow_right (by decide) exponent
        _ ≤ number := Nat.log2_self_le (Nat.ne_of_gt positive)
    calc nearestNat number
      _ ≤ (number / unit + 1) * unit := Nat.mul_le_mul_right unit (roundDiv_le number unit)
      _ = number / unit * unit + unit := Nat.succ_mul _ _
      _ ≤ number + number := Nat.add_le_add (Nat.div_mul_le_self number unit) unitLe
      _ = 2 * number := (Nat.two_mul number).symm

/-- A product of at most 200 binary digits is not beyond the greatest number. -/
theorem overflows_eq_false {significand exponent : Nat}
    (small : significand * 10 ^ exponent < 2 ^ 200)
    : overflows significand exponent = false := by
  rcases Nat.eq_zero_or_pos significand with rfl | positive
  · rfl
  · have few : exponent < 61 := by
      refine (Nat.pow_lt_pow_iff_right (a := 10) (by decide)).mp ?_
      calc 10 ^ exponent
        _ ≤ significand * 10 ^ exponent := Nat.le_mul_of_pos_left _ positive
        _ < 2 ^ 200 := small
        _ < 10 ^ 61 := by decide
    have product : nearestNat significand * nearestNat (Nat.pow 10 exponent) < overflowLimit := by
      calc nearestNat significand * nearestNat (Nat.pow 10 exponent)
        _ ≤ 2 * significand * (2 * 10 ^ exponent) :=
            Nat.mul_le_mul (nearestNat_le significand) (nearestNat_le (10 ^ exponent))
        _ = 2 * 2 * (significand * 10 ^ exponent) := Nat.mul_mul_mul_comm _ _ _ _
        _ < 2 * 2 * 2 ^ 200 := Nat.mul_lt_mul_of_pos_left small (by decide)
        _ ≤ overflowLimit := by decide +kernel
    have notMany : decide (308 < exponent) = false := decide_eq_false (by omega)
    have notBeyond := decide_eq_false (Nat.not_le.mpr product)
    rw [overflows, notMany, notBeyond, Bool.or_false, Bool.and_false]

theorem of_mem_fixed {places : Nat} {number : Binary64} {char : Char}
    (member : char ∈ number.fixed places)
    : char.isDigit ∨ char = '.' := by
  simp only [fixed, paddedDigits, List.mem_append, List.mem_cons, List.mem_replicate] at member
  rcases member with whole | point | ⟨-, zero⟩ | part
  · exact .inl (Text.isDigit_of_mem_ofNat whole)
  · exact .inr point
  · exact .inl (by rw [zero]; rfl)
  · exact .inl (Text.isDigit_of_mem_ofNat part)

end PageAudit.Binary64
