import PageAudit.Text.Numeral

/-! The decimal digits of a number denote it, and no zero stands in front of others. -/

namespace PageAudit.Text

theorem digitsValue_ofNat (number : Nat) : digitsValue (ofNat number) = number :=
  Nat.ofDigitChars_toDigits (by decide) (by decide)

theorem isDigit_of_mem_ofNat {number : Nat} {digit : Char} (member : digit ∈ ofNat number)
    : digit.isDigit :=
  Nat.isDigit_of_mem_toDigits (by decide) (by decide) member

theorem ofNat_zero : ofNat 0 = ['0'] :=
  Nat.toDigits_of_lt_base (by decide)

/-- The first digit of a number above zero is no zero, by induction over its digits: the first digit
of ten and more is that of a tenth.
-/
theorem ofNat_eq_cons {number : Nat} (positive : 0 < number)
    : ∃ first rest, ofNat number = first :: rest ∧ first ≠ '0' := by
  induction number using Nat.strongRecOn with
  | ind number ih =>
      by_cases single : number < 10
      · refine ⟨Nat.digitChar number, [], Nat.toDigits_of_lt_base single, ?_⟩
        intro zero
        have code := Nat.toNat_digitChar_of_lt_ten single
        rw [zero] at code
        have zeroCode : '0'.toNat = 48 := rfl
        omega
      · have ten : 10 ≤ number := Nat.le_of_not_lt single
        obtain ⟨first, rest, tenth, other⟩ := ih (number / 10) (by omega) (by omega)
        have split : ofNat number = ofNat (number / 10) ++ [Nat.digitChar (number % 10)] :=
          Nat.toDigits_of_base_le (by decide) ten
        refine ⟨first, rest ++ [Nat.digitChar (number % 10)], ?_, other⟩
        rw [split, tenth, List.cons_append]

end PageAudit.Text
