import PageAudit.Text.Basic

/-! The order of texts by their code points, which is also that of their bytes in UTF-8. It is
strict, transitive and total.
-/

namespace PageAudit.Text

/-- A text comes before another when it has the smaller character at the first difference, or
ends there.
-/
def isBefore : Text → Text → Bool
  | _, [] => false
  | [], _ :: _ => true
  | first :: left, second :: right =>
      if first = second then isBefore left right else decide (first.toNat < second.toNat)

/-- No text comes before itself. -/
theorem isBefore_self (text : Text) : isBefore text text = false := by
  induction text with
  | nil => rfl
  | cons char text ih => simpa [isBefore] using ih

/-- The order is transitive, since at the earlier of two first differences it is that of
numbers.
-/
theorem isBefore_trans {left middle right : Text} (before : isBefore left middle = true)
    (after : isBefore middle right = true)
    : isBefore left right = true := by
  induction left generalizing middle right with
  | nil =>
      cases right with
      | nil => cases middle <;> simp [isBefore] at after
      | cons => rfl
  | cons first left ih =>
      match middle, right with
      | [], _ => simp [isBefore] at before
      | _ :: _, [] => simp [isBefore] at after
      | second :: middle, third :: right =>
          by_cases same : first = second
          · subst same
            by_cases next : first = third
            · subst next
              simp only [isBefore, if_true] at before after ⊢
              exact ih before after
            · simpa [isBefore, next] using after
          · by_cases next : second = third
            · subst next
              simpa [isBefore, same] using before
            · simp only [isBefore, same, next, if_false, decide_eq_true_eq] at before after
              have less : first.toNat < third.toNat := Nat.lt_trans before after
              have different : first ≠ third := fun equal => by
                rw [equal] at less
                exact Nat.lt_irrefl _ less
              simpa [isBefore, different] using less

/-- Of two different texts one comes before the other. -/
theorem isBefore_of_ne {left right : Text} (different : left ≠ right)
    (notBefore : isBefore left right = false)
    : isBefore right left = true := by
  induction left generalizing right with
  | nil =>
      cases right with
      | nil => exact absurd rfl different
      | cons => simp [isBefore] at notBefore
  | cons first left ih =>
      cases right with
      | nil => rfl
      | cons second right =>
          by_cases same : first = second
          · subst same
            simp only [isBefore, if_true] at notBefore ⊢
            exact ih (fun equal => different (by rw [equal])) notBefore
          · simp only [isBefore, same, if_false, decide_eq_false_iff_not] at notBefore
            have numbers : first.toNat ≠ second.toNat := fun equal =>
              same (Char.ext (UInt32.toNat_inj.mp equal))
            have less : second.toNat < first.toNat :=
              Nat.lt_of_le_of_ne (Nat.not_lt.mp notBefore) numbers.symm
            simpa [isBefore, Ne.symm same] using less

end PageAudit.Text
