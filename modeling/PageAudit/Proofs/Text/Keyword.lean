import Mathlib.Data.List.Forall2
import PageAudit.Proofs.Text.Run
import PageAudit.Text.Word

/-! Keywords in any case: what is read at the front of a text is a spelling of the keyword, letter by
letter. Only spellings of `s` and `k` may have characters beyond ASCII.
-/

namespace PageAudit.Text

variable {keyword spelling text rest : Text} {letter char : Char}

/-- (Spells keyword spelling) says that a text is a keyword in any case. -/
def Spells (keyword spelling : Text) : Prop :=
  List.Forall₂ (fun letter char => foldsTo letter char) keyword spelling

instance (keyword spelling : Text) : Decidable (Spells keyword spelling) :=
  inferInstanceAs (Decidable (List.Forall₂ _ _ _))

/-- A keyword is read exactly where the text begins with a spelling of it. -/
theorem afterKeyword?_eq_some_iff
    : afterKeyword? keyword text = some rest
      ↔ ∃ spelling, text = spelling ++ rest ∧ Spells keyword spelling := by
  induction keyword generalizing text with
  | nil =>
      rw [afterKeyword?, Option.some.injEq]
      constructor
      · rintro rfl
        exact ⟨[], rfl, .nil⟩
      · rintro ⟨_, split, spells⟩
        cases spells
        exact split
  | cons letter keyword ih =>
      cases text with
      | nil =>
          constructor
          · intro found
            cases found
          · rintro ⟨_, split, spells⟩
            cases spells
            cases split
      | cons char text =>
          rw [afterKeyword?, Option.ite_none_right_eq_some, ih]
          constructor
          · rintro ⟨folds, spelling, rfl, spells⟩
            exact ⟨char :: spelling, rfl, .cons folds spells⟩
          · rintro ⟨_, split, spells⟩
            cases spells with
            | cons folds spells =>
                obtain ⟨rfl, rfl⟩ := List.cons.inj split
                exact ⟨folds, _, rfl, spells⟩

theorem Spells.afterKeyword? (spells : Spells keyword spelling) (rest : Text)
    : Text.afterKeyword? keyword (spelling ++ rest) = some rest :=
  afterKeyword?_eq_some_iff.mpr ⟨spelling, rfl, spells⟩

theorem Spells.ne_nil (spells : Spells keyword spelling) (nonempty : keyword ≠ [])
    : spelling ≠ [] := by
  rintro rfl
  exact nonempty (List.forall₂_nil_right_iff.mp spells)

theorem Spells.exists_letter (spells : Spells keyword spelling) (member : char ∈ spelling)
    : ∃ letter ∈ keyword, foldsTo letter char := by
  induction spells with
  | nil => cases member
  | cons folds _ ih =>
      rcases List.mem_cons.mp member with rfl | later
      · exact ⟨_, List.mem_cons_self, folds⟩
      · obtain ⟨letter, among, same⟩ := ih later
        exact ⟨letter, .tail _ among, same⟩

/-- Letters but `s` and `k` have no other spellings than their two cases. -/
theorem foldsTo_iff (plain : letter ≠ 's' ∧ letter ≠ 'k')
    : foldsTo letter char ↔ char.toLower = letter := by
  simp [foldsTo, plain]

theorem spells_iff (plain : 's' ∉ keyword ∧ 'k' ∉ keyword)
    : Spells keyword spelling ↔ lower spelling = keyword := by
  induction keyword generalizing spelling with
  | nil => simp [Spells, lower]
  | cons letter keyword ih =>
      have first : letter ≠ 's' ∧ letter ≠ 'k' :=
        ⟨(List.ne_of_not_mem_cons plain.1).symm, (List.ne_of_not_mem_cons plain.2).symm⟩
      have others : 's' ∉ keyword ∧ 'k' ∉ keyword :=
        ⟨List.not_mem_of_not_mem_cons plain.1, List.not_mem_of_not_mem_cons plain.2⟩
      cases spelling with
      | nil => simp [Spells, lower]
      | cons char spelling =>
          rw [Spells, List.forall₂_cons, ← Spells, ih others, foldsTo_iff first]
          exact List.cons_eq_cons.symm

-----------------------------------------------------------------------------------------
-- Blanks
-----------------------------------------------------------------------------------------

/-- A letter is no blank in either case, and other characters have no other case. -/
theorem isBlank_toLower (char : Char) : isBlank char.toLower = isBlank char := by
  unfold Char.toLower
  split
  · next bounds =>
      have low : 0x41 ≤ char.val.toNat := UInt32.le_iff_toNat_le.mp bounds.1
      have high : char.val.toNat ≤ 0x5A := UInt32.le_iff_toNat_le.mp bounds.2
      have moved : (char.val + ('a'.val - 'A'.val)).toNat = char.val.toNat + 0x20 := by
        have step : ('a'.val - 'A'.val).toNat = 0x20 := by decide
        rw [UInt32.toNat_add, step]
        omega
      have capital : isBlank char = false := isBlank_eq_false (by rw [Char.toNat]; omega)
        (by rw [Char.toNat]; omega)
      rw [capital]
      exact isBlank_eq_false (by rw [Char.toNat, moved]; omega) (by rw [Char.toNat, moved]; omega)
  · rfl

/-- No spelling of a letter is a blank, unless the letter is one. -/
theorem isBlank_of_foldsTo (folds : foldsTo letter char) : isBlank char = isBlank letter := by
  simp only [foldsTo, Bool.or_eq_true, Bool.and_eq_true, beq_iff_eq] at folds
  rcases folds with (lower | ⟨rfl, rfl⟩) | ⟨rfl, rfl⟩
  · rw [← lower, isBlank_toLower]
  · decide
  · decide

theorem Spells.solid (spells : Spells keyword spelling) (solid : keyword.all (!isBlank ·))
    : ∀ char ∈ spelling, isBlank char = false := by
  intro char member
  obtain ⟨letter, among, folds⟩ := spells.exists_letter member
  rw [isBlank_of_foldsTo folds]
  simpa using List.all_eq_true.mp solid letter among

end PageAudit.Text
