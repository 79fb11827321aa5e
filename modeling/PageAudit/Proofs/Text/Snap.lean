import Mathlib.Order.Bounds.Basic
import PageAudit.Proofs.Text.Boundary

/-! The last boundary up to an offset, and the way back to it byte by byte. The start of a text is a
boundary, so the way back never leads in front of it.
-/

namespace PageAudit.Text

variable {text : Text} {offset : Nat}

/-- A boundary is an offset behind which there is a rest of the text. -/
theorem isBoundary_iff : IsBoundary text offset ↔ (dropBytes? offset text).isSome := by
  constructor
  · rintro ⟨before, after, rfl, rfl⟩
    rw [dropBytes?_append]
    rfl
  · intro found
    induction text generalizing offset with
    | nil =>
        cases offset with
        | zero => exact isBoundary_zero []
        | succ => cases found
    | cons char rest ih =>
        cases offset with
        | zero => exact isBoundary_zero (char :: rest)
        | succ offset =>
            rw [dropBytes?] at found
            split at found
            · next fits =>
                obtain ⟨before, after, rfl, size⟩ := ih found
                exact ⟨char :: before, after, rfl, by rw [byteSize_cons]; omega⟩
            · cases found

instance (text : Text) (offset : Nat) : Decidable (IsBoundary text offset) :=
  decidable_of_iff _ isBoundary_iff.symm

/-- The boundaries of a text that are not beyond an offset. -/
def boundariesUpTo (text : Text) (offset : Nat) : Set Nat :=
  {place | IsBoundary text place ∧ place ≤ offset}

/-- (stepBack? text offset) goes back byte by byte until it is at a boundary. There is no result
when it would have to go back from the start of the text.
-/
def stepBack? (text : Text) : Nat → Option Nat
  | 0 => if IsBoundary text 0 then some 0 else none
  | offset + 1 => if IsBoundary text (offset + 1) then some (offset + 1) else stepBack? text offset

theorem isGreatest_self (boundary : IsBoundary text offset)
    : IsGreatest (boundariesUpTo text offset) offset :=
  ⟨⟨boundary, Nat.le_refl offset⟩, fun _ upTo => upTo.2⟩

/-- The way back ends at the last boundary, by induction over the bytes that it may pass. -/
theorem exists_stepBack? (text : Text) (offset : Nat)
    : ∃ place, stepBack? text offset = some place
      ∧ IsGreatest (boundariesUpTo text offset) place := by
  induction offset with
  | zero =>
      have start := isBoundary_zero text
      exact ⟨0, if_pos start, isGreatest_self start⟩
  | succ offset ih =>
      by_cases here : IsBoundary text (offset + 1)
      · exact ⟨offset + 1, if_pos here, isGreatest_self here⟩
      · obtain ⟨place, found, ⟨boundary, within⟩, last⟩ := ih
        refine ⟨place, (if_neg here).trans found, ⟨boundary, Nat.le_succ_of_le within⟩, ?_⟩
        rintro other ⟨isBoundary, upTo⟩
        refine last ⟨isBoundary, Nat.le_of_lt_succ (Nat.lt_of_le_of_ne upTo ?_)⟩
        rintro rfl
        exact here isBoundary

/-- No boundary is beyond the end of a text. -/
theorem boundariesUpTo_min (text : Text) (offset : Nat)
    : boundariesUpTo text (min offset (byteSize text)) = boundariesUpTo text offset := by
  ext place
  refine and_congr_right fun boundary => ?_
  rw [Nat.le_min, and_iff_left boundary.le_byteSize]

/-- Every byte belongs to a character. -/
theorem exists_char (inside : offset < byteSize text)
    : ∃ before char after inner,
        text = before ++ char :: after
        ∧ inner < char.utf8Size
        ∧ offset = byteSize before + inner := by
  induction text generalizing offset with
  | nil => exact absurd inside (Nat.not_lt_zero offset)
  | cons first rest ih =>
      rcases Nat.lt_or_ge offset first.utf8Size with within | behind
      · exact ⟨[], first, rest, offset, rfl, within, (Nat.zero_add offset).symm⟩
      · rw [byteSize_cons] at inside
        have shorter : offset - first.utf8Size < byteSize rest := by omega
        obtain ⟨before, char, after, inner, rfl, within, place⟩ := ih shorter
        refine ⟨first :: before, char, after, inner, rfl, within, ?_⟩
        rw [byteSize_cons]
        omega

/-- Within a character its start is the last boundary. -/
theorem isGreatest_byteSize {before after : Text} {char : Char} {inner : Nat}
    (within : inner < char.utf8Size)
    : IsGreatest (boundariesUpTo (before ++ char :: after) (byteSize before + inner))
        (byteSize before) := by
  refine ⟨⟨⟨before, char :: after, rfl, rfl⟩, Nat.le_add_right _ _⟩, ?_⟩
  rintro place ⟨⟨front, rest, split, rfl⟩, upTo⟩
  refine Nat.le_of_not_lt fun beyond => ?_
  obtain ⟨more, rfl, tail⟩ := split_of_byteSize_le split (Nat.le_of_lt beyond)
  cases more with
  | nil => simp at beyond
  | cons next more =>
      obtain ⟨rfl, -⟩ := List.cons.inj tail
      rw [byteSize_append, byteSize_cons] at upTo
      omega

end PageAudit.Text
