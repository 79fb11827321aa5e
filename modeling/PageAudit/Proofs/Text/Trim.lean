import PageAudit.Proofs.Text.Run

/-! Trimmed texts: what trimming leaves of a text begins with its first character that is no blank,
and pairs of characters that are no blanks stand in both.
-/

namespace PageAudit.Text

/-- The first character of a text that is no blank. -/
def firstSolid? (text : Text) : Option Char :=
  text.find? (!isBlank ·)

theorem firstSolid?_append (front behind : Text)
    : firstSolid? (front ++ behind) = (firstSolid? front).or (firstSolid? behind) :=
  List.find?_append

theorem firstSolid?_cons {char : Char} (solid : isBlank char = false) (rest : Text)
    : firstSolid? (char :: rest) = some char :=
  List.find?_cons_of_pos (by simp [solid])

theorem firstSolid?_eq_none_iff {text : Text}
    : firstSolid? text = none ↔ ∀ char ∈ text, isBlank char := by
  simp [firstSolid?]

theorem exists_blanks_trimEnd (text : Text)
    : ∃ blanks, text = trimEnd text ++ blanks ∧ ∀ char ∈ blanks, isBlank char := by
  obtain ⟨blanks, split, blank⟩ := exists_blanks_trimStart text.reverse
  refine ⟨blanks.reverse, ?_, by simpa using blank⟩
  calc text = (blanks ++ trimStart text.reverse).reverse := by rw [← split, List.reverse_reverse]
    _ = trimEnd text ++ blanks.reverse := List.reverse_append

/-- Only blanks stand around what trimming leaves. -/
theorem exists_trim (text : Text)
    : ∃ before after,
        text = before ++ (trim text ++ after)
        ∧ (∀ char ∈ before, isBlank char)
        ∧ ∀ char ∈ after, isBlank char := by
  obtain ⟨before, front, blankBefore⟩ := exists_blanks_trimStart text
  obtain ⟨after, back, blankAfter⟩ := exists_blanks_trimEnd (trimStart text)
  refine ⟨before, after, ?_, blankBefore, blankAfter⟩
  rw [trim, ← back]
  exact front

theorem firstSolid?_trim (text : Text) : firstSolid? (trim text) = firstSolid? text := by
  obtain ⟨before, after, split, blankBefore, blankAfter⟩ := exists_trim text
  have none := firstSolid?_eq_none_iff.mpr blankBefore
  have noneBehind := firstSolid?_eq_none_iff.mpr blankAfter
  calc firstSolid? (trim text)
      = firstSolid? (before ++ (trim text ++ after)) := by
        rw [firstSolid?_append, firstSolid?_append, none, noneBehind, Option.none_or,
          Option.or_none]
    _ = firstSolid? text := congrArg firstSolid? split.symm

/-- A trimmed text begins with the first character that is no blank. -/
theorem head?_trim (text : Text) : (trim text).head? = firstSolid? text := by
  rw [← firstSolid?_trim]
  cases trimmed : trim text with
  | nil => rfl
  | cons char rest =>
      obtain ⟨after, back, -⟩ := exists_blanks_trimEnd (trimStart text)
      rw [← trim, trimmed] at back
      have solid := List.head?_dropWhile_not isBlank text
      rw [← trimStart, back] at solid
      exact (firstSolid?_cons solid rest).symm

theorem trim_eq_nil_iff {text : Text} : trim text = [] ↔ ∀ char ∈ text, isBlank char := by
  rw [← List.head?_eq_none_iff, head?_trim, firstSolid?_eq_none_iff]

theorem trimEnd_eq_self {text : Text} (solid : ∀ char ∈ text.getLast?, isBlank char = false)
    : trimEnd text = text := by
  have backwards : trimStart text.reverse = text.reverse :=
    trimStart_eq_self (by simpa using solid)
  rw [trimEnd, ← trimStart, backwards, List.reverse_reverse]

theorem trimStart_append {blanks : Text} (blank : ∀ char ∈ blanks, isBlank char) (text : Text)
    : trimStart (blanks ++ text) = trimStart text :=
  List.dropWhile_append_of_pos blank

theorem trimEnd_append {blanks : Text} (blank : ∀ char ∈ blanks, isBlank char) (text : Text)
    : trimEnd (text ++ blanks) = trimEnd text := by
  have backwards : ∀ char ∈ blanks.reverse, isBlank char := by simpa using blank
  rw [trimEnd, List.reverse_append, ← trimStart, trimStart_append backwards, trimStart, ← trimEnd]

/-- Blanks are dropped around a text that neither begins nor ends with one. -/
theorem trim_around {before text after : Text} (blankBefore : ∀ char ∈ before, isBlank char)
    (blankAfter : ∀ char ∈ after, isBlank char) (first : ∀ char ∈ text.head?, isBlank char = false)
    (last : ∀ char ∈ text.getLast?, isBlank char = false)
    : trim (before ++ (text ++ after)) = text := by
  rw [trim, trimStart_append blankBefore]
  cases text with
  | nil =>
      rw [List.nil_append, ← List.append_nil after, trimStart_append blankAfter]
      rfl
  | cons head rest =>
      have front : ∀ char ∈ (head :: rest ++ after).head?, isBlank char = false := first
      rw [trimStart_eq_self front, trimEnd_append blankAfter, trimEnd_eq_self last]

theorem trim_eq_self {text : Text} (first : ∀ char ∈ text.head?, isBlank char = false)
    (last : ∀ char ∈ text.getLast?, isBlank char = false)
    : trim text = text := by
  rw [trim, trimStart_eq_self first, trimEnd_eq_self last]

/-- Nothing is trimmed from a text without blanks. -/
theorem trim_of_solid {text : Text} (solid : ∀ char ∈ text, isBlank char = false)
    : trim text = text :=
  trim_eq_self (fun char first => solid char (List.mem_of_head? first))
    (fun char last => solid char (List.mem_of_getLast? last))

-----------------------------------------------------------------------------------------
-- Pairs of characters
-----------------------------------------------------------------------------------------

section

variable {first second : Char}

/-- A pair of characters stands in one of two parts of a text, or at the place where they meet. -/
theorem pair_infix_append_iff {left right : Text}
    : [first, second] <:+: left ++ right
      ↔ [first, second] <:+: left
        ∨ left.getLast? = some first ∧ right.head? = some second
        ∨ [first, second] <:+: right := by
  induction left with
  | nil => simp
  | cons char left ih =>
      rw [List.cons_append, List.infix_cons_iff, List.infix_cons_iff, ih]
      cases left with
      | nil =>
          cases right with
          | nil => simp
          | cons other right =>
              simp [List.cons_prefix_cons, Eq.comm (a := first), Eq.comm (a := second)]
      | cons next left => simp [List.cons_prefix_cons, or_assoc]

/-- A pair that begins and ends with no blank stands in no text of blanks. -/
theorem not_pair_infix_of_blank {text : Text} (solid : isBlank first = false)
    (blank : ∀ char ∈ text, isBlank char)
    : ¬ [first, second] <:+: text := by
  intro within
  have member : first ∈ text := within.subset List.mem_cons_self
  rw [blank first member] at solid
  cases solid

/-- Trimming takes no pair of characters that are no blanks. -/
theorem pair_infix_trim_iff {text : Text} (firstSolid : isBlank first = false)
    (secondSolid : isBlank second = false)
    : [first, second] <:+: trim text ↔ [first, second] <:+: text := by
  obtain ⟨before, after, split, blankBefore, blankAfter⟩ := exists_trim text
  have noneBefore : ¬ [first, second] <:+: before :=
    not_pair_infix_of_blank firstSolid blankBefore
  have noneAfter : ¬ [first, second] <:+: after := not_pair_infix_of_blank firstSolid blankAfter
  have notLast : before.getLast? ≠ some first := by
    intro last
    rw [blankBefore first (List.mem_of_getLast? last)] at firstSolid
    cases firstSolid
  have notFirst : after.head? ≠ some second := by
    intro front
    rw [blankAfter second (List.mem_of_head? front)] at secondSolid
    cases secondSolid
  have whole : [first, second] <:+: before ++ (trim text ++ after)
      ↔ [first, second] <:+: trim text := by
    rw [pair_infix_append_iff, pair_infix_append_iff]
    simp [noneBefore, noneAfter, notLast, notFirst]
  rw [← whole, ← split]

end

end PageAudit.Text
