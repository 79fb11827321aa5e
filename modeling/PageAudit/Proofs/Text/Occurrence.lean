import PageAudit.Text.Basic

/-! First occurrences: the part of a text in front of the first place with some property, where
a place is seen as the characters from there on.
-/

namespace PageAudit.Text

/-- (Clear found skipped rest) says that no place within `skipped` has the property `found` when
`rest` follows it.
-/
def Clear (found : Text → Prop) (skipped rest : Text) : Prop :=
  ∀ later, later <:+ skipped → later ≠ [] → ¬ found (later ++ rest)

/-- (Until ending skipped rest) says that `rest` begins at the first place where `ending` holds,
and that it is empty when there is no such place.
-/
inductive Until (ending : Text → Prop) : Text → Text → Prop where
  | found {skipped rest} (here : ending rest) (first : Clear ending skipped rest)
    : Until ending skipped rest
  | nowhere {skipped} (never : Clear ending skipped []) : Until ending skipped []

variable {found ending : Text → Prop}

theorem clear_nil (rest : Text) : Clear found [] rest := by
  intro later suffix nonempty
  exact absurd (List.suffix_nil.mp suffix) nonempty

/-- The places of a text are its first one and those behind its first character. -/
theorem clear_cons {char : Char} {skipped rest : Text}
    : Clear found (char :: skipped) rest
      ↔ ¬ found (char :: (skipped ++ rest)) ∧ Clear found skipped rest := by
  constructor
  · intro clear
    refine ⟨clear (char :: skipped) List.suffix_rfl (List.cons_ne_nil _ _), ?_⟩
    intro later suffix nonempty
    exact clear later (suffix.trans (List.suffix_cons char skipped)) nonempty
  · intro ⟨first, clear⟩ later suffix nonempty
    rcases List.suffix_cons_iff.mp suffix with whole | deeper
    · exact whole ▸ first
    · exact clear later deeper nonempty

theorem clear_append {left right rest : Text}
    : Clear found (left ++ right) rest
      ↔ Clear found left (right ++ rest) ∧ Clear found right rest := by
  induction left with
  | nil => simp [clear_nil]
  | cons char left ih => simp only [List.cons_append, clear_cons, ih, List.append_assoc, and_assoc]

theorem Clear.mono {weaker : Text → Prop} {skipped rest : Text} (clear : Clear weaker skipped rest)
    (implies : ∀ text, found text → weaker text)
    : Clear found skipped rest :=
  fun later suffix nonempty holds => clear later suffix nonempty (implies _ holds)

/-- What begins with a character begins nowhere in a text without it. -/
theorem clear_of_not_mem {first : Char} {content rest : Text} (absent : first ∉ content)
    (opens : ∀ text, found text → text.head? = some first)
    : Clear found content rest := by
  intro later suffix nonempty holds
  cases later with
  | nil => exact nonempty rfl
  | cons char later =>
      obtain rfl : char = first := Option.some.inj (opens _ holds)
      exact absent (suffix.subset List.mem_cons_self)

/-- Of two first places neither lies within the part in front of the other one. -/
theorem Clear.eq_of_append_eq {left right first second : Text}
    (same : left ++ first = right ++ second)
    (clearLeft : Clear found left first) (holdsFirst : found first)
    (clearRight : Clear found right second) (holdsSecond : found second)
    : left = right := by
  induction left generalizing right with
  | nil =>
      cases right with
      | nil => rfl
      | cons char right =>
          rw [List.nil_append, List.cons_append] at same
          exact absurd (same ▸ holdsFirst) (clear_cons.mp clearRight).1
  | cons char left ih =>
      cases right with
      | nil =>
          rw [List.nil_append, List.cons_append] at same
          exact absurd (same.symm ▸ holdsSecond) (clear_cons.mp clearLeft).1
      | cons other right =>
          obtain ⟨rfl, tail⟩ := List.cons.inj same
          rw [ih tail (clear_cons.mp clearLeft).2 (clear_cons.mp clearRight).2]

/-- Where a property holds nowhere, there is no first place in a later part. -/
theorem Clear.not_found {skipped rest : Text} (never : Clear found (skipped ++ rest) [])
    (nonempty : rest ≠ [])
    : ¬ found rest := by
  have holdsNot := (clear_append.mp never).2 rest List.suffix_rfl nonempty
  simpa using holdsNot

/-- Every text has a first place of a property, or none. -/
theorem exists_until (ending : Text → Prop) (text : Text)
    : ∃ skipped rest, text = skipped ++ rest ∧ Until ending skipped rest := by
  induction text with
  | nil => exact ⟨[], [], rfl, .nowhere (clear_nil [])⟩
  | cons char text ih =>
      by_cases here : ending (char :: text)
      · exact ⟨[], char :: text, rfl, .found here (clear_nil _)⟩
      · obtain ⟨skipped, rest, rfl, first⟩ := ih
        refine ⟨char :: skipped, rest, rfl, ?_⟩
        cases first with
        | found holds clear => exact .found holds (clear_cons.mpr ⟨here, clear⟩)
        | nowhere never => exact .nowhere (clear_cons.mpr ⟨here, never⟩)

/-- The first place of a property in a text is unique. -/
theorem Until.eq_of_append_eq {left right first second : Text}
    (same : left ++ first = right ++ second) (empty : ¬ ending [])
    (untilFirst : Until ending left first) (untilSecond : Until ending right second)
    : left = right ∧ first = second := by
  have parts : left = right := by
    cases untilFirst with
    | found holds clear =>
        cases untilSecond with
        | found holdsToo clearToo => exact clear.eq_of_append_eq same holds clearToo holdsToo
        | nowhere never =>
            have nonempty : first ≠ [] := fun none => empty (none ▸ holds)
            rw [List.append_nil] at same
            exact absurd holds (Clear.not_found (same ▸ never) nonempty)
    | nowhere never =>
        cases untilSecond with
        | found holds clear =>
            have nonempty : second ≠ [] := fun none => empty (none ▸ holds)
            rw [List.append_nil] at same
            exact absurd holds (Clear.not_found (same ▸ never) nonempty)
        | nowhere => simpa using same
  subst parts
  exact ⟨rfl, List.append_cancel_left same⟩

end PageAudit.Text
