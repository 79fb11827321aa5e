import PageAudit.Proofs.Text.Numeral

/-! Lines: texts without line breaks, and texts that are put together from lines. -/

namespace PageAudit.Text

/-- A text without line breaks. -/
def OneLine (text : Text) : Prop :=
  '\n' ∉ text

instance (text : Text) : Decidable (OneLine text) :=
  inferInstanceAs (Decidable (¬ _))

/-- The characters of lines, each with a line break behind it. -/
def ofLines (lines : List Text) : Text :=
  lines.flatMap (· ++ ['\n'])

-----------------------------------------------------------------------------------------
-- Texts without line breaks
-----------------------------------------------------------------------------------------

@[simp] theorem oneLine_nil : OneLine [] :=
  List.not_mem_nil

@[simp] theorem oneLine_cons {char : Char} {text : Text}
    : OneLine (char :: text) ↔ char ≠ '\n' ∧ OneLine text := by
  simp [OneLine, eq_comm]

@[simp] theorem oneLine_append {left right : Text}
    : OneLine (left ++ right) ↔ OneLine left ∧ OneLine right := by
  simp [OneLine]

@[simp] theorem oneLine_reverse {text : Text} : OneLine text.reverse ↔ OneLine text := by
  simp [OneLine]

/-- The characters of a literal are compared one by one, without its encoding in bytes. -/
theorem oneLine_literal {chars : List Char} (none : '\n' ∉ chars)
    : OneLine (String.ofList chars).toList := by
  rw [String.toList_ofList]
  exact none

theorem OneLine.of_subset {text part : Text} (line : OneLine text) (subset : part ⊆ text)
    : OneLine part :=
  fun member => line (subset member)

/-- Joined texts have no line breaks when neither they nor the text between them has one. -/
theorem oneLine_join {separator : Text} {parts : List Text} (between : OneLine separator)
    (each : ∀ part ∈ parts, OneLine part)
    : OneLine (join separator parts) := by
  induction parts with
  | nil => exact oneLine_nil
  | cons first parts ih =>
      have here := each first List.mem_cons_self
      have others := ih fun part member => each part (.tail _ member)
      cases parts with
      | nil => simpa [join] using here
      | cons second parts =>
          have split : join separator (first :: second :: parts)
              = first ++ (separator ++ join separator (second :: parts)) := by
            simp [join]
          rw [split, oneLine_append, oneLine_append]
          exact ⟨here, between, others⟩

@[simp] theorem oneLine_ofNat (number : Nat) : OneLine (ofNat number) :=
  fun member => absurd (isDigit_of_mem_ofNat member) (by decide)

theorem count_eq_zero_iff {text : Text} : text.count '\n' = 0 ↔ OneLine text :=
  List.count_eq_zero

-----------------------------------------------------------------------------------------
-- Texts in lines
-----------------------------------------------------------------------------------------

/-- Lines are as many as their line breaks. -/
theorem count_ofLines {lines : List Text} (each : ∀ line ∈ lines, OneLine line)
    : (ofLines lines).count '\n' = lines.length := by
  induction lines with
  | nil => rfl
  | cons line lines ih =>
      have first := count_eq_zero_iff.mpr (each line List.mem_cons_self)
      have others := ih fun other member => each other (.tail _ member)
      simp only [ofLines, List.flatMap_cons, List.count_append] at others ⊢
      simp [first, others, Nat.add_comm]

end PageAudit.Text
