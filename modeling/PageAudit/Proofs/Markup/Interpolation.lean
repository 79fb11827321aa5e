import PageAudit.Proofs.Markup.Literal
import PageAudit.Proofs.Text.Trim

/-! Which texts are known for computed ones. An expression in braces is recognised only at the front
of a text, and `$` or another brace in front of a brace anywhere, so one brace behind other
characters marks nothing.
-/

namespace PageAudit.Expression

open Text (firstSolid? pair_infix_append_iff)

/-- A text holds a mark of templates that puts values into text: two braces, or a dollar sign and a
brace.
-/
def Interpolates (text : Text) : Prop :=
  ['{', '{'] <:+: text ∨ ['$', '{'] <:+: text

instance (text : Text) : Decidable (Interpolates text) :=
  inferInstanceAs (Decidable (['{', '{'] <:+: text ∨ ['$', '{'] <:+: text))

/-- A text is known for computed when it begins with a brace, behind blanks, or interpolates. -/
theorem isDynamic_iff {text : Text}
    : isDynamic text ↔ firstSolid? text = some '{' ∨ Interpolates text := by
  have opens : Text.startsWith (Text.trim text) "\x7b" ↔ firstSolid? text = some '{' := by
    rw [← Text.head?_trim]
    cases Text.trim text with
    | nil => simp [Text.startsWith]
    | cons char rest => simp [Text.startsWith, Eq.comm (a := '{')]
  have pair {first : Char} (solid : Text.isBlank first = false)
      : Text.contains [first, '{'] (Text.trim text) ↔ [first, '{'] <:+: text := by
    rw [contains_iff, Text.pair_infix_trim_iff solid (by decide)]
  have braces : Text.contains "\x7b\x7b" (Text.trim text) ↔ ['{', '{'] <:+: text :=
    pair (by decide)
  have dollar : Text.contains "$\x7b" (Text.trim text) ↔ ['$', '{'] <:+: text :=
    pair (by decide)
  rw [isDynamic, Bool.or_eq_true, Bool.or_eq_true, opens, braces, dollar, or_assoc, Interpolates]

/-- Whether a text is known for computed does not depend on the blanks around it. -/
theorem isDynamic_trim_iff {text : Text} : isDynamic (Text.trim text) ↔ isDynamic text := by
  rw [isDynamic_iff, isDynamic_iff, Text.firstSolid?_trim, Interpolates, Interpolates,
    Text.pair_infix_trim_iff (by decide) (by decide),
    Text.pair_infix_trim_iff (by decide) (by decide)]

-----------------------------------------------------------------------------------------
-- An expression among other text
-----------------------------------------------------------------------------------------

/-- A text with an expression in braces between two parts. -/
def around (front inner behind : Text) : Text :=
  front ++ '{' :: (inner ++ '}' :: behind)

/-- (Overlooked front behind) says that nothing gives away an expression in braces between two
parts: the front part begins with a character other than a brace, it does not end with one that
makes a mark of the brace behind it, and neither part interpolates on its own.
-/
structure Overlooked (front behind : Text) : Prop where
  first : ∃ char, firstSolid? front = some char ∧ char ≠ '{'
  last : front.getLast? ≠ some '{' ∧ front.getLast? ≠ some '$'
  plain : ¬ Interpolates front ∧ ¬ Interpolates behind

section

variable {front inner behind : Text}

/-- A mark in such a text ends with the brace of the expression or stands in one of the two parts,
unless there is a brace within the expression.
-/
theorem pair_infix_around_iff {first : Char} (single : '{' ∉ inner) (other : first ≠ '}')
    : [first, '{'] <:+: around front inner behind
      ↔ [first, '{'] <:+: front
        ∨ front.getLast? = some first
        ∨ [first, '{'] <:+: behind := by
  have within : ¬ [first, '{'] <:+: '{' :: inner := by
    rw [List.infix_cons_iff, not_or]
    constructor
    · intro start
      exact single ((List.cons_prefix_cons.mp start).2.subset List.mem_cons_self)
    · intro deeper
      exact single (deeper.subset (.tail _ (.head _)))
  have closed : [first, '{'] <:+: '}' :: behind ↔ [first, '{'] <:+: behind := by
    rw [List.infix_cons_iff]
    simp [other, List.cons_prefix_cons]
  have rest : [first, '{'] <:+: '{' :: inner ++ '}' :: behind ↔ [first, '{'] <:+: behind := by
    rw [pair_infix_append_iff, closed]
    simp [within]
  rw [around, pair_infix_append_iff, ← List.cons_append, rest]
  simp

theorem interpolates_around_iff (single : '{' ∉ inner)
    : Interpolates (around front inner behind)
      ↔ Interpolates front
        ∨ (front.getLast? = some '{' ∨ front.getLast? = some '$')
        ∨ Interpolates behind := by
  rw [Interpolates, pair_infix_around_iff single (by decide),
    pair_infix_around_iff single (by decide), Interpolates, Interpolates]
  tauto

/-- The first character of such a text is that of the front part, or the brace behind blanks. -/
theorem firstSolid?_around (front inner behind : Text)
    : firstSolid? (around front inner behind) = (firstSolid? front).or (some '{') := by
  rw [around, Text.firstSolid?_append, Text.firstSolid?_cons (by decide)]

/-- An expression among other text is taken for static text exactly when it is overlooked. -/
theorem not_isDynamic_around_iff (single : '{' ∉ inner)
    : ¬ isDynamic (around front inner behind) ↔ Overlooked front behind := by
  rw [isDynamic_iff, firstSolid?_around, interpolates_around_iff single]
  constructor
  · intro static
    obtain ⟨front_ne, marks⟩ := not_or.mp static
    obtain ⟨plainFront, others⟩ := not_or.mp marks
    obtain ⟨last, plainBehind⟩ := not_or.mp others
    refine ⟨?_, not_or.mp last, plainFront, plainBehind⟩
    cases first : firstSolid? front with
    | none => exact absurd (by rw [first, Option.none_or]) front_ne
    | some char => exact ⟨char, rfl, fun brace => front_ne (by rw [first, brace, Option.some_or])⟩
  · rintro ⟨⟨char, first, other⟩, ⟨notBrace, notDollar⟩, plainFront, plainBehind⟩
    rw [first, Option.some_or]
    rintro (brace | frontMark | (lastBrace | lastDollar) | behindMark)
    · exact other (Option.some.inj brace)
    · exact plainFront frontMark
    · exact notBrace lastBrace
    · exact notDollar lastDollar
    · exact plainBehind behindMark

end

end PageAudit.Expression
