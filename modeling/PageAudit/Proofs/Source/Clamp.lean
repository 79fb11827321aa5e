import PageAudit.Proofs.Source.Ruler
import PageAudit.Proofs.Text.Snap

/-! Clamping moves both ends of a span back to the last boundaries that are not beyond them. It
changes nothing but spans with an end outside the text or within a character, and what lies within
a span stays within it.
-/

namespace PageAudit

/-- A span lies within another one: it neither starts before it nor stops behind it. -/
structure Span.Within (inner outer : Span) : Prop where
  start : outer.start ≤ inner.start
  stop : inner.stop ≤ outer.stop

namespace Ruler

variable {text : Text}

-----------------------------------------------------------------------------------------
-- One end
-----------------------------------------------------------------------------------------

/-- A ruler shows the last boundary that is not beyond an offset: the start of the character that
the offset lies in, or the end of the text.
-/
theorem isGreatest_boundary (text : Text) (offset : Nat)
    : IsGreatest (Text.boundariesUpTo text offset) ((ofText text).boundary offset) := by
  rcases Nat.lt_or_ge offset (Text.byteSize text) with inside | beyond
  · obtain ⟨before, char, after, inner, rfl, within, rfl⟩ := Text.exists_char inside
    have start : (ofText (before ++ char :: after)).boundary (Text.byteSize before + inner)
        = Text.byteSize before := by
      cases inner with
      | zero => rw [Nat.add_zero, boundary, mark_ofText]
      | succ inner => rw [boundary, mark_ofText_inner before after within]
    rw [start]
    exact Text.isGreatest_byteSize within
  · rw [boundary, mark_ofText_beyond beyond, ← Text.boundariesUpTo_min, Nat.min_eq_right beyond]
    exact Text.isGreatest_self (Text.isBoundary_byteSize text)

theorem isBoundary_boundary (text : Text) (offset : Nat)
    : Text.IsBoundary text ((ofText text).boundary offset) :=
  (isGreatest_boundary text offset).1.1

/-- Of two offsets the later one is not moved in front of the other. -/
theorem boundary_mono {first second : Nat} (ordered : first ≤ second)
    : (ofText text).boundary first ≤ (ofText text).boundary second :=
  (isGreatest_boundary text first).mono (isGreatest_boundary text second)
    fun _ ⟨boundary, upTo⟩ => ⟨boundary, upTo.trans ordered⟩

/-- The way back from an offset within the text leads to the boundary that the ruler shows. -/
theorem stepBack?_eq (text : Text) (offset : Nat)
    : Text.stepBack? text (min offset (Text.byteSize text))
      = some ((ofText text).boundary offset) := by
  obtain ⟨place, found, greatest⟩ :=
    Text.exists_stepBack? text (min offset (Text.byteSize text))
  rw [Text.boundariesUpTo_min] at greatest
  rw [found, greatest.unique (isGreatest_boundary text offset)]

-----------------------------------------------------------------------------------------
-- Both ends
-----------------------------------------------------------------------------------------

/-- The ends of a span between two offsets keep their order, so none is raised to the other. -/
theorem clamp_between_eq (text : Text) (start stop : Nat)
    : (ofText text).clamp (.between start stop)
      = { start := (ofText text).boundary start,
          stop := (ofText text).boundary (max start stop) } := by
  have ordered : (ofText text).boundary start ≤ (ofText text).boundary (max start stop) :=
    boundary_mono (Nat.le_max_left start stop)
  rw [clamp, Span.between, Span.between, Nat.max_eq_right ordered]

theorem clamp_liesIn (text : Text) (span : Span) : ((ofText text).clamp span).LiesIn text :=
  .between (isBoundary_boundary text span.start) (isBoundary_boundary text span.stop)

theorem clamp_eq_iff {span : Span} : (ofText text).clamp span = span ↔ span.LiesIn text :=
  ⟨fun same => same ▸ clamp_liesIn text span, clamp_eq⟩

/-- A span that lies within another one is clamped to a span within the other one's. -/
theorem clamp_within {first last start stop : Nat}
    (within : (Span.between first last).Within (.between start stop))
    : ((ofText text).clamp (.between first last)).Within
        ((ofText text).clamp (.between start stop)) := by
  rw [clamp_between_eq, clamp_between_eq]
  exact ⟨boundary_mono within.start, boundary_mono within.stop⟩

/-- A span between any two offsets is clamped to the last boundaries up to its ends, which are found
by going back byte by byte, and never from the start of the text. Clamping it again changes
nothing, nothing is changed exactly when the span lies in the text, and spans within it stay there.
-/
theorem clamp_between (text : Text) (start stop : Nat)
    : let ruler := ofText text
      let size := Text.byteSize text
      let clamped := ruler.clamp (.between start stop)
      IsGreatest (Text.boundariesUpTo text (min start size)) clamped.start
      ∧ IsGreatest (Text.boundariesUpTo text (min (max start stop) size)) clamped.stop
      ∧ Text.stepBack? text (min start size) = some clamped.start
      ∧ Text.stepBack? text (min (max start stop) size) = some clamped.stop
      ∧ clamped.start ≤ clamped.stop
      ∧ ruler.clamp clamped = clamped
      ∧ (clamped = .between start stop ↔ (Span.between start stop).LiesIn text)
      ∧ ∀ first last,
          (Span.between first last).Within (.between start stop)
          → (ruler.clamp (.between first last)).Within clamped := by
  intro ruler size clamped
  have ends : clamped
      = { start := ruler.boundary start, stop := ruler.boundary (max start stop) } :=
    clamp_between_eq text start stop
  have lies : clamped.LiesIn text := clamp_liesIn text _
  rw [Text.boundariesUpTo_min, Text.boundariesUpTo_min, stepBack?_eq, stepBack?_eq]
  refine ⟨?_, ?_, ?_, ?_, lies.ordered, clamp_eq lies, clamp_eq_iff, fun _ _ => clamp_within⟩
  · rw [ends]
    exact isGreatest_boundary text start
  · rw [ends]
    exact isGreatest_boundary text (max start stop)
  · rw [ends]
  · rw [ends]

theorem clamp_between_accented
    : let ruler := ofText "héllo"
      let clamped := ruler.clamp (.between 2 100)
      clamped = { start := 1, stop := 6 }
      ∧ (Span.between 4 3).Within (.between 2 100)
      ∧ (ruler.clamp (.between 4 3)).Within clamped := by
  intro ruler clamped
  have within : (Span.between 4 3).Within (.between 2 100) := ⟨by decide, by decide⟩
  obtain ⟨-, -, -, -, -, -, -, stays⟩ := clamp_between "héllo" 2 100
  exact ⟨by decide, within, stays 4 3 within⟩

end Ruler

end PageAudit
