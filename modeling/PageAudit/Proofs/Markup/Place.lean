import PageAudit.Markup.Stream
import PageAudit.Proofs.Markup.Lexeme
import PageAudit.Proofs.Text.Occurrence

/-! Searching from a place of a text finds the first later place with what is searched for, and
nothing is passed over on the way.
-/

namespace PageAudit.Markup

open Text (Clear)

namespace Place

/-- (place.behind passed rest) is the place behind the characters `passed`, where `rest` stands. -/
def behind (place : Place) (passed rest : Text) : Place :=
  { offset := place.offset + Text.byteSize passed, rest }

@[simp] theorem behind_rest (place : Place) (passed rest : Text)
    : (place.behind passed rest).rest = rest := rfl

@[simp] theorem behind_nil (place : Place) : place.behind [] place.rest = place := rfl

theorem behind_behind (place : Place) (first second middle rest : Text)
    : (place.behind first middle).behind second rest = place.behind (first ++ second) rest := by
  simp [behind, Nat.add_assoc]

/-- Skipping as many characters as a text has leads behind that text. -/
theorem skip_append (place : Place) (passed rest : Text) (split : place.rest = passed ++ rest)
    : place.skip passed.length = place.behind passed rest := by
  induction passed generalizing place with
  | nil =>
      rw [List.nil_append] at split
      simp [skip, ← split]
  | cons char passed ih =>
      rw [List.cons_append] at split
      rw [List.length_cons, skip, split]
      exact (ih _ rfl).trans (by simp [behind, Nat.add_assoc])

/-- The end of a text lies behind all its characters. -/
theorem finish_eq_behind (place : Place) : place.finish = place.behind place.rest [] := rfl

/-- A search finds the first place where its property holds, by induction over the characters
that it passes.
-/
theorem nextFrom?_eq_some_iff {found : Text → Bool} {offset : Nat} {text : Text} {later : Place}
    : nextFrom? found offset text = some later
      ↔ ∃ skipped,
          text = skipped ++ later.rest
          ∧ later.offset = offset + Text.byteSize skipped
          ∧ later.rest ≠ []
          ∧ found later.rest
          ∧ Clear (found ·) skipped later.rest := by
  induction text generalizing offset with
  | nil =>
      constructor
      · intro impossible
        cases impossible
      · rintro ⟨skipped, split, -, nonempty, -⟩
        exact absurd (List.append_eq_nil_iff.mp split.symm).2 nonempty
  | cons char text ih =>
      rw [nextFrom?]
      split
      · next here =>
          constructor
          · intro found
            obtain rfl := Option.some.inj found
            exact ⟨[], rfl, rfl, List.cons_ne_nil _ _, here, Text.clear_nil _⟩
          · rintro ⟨skipped, split, place, -, -, clear⟩
            cases skipped with
            | nil =>
                rw [List.nil_append] at split
                rw [split, ← Nat.add_zero offset, ← Text.byteSize_nil, ← place]
            | cons other skipped =>
                rw [List.cons_append] at split
                exact absurd (split ▸ here) (Text.clear_cons.mp clear).1
      · next notHere =>
          rw [ih]
          constructor
          · rintro ⟨skipped, rfl, place, nonempty, holds, clear⟩
            refine ⟨char :: skipped, rfl, ?_, nonempty, holds, Text.clear_cons.mpr ⟨notHere, clear⟩⟩
            rw [place, Text.byteSize_cons, Nat.add_assoc]
          · rintro ⟨skipped, split, place, nonempty, holds, clear⟩
            cases skipped with
            | nil =>
                rw [List.nil_append] at split
                exact absurd (split ▸ holds) notHere
            | cons other skipped =>
                obtain ⟨rfl, rfl⟩ := List.cons.inj split
                refine ⟨skipped, rfl, ?_, nonempty, holds, (Text.clear_cons.mp clear).2⟩
                rw [place, Text.byteSize_cons, Nat.add_assoc]

/-- A search fails where its property holds at no place. -/
theorem nextFrom?_eq_none_iff {found : Text → Bool} {offset : Nat} {text : Text}
    : nextFrom? found offset text = none ↔ Clear (found ·) text [] := by
  induction text generalizing offset with
  | nil => simp [nextFrom?, Text.clear_nil]
  | cons char text ih =>
      rw [Text.clear_cons, List.append_nil, nextFrom?, ← @ih (offset + char.utf8Size)]
      by_cases here : found (char :: text) <;> simp [here]

theorem next?_eq_some_iff {found : Text → Bool} {place later : Place}
    : place.next? found = some later
      ↔ ∃ skipped,
          place.rest = skipped ++ later.rest
          ∧ later = place.behind skipped later.rest
          ∧ later.rest ≠ []
          ∧ found later.rest
          ∧ Clear (found ·) skipped later.rest := by
  obtain ⟨offset, rest⟩ := later
  simp only [next?, nextFrom?_eq_some_iff, behind, Place.mk.injEq, and_true]

theorem next?_eq_none_iff {found : Text → Bool} {place : Place}
    : place.next? found = none ↔ Clear (found ·) place.rest [] :=
  nextFrom?_eq_none_iff

end Place

/-- A tag can be taken from the front of a text, in some way. -/
def OpensTag (text : Text) : Prop :=
  ∃ lexeme : Lexeme, lexeme.Fits text

/-- The search for a lexeme passes no place where a tag opens, and it ends at a place where a lexeme
stands.
-/
theorem of_nextLexemeFrom?_eq_some {offset start : Nat} {text : Text} {lexeme : Lexeme}
    (found : nextLexemeFrom? offset text = some (start, lexeme))
    : ∃ skipped rest,
        text = skipped ++ rest
        ∧ start = offset + Text.byteSize skipped
        ∧ lexeme.AtFront rest
        ∧ Clear OpensTag skipped rest := by
  induction text generalizing offset with
  | nil => cases found
  | cons char text ih =>
      rw [nextLexemeFrom?] at found
      split at found
      · next here =>
          obtain ⟨rfl, rfl⟩ := Prod.mk.inj (Option.some.inj found)
          exact ⟨[], char :: text, rfl, rfl, Lexeme.ofFront?_eq_some_iff.mp here,
            Text.clear_nil _⟩
      · next notHere =>
          obtain ⟨skipped, rest, rfl, rfl, here, clear⟩ := ih found
          refine ⟨char :: skipped, rest, rfl, ?_, here, Text.clear_cons.mpr ⟨?_, clear⟩⟩
          · rw [Text.byteSize_cons, Nat.add_assoc]
          · rintro ⟨other, fits⟩
            exact Lexeme.ofFront?_eq_none_iff.mp notHere other fits

/-- Where the search for a lexeme fails, no tag opens. -/
theorem of_nextLexemeFrom?_eq_none {offset : Nat} {text : Text}
    (missing : nextLexemeFrom? offset text = none)
    : Clear OpensTag text [] := by
  induction text generalizing offset with
  | nil => exact Text.clear_nil _
  | cons char text ih =>
      rw [nextLexemeFrom?] at missing
      split at missing
      · cases missing
      · next notHere =>
          rw [Text.clear_cons, List.append_nil]
          refine ⟨?_, ih missing⟩
          rintro ⟨other, fits⟩
          exact Lexeme.ofFront?_eq_none_iff.mp notHere other fits

/-- No tag opens in a text without `>`. -/
theorem clear_of_not_contains {text : Text} (missing : '>' ∉ text)
    : Clear OpensTag text [] := by
  rintro later suffix - ⟨lexeme, fits⟩
  apply missing
  apply suffix.subset
  have whole := fits.text_eq
  rw [List.append_nil] at whole
  simp [whole, Lexeme.written]

/-- Looking for the end of tags first changes nothing about where the first lexeme is found. -/
theorem of_nextLexeme?_eq_none {place : Place} (missing : nextLexeme? place = none)
    : Clear OpensTag place.rest [] := by
  unfold nextLexeme? at missing
  split at missing
  · exact of_nextLexemeFrom?_eq_none missing
  · next noEnd => exact clear_of_not_contains (by simpa using noEnd)

/-- The search for a lexeme ends at the first place where a tag opens. -/
theorem of_nextLexeme?_eq_some {place : Place} {start : Nat} {lexeme : Lexeme}
    (found : nextLexeme? place = some (start, lexeme))
    : ∃ skipped rest,
        place.rest = skipped ++ rest
        ∧ start = place.offset + Text.byteSize skipped
        ∧ lexeme.AtFront rest
        ∧ Clear OpensTag skipped rest := by
  unfold nextLexeme? at found
  split at found
  · exact of_nextLexemeFrom?_eq_some found
  · cases found

end PageAudit.Markup
