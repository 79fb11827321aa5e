import PageAudit.Bundle.Import
import PageAudit.Proofs.Text.Run

/-! How a text refers to packages: a keyword introduces a specifier, which stands in quotes. The
search for imports matches exactly these references.
-/

namespace PageAudit.Import

variable {keyword text introduction rest specifier : Text}

theorem isBlank_of_isQuote {char : Char} (quote : isQuote char) : Text.isBlank char = false := by
  simp only [isQuote, Bool.or_eq_true, beq_iff_eq] at quote
  rcases quote with (rfl | rfl) | rfl <;> decide

theorem utf8Size_of_isQuote {char : Char} (quote : isQuote char) : char.utf8Size = 1 := by
  simp only [isQuote, Bool.or_eq_true, beq_iff_eq] at quote
  rcases quote with (rfl | rfl) | rfl <;> decide

theorem ne_bracket_of_isQuote {char : Char} (quote : isQuote char) : char ≠ '(' := by
  rintro rfl
  exact absurd quote (by decide)

/-- The texts that introduce a specifier: a keyword with blanks behind it, or one with an opening
bracket that may have blanks around it.
-/
inductive Introduces : Text → Prop where
  | spaced {keyword blanks : Text} (word : keyword = "from" ∨ keyword = "import")
    (apart : blanks ≠ []) (blank : ∀ char ∈ blanks, Text.isBlank char)
    : Introduces (keyword ++ blanks)
  | called {keyword outer inner : Text} (word : keyword = "import" ∨ keyword = "require")
    (outside : ∀ char ∈ outer, Text.isBlank char) (inside : ∀ char ∈ inner, Text.isBlank char)
    : Introduces (keyword ++ outer ++ '(' :: inner)

/-- A specifier in quotes, which need not be equal, behind its introduction. -/
structure Reference where
  introduction : Text
  opening : Char
  specifier : Text
  closing : Char
  introduces : Introduces introduction
  opens : isQuote opening
  closes : isQuote closing
  nonempty : specifier ≠ []
  solid : ∀ char ∈ specifier, isQuote char = false ∧ Text.isBlank char = false

namespace Reference

/-- The specifier between its quotes. -/
def quoted (reference : Reference) : Text :=
  reference.opening :: (reference.specifier ++ [reference.closing])

/-- The reference as it stands in a text. -/
def written (reference : Reference) : Text :=
  reference.introduction ++ reference.quoted

/-- What the search tells about a reference. -/
def introduced (reference : Reference) : Introduced :=
  { lead := Text.byteSize reference.introduction + 1, specifier := reference.specifier }

@[simp] theorem length_written (reference : Reference)
    : reference.written.length
      = reference.introduction.length + reference.specifier.length + 2 := by
  simp [written, quoted, Nat.add_assoc]

/-- A reference has no blanks from its first quote on. -/
theorem solid_quoted (reference : Reference)
    : ∀ char ∈ reference.quoted, Text.isBlank char = false := by
  rw [quoted, List.forall_mem_cons, List.forall_mem_append, List.forall_mem_singleton]
  exact ⟨isBlank_of_isQuote reference.opens, fun char among => (reference.solid char among).2,
    isBlank_of_isQuote reference.closes⟩

end Reference

-----------------------------------------------------------------------------------------
-- Introductions
-----------------------------------------------------------------------------------------

/-- A keyword with blanks is found in front of what is no blank. -/
theorem spaced?_eq_some_iff
    : spaced? keyword text = some (introduction, rest)
      ↔ ∃ blanks,
          introduction = keyword ++ blanks
          ∧ text = introduction ++ rest
          ∧ blanks ≠ []
          ∧ (∀ char ∈ blanks, Text.isBlank char)
          ∧ ∀ char ∈ rest.head?, Text.isBlank char = false := by
  constructor
  · intro found
    obtain ⟨behind, after, goesOn⟩ := Option.bind_eq_some_iff.mp found
    obtain rfl := Text.after?_eq_some_iff.mp after
    cases run : behind.span Text.isBlank with
    | mk blanks others =>
        obtain ⟨rfl, blank, solid⟩ := Text.span_eq_iff.mp run
        simp only [run, Option.ite_none_left_eq_some, List.isEmpty_iff] at goesOn
        obtain ⟨apart, same⟩ := goesOn
        obtain ⟨rfl, rfl⟩ := Prod.mk.inj (Option.some.inj same)
        exact ⟨blanks, rfl, by rw [List.append_assoc], apart, blank, solid⟩
  · rintro ⟨blanks, rfl, rfl, apart, blank, solid⟩
    have after : Text.after? keyword (keyword ++ blanks ++ rest) = some (blanks ++ rest) :=
      Text.after?_eq_some_iff.mpr (List.append_assoc _ _ _)
    have run : (blanks ++ rest).span Text.isBlank = (blanks, rest) :=
      Text.span_eq_iff.mpr ⟨rfl, blank, solid⟩
    rw [spaced?, after, Option.bind_some, run]
    simp [apart]

/-- A keyword with an opening bracket is found in front of what is no blank. -/
theorem called?_eq_some_iff
    : called? keyword text = some (introduction, rest)
      ↔ ∃ outer inner,
          introduction = keyword ++ outer ++ '(' :: inner
          ∧ text = introduction ++ rest
          ∧ (∀ char ∈ outer, Text.isBlank char)
          ∧ (∀ char ∈ inner, Text.isBlank char)
          ∧ ∀ char ∈ rest.head?, Text.isBlank char = false := by
  have bracket : Text.isBlank '(' = false := by decide
  constructor
  · intro found
    obtain ⟨behind, after, goesOn⟩ := Option.bind_eq_some_iff.mp found
    obtain rfl := Text.after?_eq_some_iff.mp after
    cases run : behind.span Text.isBlank with
    | mk outer others =>
        obtain ⟨rfl, outside, -⟩ := Text.span_eq_iff.mp run
        simp only [run] at goesOn
        split at goesOn
        · next within =>
            cases run : within.span Text.isBlank with
            | mk inner others =>
                obtain ⟨rfl, inside, solid⟩ := Text.span_eq_iff.mp run
                simp only [run] at goesOn
                obtain ⟨rfl, rfl⟩ := Prod.mk.inj (Option.some.inj goesOn)
                exact ⟨outer, inner, rfl, by simp, outside, inside, solid⟩
        · cases goesOn
  · rintro ⟨outer, inner, rfl, rfl, outside, inside, solid⟩
    have after : Text.after? keyword (keyword ++ outer ++ '(' :: inner ++ rest)
        = some (outer ++ '(' :: (inner ++ rest)) :=
      Text.after?_eq_some_iff.mpr (by simp)
    have outerRun : (outer ++ '(' :: (inner ++ rest)).span Text.isBlank
        = (outer, '(' :: (inner ++ rest)) :=
      Text.span_eq_iff.mpr ⟨rfl, outside, by simpa using bracket⟩
    have innerRun : (inner ++ rest).span Text.isBlank = (inner, rest) :=
      Text.span_eq_iff.mpr ⟨rfl, inside, solid⟩
    rw [called?, after, Option.bind_some, outerRun]
    simp only [innerRun]

/-- A keyword with blanks is not called: no bracket stands behind the blanks. -/
theorem called?_eq_none_of_spaced {blanks : Text} {char : Char}
    (blank : ∀ char ∈ blanks, Text.isBlank char) (solid : Text.isBlank char = false)
    (other : char ≠ '(')
    : called? keyword (keyword ++ blanks ++ char :: rest) = none := by
  have after : Text.after? keyword (keyword ++ blanks ++ char :: rest)
      = some (blanks ++ char :: rest) :=
    Text.after?_eq_some_iff.mpr (List.append_assoc _ _ _)
  have run : (blanks ++ char :: rest).span Text.isBlank = (blanks, char :: rest) :=
    Text.span_eq_iff.mpr ⟨rfl, blank, by simpa using solid⟩
  rw [called?, after, Option.bind_some, run]
  dsimp only
  split
  · next same => exact absurd (List.cons.inj same).1 other
  · rfl

/-- Whatever is found in front of a quote introduces it. -/
theorem introduction?_eq_some_iff {quote : Char} (quotes : isQuote quote)
    : introduction? text = some (introduction, quote :: rest)
      ↔ Introduces introduction ∧ text = introduction ++ quote :: rest := by
  have solid : ∀ char ∈ (quote :: rest).head?, Text.isBlank char = false := by
    simpa using isBlank_of_isQuote quotes
  simp only [introduction?, Option.orElse_eq_or, Option.or_eq_some_iff]
  constructor
  · rintro ((spaced | ⟨-, called⟩) | ⟨-, spaced | ⟨-, called⟩⟩)
    · obtain ⟨blanks, rfl, split, apart, blank, -⟩ := spaced?_eq_some_iff.mp spaced
      exact ⟨.spaced (.inl rfl) apart blank, split⟩
    · obtain ⟨outer, inner, rfl, split, outside, inside, -⟩ := called?_eq_some_iff.mp called
      exact ⟨.called (.inl rfl) outside inside, split⟩
    · obtain ⟨blanks, rfl, split, apart, blank, -⟩ := spaced?_eq_some_iff.mp spaced
      exact ⟨.spaced (.inr rfl) apart blank, split⟩
    · obtain ⟨outer, inner, rfl, split, outside, inside, -⟩ := called?_eq_some_iff.mp called
      exact ⟨.called (.inr rfl) outside inside, split⟩
  · rintro ⟨introduces, rfl⟩
    -- Keywords differ in their first letters, but for the two ways to write `import`.
    cases introduces with
    | spaced word apart blank =>
        rcases word with rfl | rfl
        · exact .inl (.inl (spaced?_eq_some_iff.mpr ⟨_, rfl, rfl, apart, blank, solid⟩))
        · refine .inr ⟨?_, .inl (spaced?_eq_some_iff.mpr ⟨_, rfl, rfl, apart, blank, solid⟩)⟩
          rw [called?_eq_none_of_spaced blank (isBlank_of_isQuote quotes)
            (ne_bracket_of_isQuote quotes)]
          rfl
    | called word outside inside =>
        rcases word with rfl | rfl
        · exact .inl (.inr ⟨rfl,
            called?_eq_some_iff.mpr ⟨_, _, rfl, rfl, outside, inside, solid⟩⟩)
        · exact .inr ⟨rfl,
            .inr ⟨rfl, called?_eq_some_iff.mpr ⟨_, _, rfl, rfl, outside, inside, solid⟩⟩⟩

-----------------------------------------------------------------------------------------
-- Specifiers
-----------------------------------------------------------------------------------------

theorem quotedSpecifier?_eq_some_iff
    : quotedSpecifier? text = some specifier
      ↔ ∃ opening closing rest,
          text = opening :: (specifier ++ closing :: rest)
          ∧ isQuote opening
          ∧ isQuote closing
          ∧ specifier ≠ []
          ∧ ∀ char ∈ specifier, isQuote char = false ∧ Text.isBlank char = false := by
  have kind {text : Text}
      : (∀ char ∈ text, (!isQuote char && !Text.isBlank char) = true)
        ↔ ∀ char ∈ text, isQuote char = false ∧ Text.isBlank char = false := by
    simp only [Bool.and_eq_true, Bool.not_eq_true']
  constructor
  · intro found
    cases text with
    | nil => cases found
    | cons opening text =>
        cases run : text.span (fun char => !isQuote char && !Text.isBlank char) with
        | mk value behind =>
            obtain ⟨rfl, solid, -⟩ := Text.span_eq_iff.mp run
            simp only [quotedSpecifier?, run, Option.ite_none_right_eq_some, Option.some.injEq,
              Bool.and_eq_true, Bool.not_eq_true', List.isEmpty_eq_false_iff] at found
            obtain ⟨⟨⟨opens, nonempty⟩, closes⟩, rfl⟩ := found
            cases behind with
            | nil => cases closes
            | cons closing rest =>
                exact ⟨opening, closing, rest, rfl, opens, closes, nonempty, kind.mp solid⟩
  · rintro ⟨opening, closing, rest, rfl, opens, closes, nonempty, solid⟩
    have run
        : (specifier ++ closing :: rest).span (fun char => !isQuote char && !Text.isBlank char)
          = (specifier, closing :: rest) :=
      Text.span_eq_iff.mpr ⟨rfl, kind.mpr solid, by simp [closes]⟩
    rw [quotedSpecifier?, run]
    simp [opens, closes, nonempty]

/-- No quote stands in an introduction. -/
theorem Introduces.unquoted (introduces : Introduces introduction)
    : ∀ char ∈ introduction, isQuote char = false := by
  have blankOnly {blanks : Text} (blank : ∀ char ∈ blanks, Text.isBlank char)
      : ∀ char ∈ blanks, isQuote char = false := by
    intro char among
    by_contra quote
    rw [Bool.not_eq_false] at quote
    exact absurd (blank char among) (by simp [isBlank_of_isQuote quote])
  cases introduces with
  | spaced word _ blank =>
      refine List.forall_mem_append.mpr ⟨?_, blankOnly blank⟩
      rcases word with rfl | rfl <;> simp [isQuote]
  | called word outside inside =>
      refine List.forall_mem_append.mpr ⟨List.forall_mem_append.mpr ⟨?_, blankOnly outside⟩,
        List.forall_mem_cons.mpr ⟨by decide, blankOnly inside⟩⟩
      rcases word with rfl | rfl <;> simp [isQuote]

-----------------------------------------------------------------------------------------
-- References
-----------------------------------------------------------------------------------------

/-- An introduction begins with the first letter of a keyword, which belongs to words. -/
theorem Introduces.exists_head (introduces : Introduces introduction)
    : ∃ first more,
        introduction = first :: more
        ∧ (first == 'f' || first == 'i' || first == 'r')
        ∧ Text.isWordChar first := by
  cases introduces with
  | spaced word =>
      rcases word with rfl | rfl <;> exact ⟨_, _, rfl, by decide, by decide⟩
  | called word =>
      rcases word with rfl | rfl <;> exact ⟨_, _, rfl, by decide, by decide⟩

/-- The search matches a reference in front of which no word goes on, and nothing else. -/
theorem pattern_eq_some_iff {before : Option Char} {introduced : Introduced} {count : Nat}
    : pattern before text = some (introduced, count)
      ↔ before.any Text.isWordChar = false
        ∧ ∃ (reference : Reference) (rest : Text),
            text = reference.written ++ rest
            ∧ introduced = reference.introduced
            ∧ count = reference.written.length := by
  constructor
  · intro found
    rw [pattern, Option.ite_none_right_eq_some, Bool.and_eq_true] at found
    obtain ⟨⟨-, starts⟩, found⟩ := found
    obtain ⟨⟨introduction, behind⟩, introducing, found⟩ := Option.bind_eq_some_iff.mp found
    obtain ⟨specifier, quoted, same⟩ := Option.map_eq_some_iff.mp found
    obtain ⟨rfl, rfl⟩ := Prod.mk.inj same
    obtain ⟨opening, closing, rest, rfl, opens, closes, nonempty, solid⟩ :=
      quotedSpecifier?_eq_some_iff.mp quoted
    obtain ⟨introduces, rfl⟩ := (introduction?_eq_some_iff opens).mp introducing
    let reference : Reference :=
      { introduction, opening, specifier, closing, introduces, opens, closes, nonempty, solid }
    obtain ⟨first, more, rfl, -, word⟩ := introduces.exists_head
    refine ⟨?_, reference, rest, by simp [reference, Reference.written, Reference.quoted], rfl,
      (Reference.length_written reference).symm⟩
    simpa [Text.isWordBoundary, word] using starts
  · rintro ⟨apart, reference, rest, rfl, rfl, rfl⟩
    have introducing
        : introduction? (reference.written ++ rest)
          = some (reference.introduction, reference.quoted ++ rest) :=
      (introduction?_eq_some_iff reference.opens).mpr
        ⟨reference.introduces, by simp [Reference.written, Reference.quoted]⟩
    have quoted : quotedSpecifier? (reference.quoted ++ rest) = some reference.specifier :=
      quotedSpecifier?_eq_some_iff.mpr ⟨reference.opening, reference.closing, rest,
        by simp [Reference.quoted], reference.opens, reference.closes, reference.nonempty,
        reference.solid⟩
    obtain ⟨first, more, begins, letter, word⟩ := reference.introduces.exists_head
    have head : (reference.written ++ rest).head? = some first := by
      rw [Reference.written, begins]
      rfl
    have starts : Text.isWordBoundary before (some first) := by
      simp [Text.isWordBoundary, apart, word]
    rw [pattern, head, Option.any_some, letter, starts, introducing]
    simp [quoted, Reference.introduced]

end PageAudit.Import
