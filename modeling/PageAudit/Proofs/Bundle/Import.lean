import Mathlib.Data.List.Basic
import Mathlib.Data.List.Perm.Subperm
import PageAudit.Proofs.Bundle.Package
import PageAudit.Proofs.Bundle.Reference
import PageAudit.Proofs.Text.Hits
import PageAudit.Proofs.Text.Trim

/-! The imports that are found in a text stand there: the span of each one holds its specifier,
which stands in quotes and names the package. They are listed from left to right, and none is left
out unless an earlier reference goes on where its own one starts. Lines that are added to the text
only add imports behind them.
-/

namespace PageAudit

namespace Import

/-- An import stands in a text when its span is the one of a specifier that names its package. -/
def StandsIn (found : Import) (text : Text) : Prop :=
  ∃ before specifier after,
    text = before ++ (specifier ++ after)
    ∧ found.span
      = { start := Text.byteSize before,
          stop := Text.byteSize before + Text.byteSize specifier }
    ∧ packageOf? specifier = some found.package

/-- (reference.StandsAt text offset) says that a reference stands in a text, behind `offset` bytes
and as a word of its own.
-/
def Reference.StandsAt (reference : Reference) (text : Text) (offset : Nat) : Prop :=
  ∃ before after,
    text = before ++ (reference.written ++ after)
    ∧ offset = Text.byteSize before
    ∧ before.getLast?.any Text.isWordChar = false

/-- The span of the specifier of a reference that stands behind so many bytes. -/
def Reference.specifierSpan (reference : Reference) (offset : Nat) : Span :=
  let start := offset + (Text.byteSize reference.introduction + 1)
  { start, stop := start + Text.byteSize reference.specifier }

/-- Every match of the search is a reference in the text. -/
theorem exists_reference {text : Text} {hit : Text.Hit Introduced}
    (member : hit ∈ Text.hits pattern text)
    : ∃ reference : Reference,
        reference.StandsAt text hit.start
        ∧ hit.stop = hit.start + Text.byteSize reference.written
        ∧ hit.value = reference.introduced := by
  obtain ⟨before, behind, count, rfl, start, stop, matched⟩ :=
    (Text.found_of_mem_hitsFrom member).matched
  obtain ⟨apart, reference, after, rfl, value, rfl⟩ := pattern_eq_some_iff.mp matched
  rw [Nat.zero_add] at start
  rw [List.take_left] at stop
  rw [Option.or_none] at apart
  exact ⟨reference, ⟨before, after, rfl, start, apart⟩, stop, value⟩

/-- Every import that is found in a text is read off a reference in it. -/
theorem exists_reference_of_mem_readAll {text : Text} {found : Import}
    (member : found ∈ readAll text)
    : ∃ (reference : Reference) (offset : Nat),
        reference.StandsAt text offset
        ∧ found.span = reference.specifierSpan offset
        ∧ packageOf? reference.specifier = some found.package := by
  obtain ⟨hit, listed, named⟩ := List.mem_filterMap.mp member
  obtain ⟨package, packaged, rfl⟩ := Option.map_eq_some_iff.mp named
  obtain ⟨reference, stands, -, value⟩ := exists_reference listed
  rw [value] at packaged ⊢
  exact ⟨reference, hit.start, stands, rfl, packaged⟩

/-- Every import that is found in a text stands there. -/
theorem standsIn_of_mem_readAll {text : Text} {found : Import} (member : found ∈ readAll text)
    : found.StandsIn text := by
  obtain ⟨reference, -, ⟨before, after, rfl, rfl, -⟩, span, packaged⟩ :=
    exists_reference_of_mem_readAll member
  refine ⟨before ++ reference.introduction ++ [reference.opening], reference.specifier,
    reference.closing :: after, by simp [Reference.written, Reference.quoted], ?_, packaged⟩
  have single := utf8Size_of_isQuote reference.opens
  simp [span, Reference.specifierSpan, single, Nat.add_assoc]

theorem StandsIn.span_liesIn {text : Text} {found : Import} (stands : found.StandsIn text)
    : found.span.LiesIn text := by
  obtain ⟨before, specifier, after, rfl, span, -⟩ := stands
  rw [span]
  exact Span.LiesIn.of_append before specifier after

-----------------------------------------------------------------------------------------
-- The characters of packages
-----------------------------------------------------------------------------------------

theorem subset_of_packageOf? {specifier package : Text}
    (named : packageOf? specifier = some package)
    : package ⊆ specifier := by
  obtain ⟨-, names⟩ := packageOf?_eq_some_iff.mp named
  obtain ⟨path, split, -⟩ := names.exists_path
  refine List.Subset.trans ?_ (Text.trim_subset specifier)
  rw [split]
  exact List.subset_append_left package path

/-- No package that is found in a text has blanks, since specifiers have none. -/
theorem solid_of_mem_readAll {text : Text} {found : Import} (member : found ∈ readAll text)
    : ∀ char ∈ found.package, Text.isBlank char = false := by
  obtain ⟨reference, -, -, -, packaged⟩ := exists_reference_of_mem_readAll member
  exact fun char inPackage =>
    (reference.solid char (subset_of_packageOf? packaged inPackage)).2

-----------------------------------------------------------------------------------------
-- The order of imports
-----------------------------------------------------------------------------------------

/-- The span of an import lies within the reference that it was read from. -/
theorem span_within_hit {text : Text} {hit : Text.Hit Introduced} {found : Import}
    (member : hit ∈ Text.hits pattern text) (named : ofHit? hit = some found)
    : hit.start < found.span.start ∧ found.span.stop < hit.stop := by
  obtain ⟨package, -, rfl⟩ := Option.map_eq_some_iff.mp named
  obtain ⟨reference, -, stop, value⟩ := exists_reference member
  have opening := utf8Size_of_isQuote reference.opens
  have closing := utf8Size_of_isQuote reference.closes
  rw [stop, value]
  simp only [Reference.written, Reference.quoted, Reference.introduced, Text.byteSize_append,
    Text.byteSize_cons, Text.byteSize_nil, opening, closing]
  omega

/-- Imports are listed in the order in which they stand in the text, and none overlaps another. -/
theorem pairwise_readAll (text : Text)
    : (readAll text).Pairwise fun first second => first.span.stop < second.span.start := by
  rw [readAll, List.pairwise_filterMap]
  refine List.Pairwise.imp_of_mem ?_ (Text.pairwise_hitsFrom 0 0 none text)
  intro first second firstListed secondListed ordered former formerNamed latter latterNamed
  have one := span_within_hit firstListed formerNamed
  have other := span_within_hit secondListed latterNamed
  omega

/-- No two imports start at one place, so there are no more of them than places in the text. -/
theorem length_readAll_le (text : Text) : (readAll text).length ≤ Text.byteSize text + 1 := by
  have apart : ((readAll text).map (·.span.start)).Nodup := by
    refine List.pairwise_map.mpr ((pairwise_readAll text).imp_of_mem ?_)
    intro first second former _ order
    have forward := (standsIn_of_mem_readAll former).span_liesIn.ordered
    omega
  have within : (readAll text).map (·.span.start) ⊆ List.range (Text.byteSize text + 1) := by
    intro start listed
    obtain ⟨found, member, rfl⟩ := List.mem_map.mp listed
    have inside := (standsIn_of_mem_readAll member).span_liesIn.start.le_byteSize
    exact List.mem_range.mpr (Nat.lt_succ_of_le inside)
  have counted := (apart.subperm within).length_le
  rwa [List.length_map, List.length_range] at counted

-----------------------------------------------------------------------------------------
-- Imports in quotes
-----------------------------------------------------------------------------------------

/-- (Quotes text span specifier) says that a span of a text holds a specifier, which stands directly
between two quotes. The quotes need not be equal.
-/
structure Quotes (text : Text) (span : Span) (specifier : Text) : Prop where
  between : ∃ before opening closing after,
    text = before ++ opening :: (specifier ++ closing :: after)
    ∧ isQuote opening
    ∧ isQuote closing
    ∧ span
      = { start := Text.byteSize before + 1,
          stop := Text.byteSize before + 1 + Text.byteSize specifier }
  nonempty : specifier ≠ []
  solid : ∀ char ∈ specifier, isQuote char = false ∧ Text.isBlank char = false

namespace Quotes

variable {text specifier : Text} {span : Span}

theorem slice?_eq (quotes : Quotes text span specifier)
    : Text.slice? text span.start span.stop = some specifier := by
  obtain ⟨before, opening, closing, after, rfl, opens, -, rfl⟩ := quotes.between
  have slice := Text.slice?_append (before ++ [opening]) specifier (closing :: after)
  simpa [utf8Size_of_isQuote opens] using slice

theorem liesIn (quotes : Quotes text span specifier) : span.LiesIn text := by
  obtain ⟨before, opening, closing, after, rfl, opens, -, rfl⟩ := quotes.between
  have lies := Span.LiesIn.of_append (before ++ [opening]) specifier (closing :: after)
  simpa [utf8Size_of_isQuote opens] using lies

theorem start_lt_stop (quotes : Quotes text span specifier) : span.start < span.stop := by
  obtain ⟨before, -, -, -, -, -, -, rfl⟩ := quotes.between
  have positive := Text.byteSize_pos quotes.nonempty
  exact Nat.lt_add_of_pos_right positive

end Quotes

/-- The package of a reference is what its specifier names. -/
theorem Reference.packageOf?_eq_some_iff {reference : Reference} {package : Text}
    : packageOf? reference.specifier = some package
      ↔ ¬ Unpackaged reference.specifier ∧ Names reference.specifier package :=
  packageOf?_eq_some_iff_of_solid fun char member => (reference.solid char member).2

/-- What is listed is a package in quotes. -/
theorem exists_quotes {text : Text} {found : Import} (member : found ∈ readAll text)
    : ∃ specifier,
        Quotes text found.span specifier
        ∧ Fronts found.package specifier
        ∧ ¬ Unpackaged specifier := by
  obtain ⟨reference, -, ⟨before, after, rfl, rfl, -⟩, span, packaged⟩ :=
    exists_reference_of_mem_readAll member
  obtain ⟨apart, names⟩ := Reference.packageOf?_eq_some_iff.mp packaged
  have solid := reference.solid
  refine ⟨reference.specifier, ⟨?_, reference.nonempty, solid⟩, names.fronts apart, apart⟩
  refine ⟨before ++ reference.introduction, reference.opening, reference.closing, after,
    by simp [Reference.written, Reference.quoted], reference.opens, reference.closes, ?_⟩
  simp [span, Reference.specifierSpan, Nat.add_assoc]

/-- A reference to a package is listed, unless an earlier reference goes on where it starts. -/
theorem listed_or_overlapped {text package : Text} {reference : Reference} {offset : Nat}
    (stands : reference.StandsAt text offset) (packaged : ¬ Unpackaged reference.specifier)
    (names : Names reference.specifier package)
    : { package, span := reference.specifierSpan offset } ∈ readAll text
      ∨ ∃ (other : Reference) (start : Nat),
          other.StandsAt text start
          ∧ start < offset
          ∧ offset < start + Text.byteSize other.written := by
  obtain ⟨before, after, rfl, rfl, apart⟩ := stands
  have named := Reference.packageOf?_eq_some_iff.mpr ⟨packaged, names⟩
  have nonempty : reference.written ++ after ≠ [] := by
    intro none
    have length := congrArg List.length none
    simp at length
  have matched : pattern before.getLast? (reference.written ++ after)
      = some (reference.introduced, reference.written.length) :=
    pattern_eq_some_iff.mpr ⟨apart, reference, after, rfl, rfl, rfl⟩
  obtain ⟨hit, listed, ⟨start, value⟩ | ⟨starts, stops⟩⟩ :=
    Text.exists_hit_of_match nonempty matched
  · refine .inl (List.mem_filterMap.mpr ⟨hit, listed, ?_⟩)
    rw [ofHit?, value, start]
    simp [Reference.introduced, named, Reference.specifierSpan]
  · obtain ⟨other, otherStands, stop, -⟩ := exists_reference listed
    exact .inr ⟨other, hit.start, otherStands, starts, stop ▸ stops⟩

/-- Imports are listed from left to right, and none overlaps another. The span of each one holds a
specifier between two quotes, which names its package. Every reference to a package is listed,
unless an earlier reference goes on where it starts.
-/
theorem readAll_quotes (text : Text)
    : (readAll text).Pairwise (fun first second => first.span.stop < second.span.start)
      ∧ (∀ found ∈ readAll text,
          found.span.LiesIn text
          ∧ found.span.start < found.span.stop
          ∧ ∃ specifier,
              Text.slice? text found.span.start found.span.stop = some specifier
              ∧ Quotes text found.span specifier
              ∧ Fronts found.package specifier
              ∧ ¬ Unpackaged specifier)
      ∧ ∀ (reference : Reference) (offset : Nat),
          reference.StandsAt text offset
          → ¬ Unpackaged reference.specifier
          → ∀ package,
              Names reference.specifier package
              → { package, span := reference.specifierSpan offset } ∈ readAll text
                ∨ ∃ (other : Reference) (start : Nat),
                    other.StandsAt text start
                    ∧ start < offset
                    ∧ offset < start + Text.byteSize other.written := by
  refine ⟨pairwise_readAll text, fun found member => ?_,
    fun reference offset stands packaged package names =>
      listed_or_overlapped stands packaged names⟩
  obtain ⟨specifier, quotes, fronts, packaged⟩ := exists_quotes member
  exact ⟨quotes.liesIn, quotes.start_lt_stop, specifier, quotes.slice?_eq, quotes, fronts, packaged⟩

theorem readAll_quotes_scoped
    : let text : Text := "import a from '@b/c/d'"
      let found : Import := { package := "@b/c", span := { start := 15, stop := 21 } }
      let reference : Reference :=
        { introduction := "from ", opening := '\'', specifier := "@b/c/d", closing := '\'',
          introduces := .spaced (.inl rfl) (List.cons_ne_nil ' ' [])
            (List.forall_mem_singleton.mpr (by decide)),
          opens := by decide, closes := by decide, nonempty := by decide,
          solid := by simp [isQuote, Text.isBlank] }
      found ∈ readAll text
      ∧ (∃ specifier, Quotes text found.span specifier ∧ Fronts found.package specifier)
      ∧ reference.StandsAt text 9
      ∧ ¬ Unpackaged reference.specifier
      ∧ Names reference.specifier found.package
      ∧ (found ∈ readAll text
        ∨ ∃ (other : Reference) (start : Nat),
            other.StandsAt text start ∧ start < 9 ∧ 9 < start + Text.byteSize other.written) := by
  intro text found reference
  have member : found ∈ readAll text := by decide +kernel
  have stands : reference.StandsAt text 9 := ⟨"import a ", [], by decide, by decide, by decide⟩
  obtain ⟨packaged, names⟩ : ¬ Unpackaged reference.specifier
      ∧ Names reference.specifier found.package :=
    Reference.packageOf?_eq_some_iff.mp (by decide)
  obtain ⟨-, each, complete⟩ := readAll_quotes text
  obtain ⟨-, -, specifier, -, quotes, fronts, -⟩ := each found member
  exact ⟨member, ⟨specifier, quotes, fronts⟩, stands, packaged, names,
    complete reference 9 stands packaged found.package names⟩

-----------------------------------------------------------------------------------------
-- Texts that go on
-----------------------------------------------------------------------------------------

/-- What is added behind a text begins a line of its own. -/
def OnNewLine (text added : Text) : Prop :=
  text = [] ∨ text.getLast? = some '\n' ∨ added.head? = some '\n'

theorem OnNewLine.blank_of_suffix {text added rest : Text} (apart : OnNewLine text added)
    (within : rest <:+ text) (nonempty : rest ≠ [])
    : (∃ char ∈ rest.getLast?, Text.isBlank char) ∨ ∃ char ∈ added.head?, Text.isBlank char := by
  have lineBreak : Text.isBlank '\n' := by decide
  obtain ⟨front, rfl⟩ := within
  rcases apart with none | last | first
  · exact absurd (List.append_eq_nil_iff.mp none).2 nonempty
  · rw [List.getLast?_append_of_ne_nil front nonempty] at last
    exact .inl ⟨'\n', last, lineBreak⟩
  · exact .inr ⟨'\n', first, lineBreak⟩

/-- A reference that goes on behind a line break begins with all that stands in front of it, since
only the blanks of an introduction hold line breaks.
-/
theorem Reference.prefix_introduction {reference : Reference} {rest added after : Text}
    (apart
      : (∃ char ∈ rest.getLast?, Text.isBlank char) ∨ ∃ char ∈ added.head?, Text.isBlank char)
    (split : rest ++ added = reference.written ++ after) (goesOn : ¬ reference.written <+: rest)
    : rest <+: reference.introduction := by
  rcases List.append_eq_append_iff.mp split with ⟨more, within, rfl⟩ | ⟨more, whole, -⟩
  · rcases List.append_eq_append_iff.mp within with ⟨front, rfl, quoted⟩ | ⟨blanks, intro, -⟩
    · -- the border would be between two characters that are no blanks
      by_contra beyond
      have frontSome : front ≠ [] := by
        rintro rfl
        exact beyond ⟨[], by rw [List.append_nil, List.append_nil]⟩
      have moreSome : more ≠ [] := by
        rintro rfl
        exact goesOn ⟨[], by rw [within, List.append_nil, List.append_nil]⟩
      have solid := reference.solid_quoted
      rw [quoted, List.forall_mem_append] at solid
      rcases apart with ⟨char, last, blank⟩ | ⟨char, first, blank⟩
      · rw [List.getLast?_append_of_ne_nil _ frontSome] at last
        rw [solid.1 char (List.mem_of_getLast? last)] at blank
        cases blank
      · rw [List.head?_append_of_ne_nil _ moreSome] at first
        rw [solid.2 char (List.mem_of_head? first)] at blank
        cases blank
    · exact ⟨blanks, intro.symm⟩
  · exact absurd ⟨more, whole.symm⟩ goesOn

/-- What is added on a new line takes no reference from a text. A reference that reaches into it
begins behind all others, since it leaves no quote to the text.
-/
theorem OnNewLine.extends {text added : Text} (apart : OnNewLine text added)
    : Text.Extends pattern text added where
  keeps before rest introduced count _ matched := by
    obtain ⟨alone, reference, more, rfl, value, rfl⟩ := pattern_eq_some_iff.mp matched
    refine ⟨by simp, pattern_eq_some_iff.mpr ⟨alone, reference, more ++ added, ?_, value, rfl⟩⟩
    rw [List.append_assoc]
  late before rest within nonempty nowhere reaches := by
    obtain ⟨⟨introduced, count⟩, matched⟩ := Option.ne_none_iff_exists'.mp reaches
    obtain ⟨alone, reference, after, split, -, -⟩ := pattern_eq_some_iff.mp matched
    have goesOn : ¬ reference.written <+: rest := by
      rintro ⟨more, rfl⟩
      rw [pattern_eq_some_iff.mpr ⟨alone, reference, more, rfl, rfl, rfl⟩] at nowhere
      cases nowhere
    have front := reference.prefix_introduction (apart.blank_of_suffix within nonempty) split goesOn
    intro other more tail
    by_contra here
    obtain ⟨⟨introduced, count⟩, matched⟩ := Option.ne_none_iff_exists'.mp here
    obtain ⟨-, second, behind, rfl, -, -⟩ := pattern_eq_some_iff.mp matched
    have quote : second.opening ∈ reference.introduction :=
      front.subset (tail.subset (by simp [Reference.written, Reference.quoted]))
    exact absurd second.opens (by simp [reference.introduces.unquoted _ quote])

/-- The imports of a text are the first ones of the text with more lines. -/
theorem readAll_prefix {text added : Text} (apart : OnNewLine text added)
    : readAll text <+: readAll (text ++ added) :=
  (apart.extends.hitsFrom_prefix 0 0 none).filterMap ofHit?

end Import

end PageAudit
