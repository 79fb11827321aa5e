import PageAudit.Proofs.Markup.AttributeList
import PageAudit.Proofs.Markup.Tokenize

/-! Documents that are put together from text, comments, tags and elements with raw text. The tags
that are found in such a document are the ones that it was put together from.
-/

namespace PageAudit.Markup

open Text (Clear Until)
open Attribute (Spelled endOfTag)

/-- The characters of an opening or self-closing tag. -/
def writtenOpening (name : Text) (attributes : List Spelled) (selfClosing : Bool) : Text :=
  '<' :: (name ++ (Spelled.writtenAll attributes ++ (endOfTag selfClosing ++ ['>'])))

/-- The characters of a closing tag. -/
def writtenClosing (name : Text) : Text :=
  '<' :: '/' :: (name ++ ['>'])

/-- The opening or self-closing tag that was written at an offset. -/
def openingTagAt (offset : Nat) (name : Text) (attributes : List Spelled) (selfClosing : Bool)
    : Tag :=
  { kind := if selfClosing then .selfClosing else .opening
    name
    span := { start := offset,
              stop := offset + Text.byteSize (writtenOpening name attributes selfClosing) }
    attributes := attributes.map Spelled.meaning }

/-- The closing tag that was written at an offset. -/
def closingTagAt (offset : Nat) (name : Text) : Tag :=
  { kind := .closing
    name
    span := { start := offset, stop := offset + Text.byteSize (writtenClosing name) }
    attributes := [] }

/-- A piece of a document: text without `<`, a comment that does not end before its end, a tag, or
an element whose content is no markup. The names at both ends of such an element are its own one in
any case, and its content does not hold its end.
-/
inductive Piece where
  | text (content : Text) (plain : '<' ∉ content)
  | comment (content : Text) (unended : ¬ "-->".toList <:+: content)
  | opening (name : Text) (attributes : List Spelled) (valid : Lexeme.IsName name)
    (markup : ∀ element ∈ rawTextElements, ¬ Text.sameLetters name element)
  | selfClosing (name : Text) (attributes : List Spelled) (valid : Lexeme.IsName name)
  | closing (name : Text) (valid : Lexeme.IsName name)
  | rawText (element name : Text) (attributes : List Spelled) (content ending : Text)
    (known : element ∈ rawTextElements) (begins : Text.sameLetters name element)
    (ends : Text.sameLetters ending element)
    (unended : ∀ spelling,
        Text.sameLetters spelling element → ¬ '<' :: '/' :: spelling <:+: content)

namespace Piece

/-- The characters of a piece. -/
def written : Piece → Text
  | .text content _ => content
  | .comment content _ => "<!--".toList ++ (content ++ "-->".toList)
  | .opening name attributes _ _ => writtenOpening name attributes false
  | .selfClosing name attributes _ => writtenOpening name attributes true
  | .closing name _ => writtenClosing name
  | .rawText _ name attributes content ending _ _ _ _ =>
      writtenOpening name attributes false ++ (content ++ writtenClosing ending)

/-- (tagsAt offset piece) are the tags that a piece was written from, when it stands at `offset`. -/
def tagsAt (offset : Nat) : Piece → List Tag
  | .text _ _ => []
  | .comment _ _ => []
  | .opening name attributes _ _ => [openingTagAt offset name attributes false]
  | .selfClosing name attributes _ => [openingTagAt offset name attributes true]
  | .closing name _ => [closingTagAt offset name]
  | .rawText _ name attributes content ending _ _ _ _ =>
      let contentStart := offset + Text.byteSize (writtenOpening name attributes false)
      [openingTagAt offset name attributes false,
        closingTagAt (contentStart + Text.byteSize content) ending]

/-- The characters of a document. -/
def writtenAll (pieces : List Piece) : Text :=
  pieces.flatMap written

/-- (allTagsAt offset pieces) are the tags of pieces that stand one behind the other from `offset`
on.
-/
def allTagsAt : Nat → List Piece → List Tag
  | _, [] => []
  | offset, piece :: pieces =>
      piece.tagsAt offset ++ allTagsAt (offset + Text.byteSize piece.written) pieces

end Piece

-----------------------------------------------------------------------------------------
-- The lexemes of written tags
-----------------------------------------------------------------------------------------

/-- The lexeme of an opening or self-closing tag, in front of other characters. -/
def openingLexeme (name : Text) (attributes : List Spelled) (selfClosing : Bool) (rest : Text)
    : Lexeme :=
  { closing := false
    name
    attributes := Spelled.writtenAll attributes ++ endOfTag selfClosing
    rest }

/-- The lexeme of a closing tag, in front of other characters. -/
def closingLexeme (name rest : Text) : Lexeme :=
  { closing := true, name, attributes := [], rest }

section

variable (name : Text) (attributes : List Spelled) (selfClosing : Bool) (rest : Text)

@[simp] theorem written_openingLexeme
    : (openingLexeme name attributes selfClosing rest).written
      = writtenOpening name attributes selfClosing := by
  simp [openingLexeme, writtenOpening, Lexeme.written]

@[simp] theorem written_closingLexeme
    : (closingLexeme name rest).written = writtenClosing name := by
  simp [closingLexeme, writtenClosing, Lexeme.written]

/-- An opening tag is a lexeme where it stands. -/
theorem openingLexeme_atFront {name : Text} (valid : Lexeme.IsName name)
    : (openingLexeme name attributes selfClosing rest).AtFront
        (writtenOpening name attributes selfClosing ++ rest) := by
  refine ⟨⟨by rw [written_openingLexeme]; rfl, valid, ?_⟩, ?_⟩
  · exact Spelled.runs_writtenAll attributes selfClosing
  · have blank : Lexeme.isNamePart ' ' = false := by decide
    cases attributes with
    | nil => cases selfClosing <;> simp [openingLexeme, endOfTag, Spelled.writtenAll, blank]
    | cons spelled attributes => simp [openingLexeme, Spelled.writtenAll, blank]

theorem closingLexeme_atFront {name : Text} (valid : Lexeme.IsName name)
    : (closingLexeme name rest).AtFront (writtenClosing name ++ rest) :=
  ⟨⟨by rw [written_closingLexeme]; rfl, valid, .nil⟩, by simp [closingLexeme]⟩

/-- The tag of an opening lexeme has the attributes that it was written with. -/
theorem tag_openingLexeme (start : Nat)
    : (openingLexeme name attributes selfClosing rest).tag start
      = openingTagAt start name attributes selfClosing := by
  have slash := Spelled.getLast?_trimEnd_writtenAll attributes selfClosing
  have size := Lexeme.byteSize_written (openingLexeme name attributes selfClosing rest)
  rw [written_openingLexeme] at size
  rw [Lexeme.tag, openingTagAt, ← size]
  simp [openingLexeme, Lexeme.kind, slash, Attribute.readAll_writtenAll]

theorem tag_closingLexeme (start : Nat)
    : (closingLexeme name rest).tag start = closingTagAt start name := by
  have size := Lexeme.byteSize_written (closingLexeme name rest)
  rw [written_closingLexeme] at size
  rw [Lexeme.tag, closingTagAt, ← size]
  simp [closingLexeme, Lexeme.kind]

end

-----------------------------------------------------------------------------------------
-- Where the end of a comment or of an element can stand
-----------------------------------------------------------------------------------------

/-- A word in front of two parts stands in the first one, or it goes on in the second one. -/
theorem prefix_append_cases {word left right : Text} (begins : word <+: left ++ right)
    : word <+: left ∨ ∃ more, more ≠ [] ∧ word = left ++ more ∧ more <+: right := by
  obtain ⟨behind, same⟩ := begins
  rcases List.append_eq_append_iff.mp same with ⟨more, rfl, -⟩ | ⟨more, rfl, tail⟩
  · exact .inl (List.prefix_append _ _)
  · by_cases empty : more = []
    · subst empty
      exact .inl (by simp)
    · exact .inr ⟨more, empty, rfl, ⟨behind, tail.symm⟩⟩

/-- No comment ends before its end: a mark that began in the content and went on behind it would
have its `>` where the mark of the end has a hyphen.
-/
theorem clear_endsComment {content : Text} (unended : ¬ "-->".toList <:+: content) (rest : Text)
    : Clear EndsComment content ("-->".toList ++ rest) := by
  intro later suffix nonempty ends
  rcases prefix_append_cases ends with inside | ⟨more, moreNonempty, mark, front⟩
  · exact unended (inside.isInfix.trans suffix.isInfix)
  · have last : '>' ∈ more := by
      have same := congrArg List.getLast? mark
      rw [List.getLast?_append, List.getLast?_eq_some_getLast moreNonempty, Option.some_or] at same
      have ending : '>' = more.getLast moreNonempty := Option.some.inj same
      exact ending ▸ List.getLast_mem moreNonempty
    have short : more.length ≤ 2 := by
      have size := congrArg List.length mark
      have some := List.length_pos_iff.mpr nonempty
      simp at size
      omega
    have hyphens : more <+: "--".toList :=
      List.prefix_of_prefix_length_le front ⟨'>' :: rest, rfl⟩ short
    exact absurd (hyphens.subset last) (by decide)

/-- No character of the name of an element with raw text is a `<`, in any case. -/
theorem not_mem_of_sameLetters {spelling element : Text} (known : element ∈ rawTextElements)
    (same : Text.sameLetters spelling element)
    : '<' ∉ spelling := by
  intro member
  rw [Text.sameLetters, lower_of_mem_rawTextElements known, beq_iff_eq] at same
  have lower : Char.toLower '<' ∈ Text.lower spelling := List.mem_map_of_mem member
  have notHeld : ∀ element ∈ rawTextElements, Char.toLower '<' ∉ element := by decide
  exact notHeld element known (same ▸ lower)

/-- No element with raw text ends before its end: a mark that began in the content and went on
behind it would have another `<` behind its own one.
-/
theorem clear_endsElement {element content rest : Text} (known : element ∈ rawTextElements)
    (unended : ∀ spelling, Text.sameLetters spelling element
      → ¬ '<' :: '/' :: spelling <:+: content)
    (front : rest.head? = some '<')
    : Clear (EndsElement element) content rest := by
  rintro later suffix nonempty ⟨spelling, behind, split, same⟩
  have ends : '<' :: '/' :: spelling <+: later ++ rest := ⟨behind, split.symm⟩
  rcases prefix_append_cases ends with inside | ⟨more, moreNonempty, mark, goesOn⟩
  · exact unended spelling same (inside.isInfix.trans suffix.isInfix)
  -- the mark would go on with the `<` of the closing tag, but its own name holds none
  · have member : '<' ∈ more := by
      cases more with
      | nil => exact absurd rfl moreNonempty
      | cons char more =>
          obtain ⟨_, rfl⟩ := goesOn
          obtain rfl : char = '<' := by simpa using front
          exact List.mem_cons_self
    cases later with
    | nil => exact absurd rfl nonempty
    | cons char later =>
        have tail : '/' :: spelling = later ++ more := (List.cons.inj mark).2
        have inTail : '<' ∈ '/' :: spelling := tail ▸ List.mem_append_right later member
        rcases List.mem_cons.mp inTail with slash | deeper
        · exact absurd slash (by decide)
        · exact not_mem_of_sameLetters known same deeper

/-- A character whose small form is a small letter is a letter. -/
theorem isAlpha_of_isLower_toLower {char : Char} (lower : char.toLower.isLower) : char.isAlpha := by
  unfold Char.toLower at lower
  split at lower
  · next bounds =>
      have upper : char.isUpper := decide_eq_true bounds
      exact Bool.or_eq_true_iff.mpr (.inl upper)
  · exact Bool.or_eq_true_iff.mpr (.inr lower)

/-- The names of elements with raw text are names in any case. -/
theorem isName_of_sameLetters {spelling element : Text} (known : element ∈ rawTextElements)
    (same : Text.sameLetters spelling element)
    : Lexeme.IsName spelling := by
  rw [Text.sameLetters, lower_of_mem_rawTextElements known, beq_iff_eq] at same
  have letters : ∀ element ∈ rawTextElements, element ≠ [] ∧ element.all Char.isLower := by decide
  obtain ⟨nonempty, small⟩ := letters element known
  have alpha : ∀ char ∈ spelling, char.isAlpha := by
    intro char member
    have lower : char.toLower ∈ Text.lower spelling := List.mem_map_of_mem member
    exact isAlpha_of_isLower_toLower (List.all_eq_true.mp small _ (same ▸ lower))
  refine ⟨?_, List.all_eq_true.mpr fun char member => ?_⟩
  · cases spelling with
    | nil => exact absurd same.symm nonempty
    | cons first others => simpa using alpha first List.mem_cons_self
  · simp [Lexeme.isNamePart, Char.isAlphanum, alpha char member]

-----------------------------------------------------------------------------------------
-- Scanning a piece
-----------------------------------------------------------------------------------------

section

variable {place : Place} {rest : Text} {tags : List Tag}

theorem scan_text {content : Text} (plain : '<' ∉ content)
    (front : place.rest = content ++ rest) (scan : Scan (place.behind content rest) tags)
    : Scan place tags := by
  refine Scan.skip front (Text.clear_of_not_mem plain ?_) (Text.clear_of_not_mem plain ?_) scan
  · rintro text ⟨behind, rfl⟩
    rfl
  · rintro text ⟨lexeme, fits⟩
    rw [fits.text_eq]
    simp [Lexeme.written]

/-- The scanner goes behind a comment. -/
theorem scan_comment {content : Text} (unended : ¬ "-->".toList <:+: content)
    (front : place.rest = "<!--".toList ++ (content ++ ("-->".toList ++ rest)))
    (scan : Scan (place.behind ("<!--".toList ++ (content ++ "-->".toList)) rest) tags)
    : Scan place tags := by
  have ends : Until EndsComment content ("-->".toList ++ rest) :=
    .found ⟨rest, rfl⟩ (clear_endsComment unended rest)
  exact .step (.comment front ends) scan

/-- The scanner takes an opening tag whose content is markup, or a self-closing tag. -/
theorem scan_openingTag {name : Text} {attributes : List Spelled} {selfClosing : Bool}
    (valid : Lexeme.IsName name)
    (markup : selfClosing ∨ ∀ element ∈ rawTextElements, ¬ Text.sameLetters name element)
    (front : place.rest = writtenOpening name attributes selfClosing ++ rest)
    (scan : Scan (place.behind (writtenOpening name attributes selfClosing) rest) tags)
    : Scan place (openingTagAt place.offset name attributes selfClosing :: tags) := by
  rw [← tag_openingLexeme name attributes selfClosing rest]
  have here := openingLexeme_atFront attributes selfClosing rest valid
  rw [← front] at here
  have step := Step.markup here ?_
  · rw [written_openingLexeme] at step
    exact .step step scan
  · rintro element ⟨opening, known, named⟩
    rcases markup with closed | other
    · have tag := tag_openingLexeme name attributes selfClosing rest 0
      rw [openingTagAt, if_pos closed] at tag
      cases opening.symm.trans (congrArg Tag.kind tag)
    · exact other element known named

theorem scan_closingTag {name : Text} (valid : Lexeme.IsName name)
    (front : place.rest = writtenClosing name ++ rest)
    (scan : Scan (place.behind (writtenClosing name) rest) tags)
    : Scan place (closingTagAt place.offset name :: tags) := by
  rw [← tag_closingLexeme name rest]
  have here := closingLexeme_atFront rest valid
  rw [← front] at here
  have step := Step.markup here ?_
  · rw [written_closingLexeme] at step
    exact .step step scan
  · rintro element ⟨opening, -, -⟩
    exact absurd opening (by simp [closingLexeme, Lexeme.kind])

/-- The scanner takes the opening tag of an element with raw text and goes to the end of its
content.
-/
theorem scan_rawText {element name content : Text} {attributes : List Spelled}
    (valid : Lexeme.IsName name) (known : element ∈ rawTextElements)
    (begins : Text.sameLetters name element)
    (ends : Until (EndsElement element) content rest)
    (front : place.rest = writtenOpening name attributes false ++ (content ++ rest))
    (scan : Scan (place.behind (writtenOpening name attributes false ++ content) rest) tags)
    : Scan place (openingTagAt place.offset name attributes false :: tags) := by
  have here := openingLexeme_atFront attributes false (content ++ rest) valid
  rw [← front] at here
  have tag := tag_openingLexeme name attributes false (content ++ rest) place.offset
  have opening : (openingLexeme name attributes false (content ++ rest)).kind = .opening :=
    congrArg Tag.kind tag
  have step := Step.rawText here ⟨opening, known, begins⟩ rfl ends
  rw [written_openingLexeme, tag] at step
  exact .step step scan

end

/-- The scanner emits the tags of a piece and goes behind it. -/
theorem scan_piece (piece : Piece) {place : Place} {rest : Text} {tags : List Tag}
    (front : place.rest = piece.written ++ rest)
    (scan : Scan (place.behind piece.written rest) tags)
    : Scan place (piece.tagsAt place.offset ++ tags) := by
  cases piece with
  | text content plain => exact scan_text plain front scan
  | comment content unended =>
      exact scan_comment unended (by simpa [Piece.written] using front) scan
  | opening name attributes valid markup => exact scan_openingTag valid (.inr markup) front scan
  | selfClosing name attributes valid => exact scan_openingTag valid (.inl rfl) front scan
  | closing name valid => exact scan_closingTag valid front scan
  | rawText element name attributes content ending known begins ends unended =>
      have last : Until (EndsElement element) content (writtenClosing ending ++ rest) := by
        refine .found ⟨ending, '>' :: rest, by simp [writtenClosing], ends⟩ ?_
        exact clear_endsElement known unended rfl
      have closes : Scan (place.behind (writtenOpening name attributes false ++ content)
          (writtenClosing ending ++ rest)) _ :=
        scan_closingTag (isName_of_sameLetters known ends) rfl
          (by simpa [Place.behind_behind, Piece.written] using scan)
      have whole := scan_rawText (isName_of_sameLetters known begins) known begins last
        (by simpa [Piece.written] using front) closes
      simpa [Piece.tagsAt, Place.behind, Nat.add_assoc] using whole

/-- The scanner emits the tags of pieces that stand one behind the other, by induction over them. -/
theorem scan_pieces (pieces : List Piece) {place : Place}
    (front : place.rest = Piece.writtenAll pieces)
    : Scan place (Piece.allTagsAt place.offset pieces) := by
  induction pieces generalizing place with
  | nil => exact .finish front
  | cons piece pieces ih => exact scan_piece piece front (ih rfl)

/-- The tags that are found in a document are exactly the ones that it was put together from: in
their order, at the spans where they were written, with their names as written, and each with its
attributes and their values.
-/
theorem tokenize_writtenAll (pieces : List Piece)
    : tokenize (Piece.writtenAll pieces) = Piece.allTagsAt 0 pieces := by
  have scan : Scan (Place.start (Piece.writtenAll pieces)) (Piece.allTagsAt 0 pieces) :=
    scan_pieces pieces rfl
  exact (scan_tokenize _).unique scan

/-- A value may hold what would begin or end markup elsewhere. -/
example
    : let link : Piece :=
        .opening "a"
          [{ name := "b", spelling := .quoted '"' "<!-->>" (.inl rfl) (by decide),
             valid := by decide, unbound := by decide }]
          (by decide) (by decide)
      tokenize (Piece.writtenAll [link, .comment " <i> " (by decide), .closing "a" (by decide)])
      = [{ kind := .opening, name := "a", span := { start := 0, stop := 14 },
           attributes := [{ name := "b", value := some "<!-->>".toList }] },
         { kind := .closing, name := "a", span := { start := 26, stop := 30 },
           attributes := [] }] := by
  decide +kernel

end PageAudit.Markup
