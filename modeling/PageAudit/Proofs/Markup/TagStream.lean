import PageAudit.Proofs.Markup.Tokenize

/-! The tags of a document stand in it one behind the other, each as it is written there. -/

namespace PageAudit

open Markup

/-- A tag stands in a text as the grammar of tags has it: its span begins where a lexeme stands, and
it is the tag of that lexeme.
-/
def Tag.StandsIn (tag : Tag) (text : Text) : Prop :=
  ∃ before after, ∃ lexeme : Lexeme,
    text = before ++ after
    ∧ lexeme.AtFront after
    ∧ tag = lexeme.tag (Text.byteSize before)

/-- A tag is well formed in a text: its span lies there and is not empty, the slice of its span is
`<`, a slash for a closing tag, the name as a whole, more characters, and `>`, and a closing tag
has no attributes.
-/
structure Tag.WellFormedIn (tag : Tag) (text : Text) : Prop where
  nonempty : tag.span.start < tag.span.stop
  inside : tag.span.stop ≤ Text.byteSize text
  boundaries : Text.IsBoundary text tag.span.start ∧ Text.IsBoundary text tag.span.stop
  slash : (∃ rest, Text.slice? text tag.span.start tag.span.stop = some ('<' :: '/' :: rest))
    ↔ tag.kind = .closing
  spelled : ∃ char behind,
    Text.slice? text tag.span.start tag.span.stop
      = some ('<' :: (if tag.kind = .closing then ['/'] else []) ++ tag.name ++ char :: behind)
    ∧ Lexeme.isNamePart char = false
    ∧ (char :: behind).getLast? = some '>'
  bare : tag.kind = .closing → tag.attributes = []

-----------------------------------------------------------------------------------------
-- The tags that a scan emits
-----------------------------------------------------------------------------------------

/-- A place lies in a text behind as many bytes as it says. -/
def Markup.Place.LiesIn (place : Place) (text : Text) : Prop :=
  ∃ before, text = before ++ place.rest ∧ place.offset = Text.byteSize before

namespace Markup

theorem Step.liesIn {text : Text} {place next : Place} {emitted : Option Tag}
    (step : Step place emitted next) (lies : place.LiesIn text)
    : next.LiesIn text := by
  obtain ⟨before, rfl, offset⟩ := lies
  obtain ⟨passed, -, split, same⟩ := step.passes
  refine ⟨before ++ passed, by rw [split, List.append_assoc], ?_⟩
  rw [same, Place.behind, offset, Text.byteSize_append]

theorem Step.offset_le {place next : Place} {emitted : Option Tag}
    (step : Step place emitted next)
    : place.offset ≤ next.offset := by
  obtain ⟨passed, -, -, same⟩ := step.passes
  rw [same]
  exact Nat.le_add_right _ _

/-- A step that emits a tag takes the lexeme at its place, and it leads behind that tag. -/
theorem Step.emits {place next : Place} {tag : Tag} (step : Step place (some tag) next)
    : ∃ lexeme : Lexeme,
        lexeme.AtFront place.rest ∧ tag = lexeme.tag place.offset
        ∧ tag.span.stop ≤ next.offset := by
  cases step with
  | @markup lexeme front content =>
      refine ⟨lexeme, front, rfl, ?_⟩
      simp [Place.behind, Lexeme.byteSize_written, Lexeme.tag]
  | @rawText lexeme name body rest front content split ends =>
      refine ⟨lexeme, front, rfl, ?_⟩
      simp only [Place.behind, Lexeme.tag, Text.byteSize_append, Lexeme.byteSize_written]
      omega

/-- Every tag of a scan stands in the text from its place on, by induction over the steps. -/
theorem Scan.standsIn {text : Text} {place : Place} {tags : List Tag} (scan : Scan place tags)
    (lies : place.LiesIn text)
    : ∀ tag ∈ tags, tag.StandsIn text ∧ place.offset ≤ tag.span.start := by
  induction scan with
  | finish _ => simp
  | @step place emitted next tags first _ ih =>
      intro tag member
      rcases List.mem_append.mp member with here | later
      · obtain rfl := Option.mem_toList.mp here
        obtain ⟨lexeme, front, rfl, -⟩ := first.emits
        obtain ⟨before, rfl, offset⟩ := lies
        exact ⟨⟨before, place.rest, lexeme, rfl, front, by rw [offset]⟩, Nat.le_refl _⟩
      · obtain ⟨stands, behind⟩ := ih (first.liesIn lies) tag later
        exact ⟨stands, Nat.le_trans first.offset_le behind⟩

/-- The tags of a scan follow one another without overlaps, by induction over the steps. -/
theorem Scan.ordered {text : Text} {place : Place} {tags : List Tag} (scan : Scan place tags)
    (lies : place.LiesIn text)
    : tags.Pairwise (fun first second => first.span.stop ≤ second.span.start) := by
  induction scan with
  | finish _ => exact List.Pairwise.nil
  | @step place emitted next tags first others ih =>
      have rest := ih (first.liesIn lies)
      cases emitted with
      | none => exact rest
      | some tag =>
          refine List.pairwise_cons.mpr ⟨fun later member => ?_, rest⟩
          obtain ⟨lexeme, -, -, stop⟩ := first.emits
          exact Nat.le_trans stop (others.standsIn (first.liesIn lies) later member).2

theorem Place.start_liesIn (text : Text) : (Place.start text).LiesIn text :=
  ⟨[], rfl, rfl⟩

/-- Every tag of a document stands in it. -/
theorem standsIn_of_mem_tokenize {text : Text} {tag : Tag} (member : tag ∈ tokenize text)
    : tag.StandsIn text :=
  ((scan_tokenize text).standsIn (Place.start_liesIn text) tag member).1

/-- The tags of a document follow one another without overlaps. -/
theorem tokenize_ordered (text : Text)
    : (tokenize text).Pairwise (fun first second => first.span.stop ≤ second.span.start) :=
  (scan_tokenize text).ordered (Place.start_liesIn text)

end Markup

-----------------------------------------------------------------------------------------
-- Tags that stand in a text are well formed
-----------------------------------------------------------------------------------------

namespace Lexeme

theorem byteSize_pos (lexeme : Lexeme) : 0 < lexeme.byteSize := by
  unfold byteSize
  split <;> omega

/-- The tag of a lexeme is a closing one exactly when it was written with a slash in front. -/
theorem kind_eq_closing_iff {lexeme : Lexeme} : lexeme.kind = .closing ↔ lexeme.closing := by
  unfold kind
  split
  · next closing => simp [closing]
  · next notClosing =>
      split <;> simp [notClosing]

/-- A slash behind the `<` of a lexeme is the mark of a closing one, since names begin with a
letter.
-/
theorem written_eq_slash_iff {lexeme : Lexeme} (name : IsName lexeme.name)
    : (∃ rest, lexeme.written = '<' :: '/' :: rest) ↔ lexeme.closing := by
  obtain ⟨first, others, split, letter⟩ := name.eq_cons
  cases closing : lexeme.closing with
  | true => simp [written, closing]
  | false =>
      have notSlash := ne_slash_of_isAlpha letter
      simp [written, closing, split, notSlash]

/-- Behind the name of a lexeme at the front of a text stands a character that continues no name,
and the last character is its `>`.
-/
theorem AtFront.written_split {lexeme : Lexeme} {text : Text} (front : lexeme.AtFront text)
    : ∃ char behind,
        lexeme.written
          = '<' :: (if lexeme.closing then ['/'] else []) ++ lexeme.name ++ char :: behind
        ∧ isNamePart char = false
        ∧ (char :: behind).getLast? = some '>' := by
  have ends := longest_concat front.longest []
  cases tail : lexeme.attributes ++ ['>'] with
  | nil => simp at tail
  | cons char behind =>
      rw [tail] at ends
      refine ⟨char, behind, ?_, ends char rfl, ?_⟩
      · rw [← tail, written, List.append_assoc _ lexeme.attributes]
      · rw [← tail, List.getLast?_concat]

end Lexeme

namespace Tag.StandsIn

/-- The parts of a text around a tag that stands in it. -/
theorem split {tag : Tag} {text : Text} (stands : tag.StandsIn text)
    : ∃ before, ∃ lexeme : Lexeme,
        text = before ++ (lexeme.written ++ lexeme.rest)
        ∧ lexeme.AtFront (lexeme.written ++ lexeme.rest)
        ∧ tag = lexeme.tag (Text.byteSize before) := by
  obtain ⟨before, after, lexeme, rfl, front, rfl⟩ := stands
  have whole := front.text_eq
  subst whole
  exact ⟨before, lexeme, rfl, front, rfl⟩

theorem span_liesIn {tag : Tag} {text : Text} (stands : tag.StandsIn text)
    : tag.span.LiesIn text := by
  obtain ⟨before, lexeme, rfl, -, rfl⟩ := stands.split
  have lies := Span.LiesIn.of_append before lexeme.written lexeme.rest
  rwa [Lexeme.byteSize_written] at lies

theorem slice?_eq (before rest : Text) (lexeme : Lexeme)
    : Text.slice? (before ++ (lexeme.written ++ rest)) (Text.byteSize before)
        (Text.byteSize before + lexeme.byteSize)
      = some lexeme.written := by
  rw [← Lexeme.byteSize_written, Text.slice?_append]

/-- A tag that stands in a text is well formed there. -/
theorem wellFormedIn {tag : Tag} {text : Text} (stands : tag.StandsIn text)
    : tag.WellFormedIn text := by
  have lies := stands.span_liesIn
  obtain ⟨before, lexeme, rfl, front, rfl⟩ := stands.split
  have slice : Text.slice? _ (lexeme.tag (Text.byteSize before)).span.start
      (lexeme.tag (Text.byteSize before)).span.stop = _ :=
    slice?_eq before lexeme.rest lexeme
  have kind : (lexeme.tag (Text.byteSize before)).kind = .closing ↔ lexeme.closing :=
    Lexeme.kind_eq_closing_iff
  refine {
    nonempty := Nat.lt_add_of_pos_right lexeme.byteSize_pos
    inside := lies.stop.le_byteSize
    boundaries := ⟨lies.start, lies.stop⟩
    slash := ?_
    spelled := ?_
    bare := ?_
  }
  · rw [slice, kind, ← Lexeme.written_eq_slash_iff front.name]
    simp only [Option.some.injEq]
  · obtain ⟨char, behind, written, ends, last⟩ := front.written_split
    refine ⟨char, behind, ?_, ends, last⟩
    rw [slice, written]
    simp only [kind]
    rfl
  · intro closing
    simp [Lexeme.tag, Lexeme.kind_eq_closing_iff.mp closing]

end Tag.StandsIn

end PageAudit
