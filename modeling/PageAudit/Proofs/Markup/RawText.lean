import PageAudit.Proofs.Markup.TagStream

/-! What follows the opening tag of an element whose content is no markup. The search for tags
goes on at the first `</` with the name of the element behind it, in any case, whatever follows
that name. The next tag is the end of the element only when the name ends there and the tag is a
whole one.
-/

namespace PageAudit

/-- (moved distance tag) is a tag that stands further on by some bytes. -/
def Tag.moved (distance : Nat) (tag : Tag) : Tag :=
  { tag with span := { start := distance + tag.span.start, stop := distance + tag.span.stop } }

/-- Moving tags changes nothing about whether the first one closes an element. -/
theorem closes_head?_moved (distance : Nat) (tags : List Tag) (name : Text)
    : (tags.map (·.moved distance)).head?.any (·.closes name) = tags.head?.any (·.closes name) := by
  cases tags <;> rfl

theorem Lexeme.tag_moved (lexeme : Lexeme) (distance start : Nat)
    : lexeme.tag (distance + start) = (lexeme.tag start).moved distance := by
  simp [Lexeme.tag, Tag.moved, Nat.add_assoc]

namespace Markup

open Text (Until)

/-- (EndTagAtFront name text) says that a closing tag of a name stands at the front of a text. -/
def EndTagAtFront (name text : Text) : Prop :=
  ∃ lexeme : Lexeme,
    lexeme.AtFront text ∧ lexeme.closing ∧ Text.sameLetters lexeme.name name

-----------------------------------------------------------------------------------------
-- Scans of a text that stands further on
-----------------------------------------------------------------------------------------

/-- (moved distance place) is the same text, further on by some bytes. -/
def Place.moved (distance : Nat) (place : Place) : Place :=
  { place with offset := distance + place.offset }

theorem Place.behind_moved (distance : Nat) (place : Place) (passed rest : Text)
    : (place.moved distance).behind passed rest = (place.behind passed rest).moved distance := by
  simp [Place.behind, Place.moved, Nat.add_assoc]

/-- The scanner takes the same step wherever a text stands. -/
theorem Step.moved {place next : Place} {emitted : Option Tag} (step : Step place emitted next)
    (distance : Nat)
    : Step (place.moved distance) (emitted.map (·.moved distance)) (next.moved distance) := by
  cases step with
  | comment opens ends =>
      rw [← Place.behind_moved]
      exact .comment opens ends
  | markup front content =>
      rw [← Place.behind_moved, Option.map_some, ← Lexeme.tag_moved]
      exact .markup front content
  | rawText front content split ends =>
      rw [← Place.behind_moved, Option.map_some, ← Lexeme.tag_moved]
      exact .rawText front content split ends
  | character here noComment noTag =>
      rw [← Place.behind_moved]
      exact .character here noComment noTag

/-- The tags of a text that stands further on are its tags, each moved on, by induction over the
steps.
-/
theorem Scan.moved {place : Place} {tags : List Tag} (scan : Scan place tags) (distance : Nat)
    : Scan (place.moved distance) (tags.map (·.moved distance)) := by
  induction scan with
  | finish atEnd => exact .finish atEnd
  | @step place emitted next tags first _ ih =>
      have whole := Scan.step (first.moved distance) ih
      cases emitted <;> exact whole

/-- From each place the scanner emits the tags of the text from there on as of a document. -/
theorem Scan.eq_map_tokenize {place : Place} {tags : List Tag} (scan : Scan place tags)
    : tags = (tokenize place.rest).map (·.moved place.offset) := by
  have moved := (scan_tokenize place.rest).moved place.offset
  exact scan.unique moved

/-- From the place behind a part of a document the scanner emits the tags of the rest, moved on. -/
theorem scan_behind (passed rest : Text)
    : Scan ((Place.start (passed ++ rest)).behind passed rest)
        ((tokenize rest).map (·.moved (Text.byteSize passed))) := by
  have scan := (scan_tokenize rest).moved (Text.byteSize passed)
  have place : (Place.start rest).moved (Text.byteSize passed)
      = (Place.start (passed ++ rest)).behind passed rest := by
    simp [Place.moved, Place.behind, Place.start]
  rwa [place] at scan

/-- A tag that a scan emits is emitted by one of its steps, and the tags behind it are those of the
text behind that step, by induction over the steps.
-/
theorem Scan.of_getElem? {text : Text} {place : Place} {tags : List Tag} {index : Nat} {tag : Tag}
    (scan : Scan place tags) (lies : place.LiesIn text) (here : tags[index]? = some tag)
    : ∃ before next : Place,
        before.LiesIn text
        ∧ Step before (some tag) next
        ∧ tags.drop (index + 1) = (tokenize next.rest).map (·.moved next.offset) := by
  induction scan generalizing index with
  | finish _ => cases here
  | @step place emitted next tags first others ih =>
      have later := first.liesIn lies
      cases emitted with
      | none => exact ih later here
      | some emitted =>
          cases index with
          | zero =>
              obtain rfl := Option.some.inj here
              exact ⟨place, next, lies, first, others.eq_map_tokenize⟩
          | succ index => exact ih later here

-----------------------------------------------------------------------------------------
-- The end of an element with raw text
-----------------------------------------------------------------------------------------

/-- The ends of an element do not depend on the case of its name. -/
theorem endsElement_congr {name other : Text} (same : Text.sameLetters name other)
    : EndsElement name = EndsElement other := by
  have letters : Text.lower name = Text.lower other := beq_iff_eq.mp same
  funext text
  simp only [EndsElement, Text.sameLetters, letters]

/-- Where a tag stands, the first tag that is found is that one. -/
theorem head?_tokenize {text : Text} {lexeme : Lexeme} (front : lexeme.AtFront text)
    : (tokenize text).head? = some (lexeme.tag 0) := by
  have here : lexeme.AtFront (Place.start text).rest := front
  have scan := scan_tokenize text
  generalize tokenize text = tags at scan
  have step := step_afterTag here
  cases scan with
  | finish atEnd => exact absurd atEnd step.rest_ne_nil
  | step first others =>
      obtain ⟨rfl, -⟩ := step.unique first
      rfl

/-- Where neither a comment nor a tag opens, the tags are those behind the first character. -/
theorem tokenize_cons {char : Char} {rest : Text} (noComment : ¬ OpensComment (char :: rest))
    (noTag : ¬ OpensTag (char :: rest))
    : tokenize (char :: rest) = (tokenize rest).map (·.moved char.utf8Size) := by
  have first : Step (Place.start (char :: rest)) none
      ((Place.start (char :: rest)).behind [char] rest) :=
    .character rfl noComment noTag
  have others := scan_behind [char] rest
  rw [Text.byteSize_cons, Text.byteSize_nil, Nat.add_zero] at others
  exact (scan_tokenize _).unique (.step first others)

/-- Where the name of an element stands behind `</`, the first tag that is found from there on
closes the element when it stands at that place as its end tag. When no tag stands there, the
first tag behind that place decides.
-/
theorem head?_tokenize_of_endsElement {name rest : Text} (ends : EndsElement name rest)
    : (tokenize rest).head?.any (·.closes name)
      ↔ EndTagAtFront name rest
        ∨ ¬ OpensTag rest ∧ (tokenize rest.tail).head?.any (·.closes name) := by
  by_cases opens : OpensTag rest
  · obtain ⟨lexeme, fits⟩ := opens
    obtain ⟨whole, front, -⟩ := fits.exists_atFront
    have closes : (whole.tag 0).closes name ↔ whole.closing ∧ Text.sameLetters whole.name name := by
      simp [Tag.closes, Tag.hasName, Lexeme.tag, Lexeme.kind_eq_closing_iff]
    have other : ¬ ¬ OpensTag rest := fun none => none ⟨lexeme, fits⟩
    rw [head?_tokenize front, Option.any_some, closes]
    constructor
    · rintro ⟨closing, same⟩
      exact .inl ⟨whole, front, closing, same⟩
    · rintro (⟨found, here, closing, same⟩ | ⟨none, -⟩)
      · obtain rfl := front.unique here
        exact ⟨closing, same⟩
      · exact absurd none other
  · obtain ⟨spelling, behind, rfl, same⟩ := ends
    have notFront : ¬ EndTagAtFront name ('<' :: '/' :: (spelling ++ behind)) := by
      rintro ⟨lexeme, front, -⟩
      exact opens ⟨lexeme, front.toFits⟩
    have noComment : ¬ OpensComment ('<' :: '/' :: (spelling ++ behind)) := by
      simp [OpensComment]
    rw [tokenize_cons noComment opens, closes_head?_moved]
    simp [notFront, opens]

/-- The tags behind the opening tag of an element whose content is no markup are those of the text
from the first `</` with its name on, as a document of its own. The next tag closes the element
when it stands there as a whole and its name goes no further, and else when no tag stands there
and the next one behind happens to close it.
-/
theorem tokenize_behind_rawText {text : Text} {index : Nat} {tag : Tag} {element : Text}
    (here : (tokenize text)[index]? = some tag) (opening : tag.kind = .opening)
    (known : element ∈ rawTextElements) (named : tag.hasName element)
    : ∃ before content rest,
        text = before ++ (content ++ rest)
        ∧ Text.byteSize before = tag.span.stop
        ∧ Until (EndsElement tag.name) content rest
        ∧ (tokenize text).drop (index + 1)
          = (tokenize rest).map (·.moved (Text.byteSize (before ++ content)))
        ∧ ∀ next,
            (tokenize text)[index + 1]? = some next
            → (next.closes tag.name
              ↔ EndTagAtFront tag.name rest
                ∨ ¬ OpensTag rest ∧ (tokenize rest.tail).head?.any (·.closes tag.name)) := by
  have start := Place.start_liesIn text
  obtain ⟨place, later, lies, step, others⟩ := (scan_tokenize text).of_getElem? start here
  obtain ⟨front, split, offset⟩ := lies
  cases step with
  | markup atFront content => exact absurd ⟨opening, known, named⟩ (content element)
  | @rawText lexeme name content rest atFront begins behind ends =>
      have letters : Text.sameLetters name lexeme.name := by
        have same := begins.named
        rw [Text.sameLetters, beq_iff_eq] at same ⊢
        exact same.symm
      rw [endsElement_congr letters] at ends
      have size
          : Text.byteSize (front ++ lexeme.written) = (lexeme.tag place.offset).span.stop := by
        rw [Text.byteSize_append, ← offset, Lexeme.byteSize_written]
        rfl
      refine ⟨front ++ lexeme.written, content, rest, ?_, size, ends, ?_, ?_⟩
      · rw [split, atFront.text_eq, behind, List.append_assoc]
      · rw [others]
        simp [Place.behind, offset]
      · intro next found
        have first := congrArg List.head? others
        rw [List.head?_drop, found] at first
        have closes
            : (tokenize rest).head?.any (·.closes lexeme.name) = next.closes lexeme.name := by
          rw [← closes_head?_moved]
          exact congrArg (Option.any (·.closes lexeme.name)) first.symm
        have begins : EndsElement lexeme.name rest := by
          cases ends with
          | found here _ => exact here
          | nowhere _ => cases first
        exact closes ▸ head?_tokenize_of_endsElement begins

/-- A tag in the content of a script stays out of the stream, and the end tag may be in capitals. -/
theorem tokenize_behind_script
    : let text : Text := "<script>'<b>'</SCRIPT >"
      let tag : Tag :=
        { kind := .opening, name := "script", span := { start := 0, stop := 8 }, attributes := [] }
      (tokenize text)[0]? = some tag
      ∧ tag.kind = .opening
      ∧ "script".toList ∈ rawTextElements
      ∧ tag.hasName "script"
      ∧ ∃ before content rest,
          text = before ++ (content ++ rest)
          ∧ Text.byteSize before = 8
          ∧ Until (EndsElement "script".toList) content rest
          ∧ (tokenize text).drop 1
            = (tokenize rest).map (·.moved (Text.byteSize (before ++ content))) := by
  intro text tag
  have here : (tokenize text)[0]? = some tag := by decide +kernel
  have known : "script".toList ∈ rawTextElements := by decide
  have named : tag.hasName "script" := by decide
  obtain ⟨before, content, rest, split, size, ends, behind, -⟩ :=
    tokenize_behind_rawText here rfl known named
  exact ⟨here, rfl, known, named, before, content, rest, split, size, ends, behind⟩

/-- A longer name in the content of a script is taken for the end of the script. -/
theorem tokenize_behind_script_longer_name
    : let text : Text := "<script>'</scripts>'</script>"
      let tag : Tag :=
        { kind := .opening, name := "script", span := { start := 0, stop := 8 }, attributes := [] }
      let next : Tag :=
        { kind := .closing, name := "scripts", span := { start := 9, stop := 19 },
          attributes := [] }
      (tokenize text)[0]? = some tag
      ∧ (tokenize text)[1]? = some next
      ∧ next.closes tag.name = false := by
  decide +kernel

/-- An end tag of a script that is no whole tag lets the next tag be read as markup. -/
example
    : (tokenize "<script></script \"<b>".toList)[1]?
      = some { kind := .opening, name := "b", span := { start := 18, stop := 21 },
               attributes := [] } := by
  decide +kernel

end Markup

end PageAudit
