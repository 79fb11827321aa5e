import PageAudit.Proofs.Markup.Place

/-! A plain scanner, which looks at one place of a document after the other. It remembers
nothing but its place: where a comment opens it goes behind the comment, where a tag stands it
takes the tag, and elsewhere it goes on by one character.
-/

namespace PageAudit.Markup

open Text (Clear Until)

/-- A comment opens at the front of a text. -/
def OpensComment (text : Text) : Prop :=
  "<!--".toList <+: text

/-- A comment ends at the front of a text. -/
def EndsComment (text : Text) : Prop :=
  "-->".toList <+: text

/-- (EndsElement name text) says that `text` begins with `</` and `name` in any case. -/
def EndsElement (name text : Text) : Prop :=
  ∃ spelling rest, text = '<' :: '/' :: (spelling ++ rest) ∧ Text.sameLetters spelling name

/-- (BeginsRawText lexeme name) says that the content of an element is no markup: the lexeme opens
the element `name`, which is a script or a style.
-/
structure BeginsRawText (lexeme : Lexeme) (name : Text) : Prop where
  opening : lexeme.kind = .opening
  element : name ∈ rawTextElements
  named : Text.sameLetters lexeme.name name

/-- (Step place emitted next) is one step of the plain scanner, which goes from `place` to `next`
and may emit a tag.
-/
inductive Step : Place → Option Tag → Place → Prop where
  | comment {place body rest} (opens : place.rest = "<!--".toList ++ (body ++ rest))
    (ends : Until EndsComment body rest)
    : Step place none (place.behind ("<!--".toList ++ (body ++ rest.take 3)) (rest.drop 3))
  | markup {place lexeme} (front : lexeme.AtFront place.rest)
    (content : ∀ name, ¬ BeginsRawText lexeme name)
    : Step place (some (lexeme.tag place.offset)) (place.behind lexeme.written lexeme.rest)
  | rawText {place lexeme name body rest} (front : lexeme.AtFront place.rest)
    (content : BeginsRawText lexeme name) (split : lexeme.rest = body ++ rest)
    (ends : Until (EndsElement name) body rest)
    : Step place (some (lexeme.tag place.offset)) (place.behind (lexeme.written ++ body) rest)
  | character {place char rest} (here : place.rest = char :: rest)
    (noComment : ¬ OpensComment place.rest) (noTag : ¬ OpensTag place.rest)
    : Step place none (place.behind [char] rest)

/-- (Scan place tags) says that the plain scanner goes from `place` to the end of the text in
finitely many steps and emits `tags` on its way.
-/
inductive Scan : Place → List Tag → Prop where
  | finish {place} (atEnd : place.rest = []) : Scan place []
  | step {place emitted next tags} (first : Step place emitted next) (others : Scan next tags)
    : Scan place (emitted.toList ++ tags)

-----------------------------------------------------------------------------------------
-- One step
-----------------------------------------------------------------------------------------

/-- No tag opens where a comment does, since its name would begin with a letter. -/
theorem OpensComment.not_opensTag {text : Text} (opens : OpensComment text)
    : ¬ OpensTag text := by
  rintro ⟨lexeme, rfl, name, -⟩
  obtain ⟨first, others, split, letter⟩ := name.eq_cons
  obtain ⟨rest, same⟩ := opens
  cases closing : lexeme.closing <;> simp [Lexeme.written, closing, split] at same
  obtain ⟨rfl, -⟩ := same
  exact absurd letter (by decide)

theorem not_endsComment_nil : ¬ EndsComment [] := by
  simp [EndsComment]

theorem not_endsElement_nil (name : Text) : ¬ EndsElement name [] := by
  rintro ⟨spelling, rest, same, -⟩
  cases same

/-- The names of two elements with raw text are the same in any case only when they are equal. -/
theorem BeginsRawText.unique {lexeme : Lexeme} {first second : Text}
    (begins : BeginsRawText lexeme first) (also : BeginsRawText lexeme second)
    : first = second := by
  have letters : Text.lower first = Text.lower second :=
    (beq_iff_eq.mp begins.named).symm.trans (beq_iff_eq.mp also.named)
  have lower : ∀ name ∈ rawTextElements, Text.lower name = name := by decide
  rwa [lower first begins.element, lower second also.element] at letters

/-- A step passes at least one character. -/
theorem Step.passes {place next : Place} {emitted : Option Tag} (step : Step place emitted next)
    : ∃ passed, passed ≠ [] ∧ place.rest = passed ++ next.rest
        ∧ next = place.behind passed next.rest := by
  cases step with
  | @comment body rest opens ends =>
      refine ⟨_, by simp, ?_, rfl⟩
      simp [opens, Place.behind]
  | markup front content => exact ⟨_, by simp [Lexeme.written], front.text_eq, rfl⟩
  | rawText front content split ends =>
      refine ⟨_, by simp [Lexeme.written], ?_, rfl⟩
      rw [front.text_eq, split, List.append_assoc]
      rfl
  | character here noComment noTag => exact ⟨_, by simp, here, rfl⟩

theorem Step.length_rest_lt {place next : Place} {emitted : Option Tag}
    (step : Step place emitted next)
    : next.rest.length < place.rest.length := by
  obtain ⟨passed, nonempty, split, -⟩ := step.passes
  have positive := List.length_pos_iff.mpr nonempty
  rw [split, List.length_append]
  omega

/-- From each place there is at most one step. -/
theorem Step.unique {place next other : Place} {emitted also : Option Tag}
    (step : Step place emitted next) (second : Step place also other)
    : emitted = also ∧ next = other := by
  cases step with
  | @comment body rest opens ends =>
      have comment : OpensComment place.rest := ⟨_, opens.symm⟩
      cases second with
      | comment opens' ends' =>
          have same := List.append_cancel_left (opens.symm.trans opens')
          obtain ⟨rfl, rfl⟩ := ends.eq_of_append_eq same not_endsComment_nil ends'
          exact ⟨rfl, rfl⟩
      | markup front _ => exact absurd ⟨_, front.toFits⟩ comment.not_opensTag
      | rawText front _ _ _ => exact absurd ⟨_, front.toFits⟩ comment.not_opensTag
      | character _ noComment _ => exact absurd comment noComment
  | markup front content =>
      cases second with
      | comment opens _ =>
          have comment : OpensComment place.rest := ⟨_, opens.symm⟩
          exact absurd ⟨_, front.toFits⟩ comment.not_opensTag
      | markup front' _ =>
          obtain rfl := front.unique front'
          exact ⟨rfl, rfl⟩
      | rawText front' content' _ _ =>
          obtain rfl := front.unique front'
          exact absurd content' (content _)
      | character _ _ noTag => exact absurd ⟨_, front.toFits⟩ noTag
  | @rawText _ name _ _ front content split ends =>
      cases second with
      | comment opens _ =>
          have comment : OpensComment place.rest := ⟨_, opens.symm⟩
          exact absurd ⟨_, front.toFits⟩ comment.not_opensTag
      | markup front' content' =>
          obtain rfl := front.unique front'
          exact absurd content (content' _)
      | rawText front' content' split' ends' =>
          obtain rfl := front.unique front'
          obtain rfl := content.unique content'
          have same := split.symm.trans split'
          obtain ⟨rfl, rfl⟩ := ends.eq_of_append_eq same (not_endsElement_nil name) ends'
          exact ⟨rfl, rfl⟩
      | character _ _ noTag => exact absurd ⟨_, front.toFits⟩ noTag
  | character here noComment noTag =>
      cases second with
      | comment opens _ => exact absurd ⟨_, opens.symm⟩ noComment
      | markup front _ => exact absurd ⟨_, front.toFits⟩ noTag
      | rawText front _ _ _ => exact absurd ⟨_, front.toFits⟩ noTag
      | character here' _ _ =>
          obtain ⟨rfl, rfl⟩ := List.cons.inj (here.symm.trans here')
          exact ⟨rfl, rfl⟩

/-- There is no step from the end of a text. -/
theorem Step.rest_ne_nil {place next : Place} {emitted : Option Tag}
    (step : Step place emitted next)
    : place.rest ≠ [] := by
  obtain ⟨passed, nonempty, split, -⟩ := step.passes
  rw [split]
  exact fun empty => nonempty (List.append_eq_nil_iff.mp empty).1

-----------------------------------------------------------------------------------------
-- Whole scans
-----------------------------------------------------------------------------------------

/-- From each place there is at most one scan, by induction over its steps. -/
theorem Scan.unique {place : Place} {tags others : List Tag} (scan : Scan place tags)
    (second : Scan place others)
    : tags = others := by
  induction scan generalizing others with
  | finish atEnd =>
      cases second with
      | finish _ => rfl
      | step first _ => exact absurd atEnd first.rest_ne_nil
  | step first _ ih =>
      cases second with
      | finish atEnd => exact absurd atEnd first.rest_ne_nil
      | step first' rest' =>
          obtain ⟨rfl, rfl⟩ := first.unique first'
          rw [ih rest']

/-- The scanner goes on over characters at which neither a comment nor a tag opens. -/
theorem Scan.skip {place : Place} {skipped rest : Text} {tags : List Tag}
    (split : place.rest = skipped ++ rest) (noComment : Clear OpensComment skipped rest)
    (noTag : Clear OpensTag skipped rest)
    (scan : Scan (place.behind skipped rest) tags)
    : Scan place tags := by
  induction skipped generalizing place with
  | nil =>
      rw [List.nil_append] at split
      rw [← split] at scan
      exact scan
  | cons char skipped ih =>
      rw [Text.clear_cons] at noComment noTag
      have here : Step place none (place.behind [char] (skipped ++ rest)) := by
        refine .character split ?_ ?_
        · rw [split]
          exact noComment.1
        · rw [split]
          exact noTag.1
      refine .step here (ih rfl noComment.2 noTag.2 ?_)
      rw [Place.behind_behind]
      exact scan

/-- Where no tag opens the scanner reaches the end without one. Witness: each of its steps is one
behind a comment or behind a character, by induction on the number of characters.
-/
theorem scan_nil_of_noTag (place : Place) (noTag : Clear OpensTag place.rest [])
    : Scan place [] := by
  by_cases atEnd : place.rest = []
  · exact .finish atEnd
  · obtain ⟨next, step⟩ : ∃ next, Step place none next := by
      by_cases opens : OpensComment place.rest
      · obtain ⟨text, split⟩ := opens
        obtain ⟨body, rest, rfl, ends⟩ := Text.exists_until EndsComment text
        exact ⟨_, .comment split.symm ends⟩
      · cases here : place.rest with
        | nil => exact absurd here atEnd
        | cons char rest =>
            have notHere := noTag place.rest List.suffix_rfl atEnd
            rw [List.append_nil] at notHere
            exact ⟨_, .character here opens notHere⟩
    obtain ⟨passed, nonempty, split, -⟩ := step.passes
    have shorter := step.length_rest_lt
    rw [split] at noTag
    exact .step step (scan_nil_of_noTag next (Text.clear_append.mp noTag).2)
termination_by place.rest.length

end PageAudit.Markup
