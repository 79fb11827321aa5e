import PageAudit.Proofs.Audit.Occurrence
import PageAudit.Proofs.Markup.Document
import PageAudit.Proofs.Markup.Interpolation

/-! What an audit reports about titles: how long the title of a head may be, when a title is
missing, and which titles with an expression in braces are measured.
-/

namespace PageAudit

-----------------------------------------------------------------------------------------
-- A missing title
-----------------------------------------------------------------------------------------

/-- A text holds no marker when none that is not empty stands within it. -/
theorem holdsMarker_eq_false_iff {markers : List Text} {text : Text}
    : holdsMarker markers text = false ↔ ∀ marker ∈ markers, marker ≠ [] → ¬ marker <:+: text := by
  simp [holdsMarker, ← Bool.not_eq_true, Expression.contains_iff]

/-- A path names no component when its extension is none of these, in any case. -/
theorem Path.isComponent_eq_false_iff {path : Text}
    : isComponent path = false
      ↔ ∀ extension ∈ extension? path,
          Text.lower extension ∉ (["jsx", "tsx", "vue", "svelte", "astro"] : List Text) := by
  cases found : extension? path <;>
    simp [isComponent, hasExtensionIn, componentExtensions, found]

namespace Rule

variable {page : Page}

theorem titleElement?_isSome_iff
    : (titleElement? page).isSome ↔ ∃ tag ∈ page.tags, tag.opens "title" := by
  rw [titleElement?, Option.isSome_map]
  constructor
  · intro found
    obtain ⟨⟨opening, following⟩, behind⟩ := Option.isSome_iff_exists.mp found
    obtain ⟨front, split, opens, -⟩ := of_behindTitle?_eq_some behind
    exact ⟨opening, by simp [split], opens⟩
  · intro opened
    obtain ⟨tag, member, opens⟩ := opened
    exact isSome_behindTitle? member opens

theorem exists_code_titleMissing
    : (∃ finding ∈ titleMissing page, finding.code = "SEO_TITLE_MISSING".toList)
      ↔ page.hasHead ∧ page.shape.headManaged = false ∧ page.shape.component = false := by
  unfold titleMissing
  split
  · next reported => simpa [and_assoc] using reported
  · next silent => simpa [and_assoc] using silent

/-- A missing title is reported where no tag opens one, unless something excuses the page. -/
theorem exists_missing_title_iff
    : (∃ finding ∈ title.evaluate page, finding.code = "SEO_TITLE_MISSING".toList)
      ↔ (∀ tag ∈ page.tags, ¬ tag.opens "title")
        ∧ page.hasHead
        ∧ page.shape.headManaged = false
        ∧ page.shape.component = false := by
  unfold title
  dsimp only
  cases found : titleElement? page with
  | some element =>
      obtain ⟨tag, member, opens⟩ := titleElement?_isSome_iff.mp (Option.isSome_of_eq_some found)
      refine iff_of_false ?_ fun none => none.1 tag member opens
      rintro ⟨finding, reported, code⟩
      have length := congrArg Kind.code (kind_of_mem_titleLength reported)
      exact absurd (length.symm.trans code) (by decide)
  | none =>
      have untitled : ∀ tag ∈ page.tags, ¬ tag.opens "title" := by
        intro tag member opens
        have some := titleElement?_isSome_iff.mpr ⟨tag, member, opens⟩
        rw [found] at some
        cases some
      rw [and_iff_right untitled]
      exact exists_code_titleMissing

end Rule

namespace Auditor

open Markup (tokenize)

variable {policy : Policy} {tables : Tables} {fileName text : Text}

/-- Whether a missing title is reported is a question about the tags, the markers of the policy and
the name of the file.
-/
theorem reports_titleMissing_iff
    : (full policy tables).Reports fileName text "SEO_TITLE_MISSING"
      ↔ (∀ tag ∈ tokenize text, ¬ tag.opens "title")
        ∧ (∃ tag ∈ tokenize text, tag.opensHead)
        ∧ (∀ marker ∈ policy.headMarkers, marker ≠ [] → ¬ marker <:+: text)
        ∧ ∀ extension ∈ Path.extension? fileName,
            Text.lower extension ∉ (["jsx", "tsx", "vue", "svelte", "astro"] : List Text) := by
  have listed : Rule.title ∈ Rule.all := by simp [Rule.all]
  rw [reports_full_iff listed (.tail _ (.head _)), Rule.exists_missing_title_iff,
    ← holdsMarker_eq_false_iff, ← Path.isComponent_eq_false_iff]
  exact and_congr_right fun _ => and_congr_left fun _ => Head.isSome_locate?_iff

end Auditor

-----------------------------------------------------------------------------------------
-- A head with a title
-----------------------------------------------------------------------------------------

namespace Markup

/-- The element of a title. -/
def writtenTitle (content : Text) : Text :=
  "<title>".toList ++ (content ++ "</title>".toList)

/-- A document that is a head with a title. -/
def titledHead (content : Text) : Text :=
  "<head>".toList ++ (writtenTitle content ++ "</head>".toList)

/-- The span of the title in such a document. -/
def titleSpan (content : Text) : Span :=
  { start := 6, stop := 6 + Text.byteSize (writtenTitle content) }

variable {content : Text}

theorem titleSpan_liesIn : (titleSpan content).LiesIn (titledHead content) := by
  have size : Text.byteSize "<head>".toList = 6 := by decide
  have lies := Span.LiesIn.of_append "<head>".toList (writtenTitle content) "</head>".toList
  rw [size] at lies
  exact lies

theorem slice?_titleSpan
    : Text.slice? (titledHead content) (titleSpan content).start (titleSpan content).stop
      = some (writtenTitle content) := by
  have size : Text.byteSize "<head>".toList = 6 := by decide
  have slice := Text.slice?_append "<head>".toList (writtenTitle content) "</head>".toList
  rwa [size] at slice

/-- The content of a title stands between its tags. -/
theorem slice?_content
    : Text.slice? (titledHead content) 13 (13 + Text.byteSize content) = some content := by
  have size : Text.byteSize "<head><title>".toList = 13 := by decide
  have split : titledHead content
      = "<head><title>".toList ++ (content ++ "</title></head>".toList) := by
    unfold titledHead writtenTitle
    rw [List.append_assoc, List.append_assoc]
    rfl
  have slice := Text.slice?_append "<head><title>".toList content "</title></head>".toList
  rwa [size, ← split] at slice

/-- A title spans from where its opening tag starts to where its closing tag stops. -/
theorem between_titleSpan
    : Span.between 6 (closingTagAt (13 + Text.byteSize content) "title").span.stop
      = titleSpan content := by
  have title : Text.byteSize "<title>".toList = 7 := by decide
  have ending : Text.byteSize "</title>".toList = 8 := by decide
  have closing : Text.byteSize (writtenClosing "title") = 8 := by decide
  have size : Text.byteSize (writtenTitle content) = 7 + (Text.byteSize content + 8) := by
    unfold writtenTitle
    rw [Text.byteSize_append, Text.byteSize_append, title, ending]
  have stop : 13 + Text.byteSize content + 8 = 6 + Text.byteSize (writtenTitle content) := by
    omega
  rw [closingTagAt, closing, stop]
  exact congrArg (Span.mk 6) (Nat.max_eq_right (Nat.le_add_right 6 _))

/-- The tags of a head with a title are the two around the title and the two around the head. -/
theorem tokenize_titledHead (plain : '<' ∉ content)
    : tokenize (titledHead content)
      = [openingTagAt 0 "head" [] false, openingTagAt 6 "title" [] false,
          closingTagAt (13 + Text.byteSize content) "title",
          closingTagAt (21 + Text.byteSize content) "head"] := by
  let pieces : List Piece :=
    [.opening "head" [] (by decide) (by decide), .opening "title" [] (by decide) (by decide),
      .text content plain, .closing "title" (by decide), .closing "head" (by decide)]
  have written : Piece.writtenAll pieces = titledHead content := by
    unfold titledHead writtenTitle
    rw [List.append_assoc, List.append_assoc]
    rfl
  have head : Text.byteSize (writtenOpening "head" [] false) = 6 := by decide
  have title : Text.byteSize (writtenOpening "title" [] false) = 7 := by decide
  have ending : Text.byteSize (writtenClosing "title") = 8 := by decide
  rw [← written, tokenize_writtenAll]
  simp only [pieces, Piece.allTagsAt, Piece.tagsAt, Piece.written, head, title, ending,
    List.cons_append, List.nil_append, List.append_nil, Nat.zero_add]
  rw [Nat.add_right_comm 13]

end Markup

open Markup (tokenize writtenTitle titledHead titleSpan)

/-- (policy.TitleOutOfRange content) says that the text of a title has fewer or more characters than
a policy allows, without the blanks around it.
-/
def Policy.TitleOutOfRange (policy : Policy) (content : Text) : Prop :=
  (Text.trim content).length < policy.titleMin ∨ policy.titleMax < (Text.trim content).length

instance (policy : Policy) (content : Text) : Decidable (policy.TitleOutOfRange content) :=
  inferInstanceAs
    (Decidable (policy.titleMin > (Text.trim content).length
      ∨ policy.titleMax < (Text.trim content).length))

namespace Rule

variable {policy : Policy} {tables : Tables} {fileName content : Text}

/-- The title of such a page is what was written between its tags. -/
theorem titleElement?_titledHead (plain : '<' ∉ content)
    : titleElement? (Page.ofText policy tables fileName (titledHead content))
      = some { text := content, span := titleSpan content } := by
  let opening := Markup.openingTagAt 6 "title" [] false
  let closing := Markup.closingTagAt (13 + Text.byteSize content) "title"
  let closingHead := Markup.closingTagAt (21 + Text.byteSize content) "head"
  have tags : (Page.ofText policy tables fileName (titledHead content)).tags
      = [Markup.openingTagAt 0 "head" [] false, opening, closing, closingHead] :=
    Markup.tokenize_titledHead plain
  have behind : behindTitle? [Markup.openingTagAt 0 "head" [] false, opening, closing, closingHead]
      = some (opening, [closing, closingHead]) := rfl
  have first : [closing, closingHead].find? (·.closes opening.name) = some closing := rfl
  have start : opening.span.stop = 13 := by decide
  have text
      : Text.slice? (Page.ofText policy tables fileName (titledHead content)).text 13
          closing.span.start
        = some content :=
    Markup.slice?_content
  have span : Span.between opening.span.start closing.span.stop = titleSpan content :=
    Markup.between_titleSpan
  rw [titleElement?, tags, behind, Option.map_some]
  dsimp only
  rw [first, Option.orElse_some, Option.map_some, Option.getD_some, span, start]
  dsimp only
  rw [text, Option.getD_some]

/-- A title is reported at its element, when it is not computed and its length is out of range. -/
theorem spans_titleLength (policy : Policy) (element : TitleElement)
    : (titleLength policy element).map (·.span)
      = if ¬ Expression.isDynamic element.text ∧ policy.TitleOutOfRange element.text
        then [element.span] else [] := by
  unfold titleLength Policy.TitleOutOfRange
  dsimp only
  simp only [Expression.isDynamic_trim_iff]
  split
  · next computed => rw [if_neg fun static => static.1 computed, List.map_nil]
  · next static =>
      split
      · next outside => rw [if_pos ⟨static, outside⟩, List.map_singleton]
      · next within => rw [if_neg fun reported => within reported.2, List.map_nil]

end Rule

-----------------------------------------------------------------------------------------
-- What is reported about titles
-----------------------------------------------------------------------------------------

namespace Auditor

variable {policy : Policy} {tables : Tables} {fileName content : Text}

/-- About a head with a title the length of that title is reported once or not at all. -/
theorem spans_findingsOf_titleLength (plain : '<' ∉ content)
    : ((full policy tables).findingsOf fileName (titledHead content) "SEO_TITLE_LENGTH").map
          (·.span)
      = if ¬ Expression.isDynamic content ∧ policy.TitleOutOfRange content
        then [titleSpan content] else [] := by
  have listed : Rule.title ∈ Rule.all := by simp [Rule.all]
  let element : Rule.TitleElement := { text := content, span := titleSpan content }
  have found : Rule.titleElement? (Page.ofText policy tables fileName (titledHead content))
      = some element :=
    Rule.titleElement?_titledHead plain
  have evaluated
      : Rule.title.evaluate (Page.ofText policy tables fileName (titledHead content))
        = Rule.titleLength policy element := by
    unfold Rule.title
    dsimp only
    rw [found]
    rfl
  have own : ∀ finding ∈ Rule.titleLength policy element,
      finding.code = "SEO_TITLE_LENGTH".toList :=
    fun finding reported => congrArg Kind.code (Rule.kind_of_mem_titleLength reported)
  have lie : Finding.LieIn (titledHead content) (Rule.titleLength policy element) :=
    Finding.lieIn_ite Finding.lieIn_nil
      (Finding.lieIn_ite (Finding.lieIn_singleton.mpr Markup.titleSpan_liesIn) Finding.lieIn_nil)
  rw [findingsOf_full listed (.head _), evaluated, Finding.filter_code own, if_pos rfl,
    Finding.spans_settleAll lie, Rule.spans_titleLength]

/-- A head with a title does not miss one. -/
theorem not_reports_titleMissing_titledHead (plain : '<' ∉ content)
    : ¬ (full policy tables).Reports fileName (titledHead content) "SEO_TITLE_MISSING" := by
  intro reported
  have untitled := (reports_titleMissing_iff.mp reported).1
  rw [Markup.tokenize_titledHead plain] at untitled
  exact untitled _ (.tail _ (.head _)) rfl

variable (policy tables fileName)

/-- The length of the title of a head is reported once, at the title, when the title is not known
for computed and has too few or too many characters without the blanks around it, and not at all
otherwise; no title is missing there. In general a title is missing where no tag opens one, a tag
opens a head, no marker of a policy stands in the text and the file is not that of a component.
-/
theorem audit_title
    : (∀ content,
        '<' ∉ content
        → ((full policy tables).findingsOf fileName (titledHead content) "SEO_TITLE_LENGTH").map
              (·.span)
            = (if ¬ Expression.isDynamic (Text.trim content) ∧ policy.TitleOutOfRange content
              then [titleSpan content] else [])
          ∧ Text.slice? (titledHead content) (titleSpan content).start (titleSpan content).stop
            = some (writtenTitle content)
          ∧ ¬ (full policy tables).Reports fileName (titledHead content) "SEO_TITLE_MISSING")
      ∧ ∀ text,
          (full policy tables).Reports fileName text "SEO_TITLE_MISSING"
            ↔ (∀ tag ∈ tokenize text, ¬ tag.opens "title")
              ∧ (∃ tag ∈ tokenize text, tag.opensHead)
              ∧ (∀ marker ∈ policy.headMarkers, marker ≠ [] → ¬ marker <:+: text)
              ∧ ∀ extension ∈ Path.extension? fileName,
                  Text.lower extension
                    ∉ (["jsx", "tsx", "vue", "svelte", "astro"] : List Text) := by
  constructor
  · intro content plain
    simp only [Expression.isDynamic_trim_iff]
    exact ⟨spans_findingsOf_titleLength plain, Markup.slice?_titleSpan,
      not_reports_titleMissing_titledHead plain⟩
  · intro text
    exact reports_titleMissing_iff

/-- A short title with a greater sign, a brace and a character of three bytes is reported once and
from tag to tag. A head without a title misses one.
-/
theorem audit_title_price
    : let content : Text := " Prix > 5 \x7b€\x7d "
      '<' ∉ content
      ∧ ((full .standard .standard).findingsOf "page.html" (titledHead content)
            "SEO_TITLE_LENGTH").map (·.span)
        = [{ start := 6, stop := 37 }]
      ∧ Text.slice? (titledHead content) 6 37 = some (writtenTitle content)
      ∧ ¬ (full .standard .standard).Reports "page.html" (titledHead content) "SEO_TITLE_MISSING"
      ∧ (full .standard .standard).Reports "page.html" "<head></head>" "SEO_TITLE_MISSING" := by
  intro content
  have plain : '<' ∉ content := by decide
  have short
      : ¬ Expression.isDynamic (Text.trim content) ∧ Policy.standard.TitleOutOfRange content := by
    decide
  have span : titleSpan content = { start := 6, stop := 37 } := by decide
  obtain ⟨about, missing⟩ := audit_title .standard .standard "page.html"
  obtain ⟨length, slice, titled⟩ := about content plain
  rw [if_pos short, span] at length
  rw [span] at slice
  refine ⟨plain, length, slice, titled, (missing "<head></head>").mpr ?_⟩
  decide +kernel

/-- The length of a title with an expression in braces is reported exactly when it is out of range
and the expression is overlooked. So it may be reported when the expression has text in front.
-/
theorem audit_title_expression {front inner behind : Text}
    (plain : '<' ∉ Expression.around front inner behind) (single : '{' ∉ inner)
    : let title := Expression.around front inner behind
      (full policy tables).Reports fileName (titledHead title) "SEO_TITLE_LENGTH"
        ↔ Expression.Overlooked front behind ∧ policy.TitleOutOfRange title := by
  intro title
  have spans
      : ((full policy tables).findingsOf fileName (titledHead title) "SEO_TITLE_LENGTH").map
            (·.span)
        = _ :=
    spans_findingsOf_titleLength plain
  rw [reports_iff_findingsOf, ← Expression.not_isDynamic_around_iff single, ne_eq,
    ← List.map_eq_nil_iff (f := fun finding => finding.span), spans]
  split
  · next reported => exact iff_of_true (List.cons_ne_nil _ _) reported
  · next silent => exact iff_of_false (fun reported => reported rfl) silent

/-- A greeting with a name computed later is measured, and a name alone is not. -/
theorem audit_title_expression_greeting
    : let reports := fun title : Text =>
        (full .standard .standard).Reports "page.jsx" (titledHead title) "SEO_TITLE_LENGTH"
      '<' ∉ Expression.around "Hi " "name" "!"
      ∧ '{' ∉ "name".toList
      ∧ reports (Expression.around "Hi " "name" "!")
      ∧ ¬ reports (Expression.around " " "name" "!") := by
  intro reports
  have plain : '<' ∉ Expression.around "Hi " "name" "!" := by decide
  have plainAlone : '<' ∉ Expression.around " " "name" "!" := by decide
  have single : '{' ∉ "name".toList := by decide
  have overlooked : Expression.Overlooked "Hi " "!" :=
    { first := ⟨'H', by decide, by decide⟩
      last := by decide
      plain := by decide }
  have short : Policy.standard.TitleOutOfRange (Expression.around "Hi " "name" "!") := by decide
  refine ⟨plain, single, ?greeted, ?alone⟩
  case greeted =>
    exact (audit_title_expression .standard .standard "page.jsx" plain single).mpr
      ⟨overlooked, short⟩
  case alone =>
    intro reported
    obtain ⟨overlooked, -⟩ :=
      (audit_title_expression .standard .standard "page.jsx" plainAlone single).mp reported
    obtain ⟨char, first, -⟩ := overlooked.first
    cases first

/-- A title whose text is computed is measured in a component all the same. -/
theorem audit_title_expression_measured
    : let text : Text := "<head><title>Hi \x7bname\x7d</title></head>"
      text = titledHead (Expression.around "Hi " "name" "")
      ∧ '<' ∉ "Hi ".toList ++ "name".toList
      ∧ "name".toList ≠ []
      ∧ '{' ∉ "name".toList
      ∧ '}' ∉ "name".toList
      ∧ Path.extension? "page.jsx" = some "jsx".toList
      ∧ (full .standard .standard).Reports "page.jsx" text "SEO_TITLE_LENGTH" := by
  intro text
  decide +kernel

end Auditor

end PageAudit
