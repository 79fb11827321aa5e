import PageAudit.Proofs.Audit.Codes
import PageAudit.Proofs.Markup.DocumentHead

/-! What an audit reports about the order of the tags in a head. Distances are compared, but the
tags of a document stand one behind the other, so this is the order in which they come. Each
finding is about a whole tag, to which the distance leads back.
-/

namespace PageAudit

namespace Rule

variable {page : Page} {head : Head} {wanted : Text}

theorem exists_code_charsetOrder
    : (∃ finding ∈ charsetOrder page head, finding.code = wanted)
      ↔ (∃ distance, head.charset = some distance ∧ 100 < distance)
        ∧ "SEO_HEAD_CHARSET_ORDER".toList = wanted := by
  unfold charsetOrder charsetReach
  split
  · next distance charset =>
      split
      · next late => simp [charset, late]
      · next near => simp [charset, near]
  · next none => simp [none]

theorem exists_code_titleAfter {other : Option Nat} {code message : Text}
    : (∃ finding ∈ titleAfter page head other code message, finding.code = wanted)
      ↔ (∃ title before, head.title = some title ∧ other = some before ∧ before < title)
        ∧ code = wanted := by
  unfold titleAfter
  cases head.title with
  | none => simp
  | some title =>
      cases other with
      | none => simp
      | some before =>
          dsimp only
          split
          · next late => simp [late]
          · next near => simp [near]

theorem exists_code_headOrder
    : (∃ finding ∈ headOrder.evaluate page, finding.code = wanted)
      ↔ ∃ head,
          page.shape.head = some head
          ∧ (((∃ distance, head.charset = some distance ∧ 100 < distance)
              ∧ "SEO_HEAD_CHARSET_ORDER".toList = wanted
            ∨ (∃ title before,
                head.title = some title ∧ head.stylesheet = some before ∧ before < title)
              ∧ "SEO_HEAD_TITLE_AFTER_STYLESHEET".toList = wanted)
            ∨ (∃ title before,
                head.title = some title ∧ head.script = some before ∧ before < title)
              ∧ "SEO_HEAD_TITLE_AFTER_SCRIPT".toList = wanted) := by
  unfold headOrder
  dsimp only
  split
  · next head located =>
      rw [Auditor.exists_code_append, Auditor.exists_code_append, exists_code_charsetOrder,
        exists_code_titleAfter, exists_code_titleAfter]
      simp [located]
  · next none => simp [none]

/-- The anchor of a distance into the head is the whole span of the tag that was measured. -/
theorem anchorAt_absolute (faithful : page.Faithful) (first : FirstHead page.tags)
    {kind : Tag → Bool} {distance textSize : Nat}
    (measured : first.distance? kind = some distance)
    : ∃ tag,
        first.inner.find? kind = some tag
        ∧ anchorAt page ((first.head textSize).absolute distance) = tag.span := by
  obtain ⟨tag, found, exact⟩ := (first.distance?_eq_some_iff faithful.ordered).mp measured
  have member := first.mem_of_mem_inner (List.mem_of_find?_eq_some found)
  have start : (first.head textSize).absolute distance = tag.span.start := exact
  refine ⟨tag, found, ?_⟩
  rw [start, anchorAt, faithful.tagAt?_eq_some member]

/-- A finding about a late declaration of the encoding has the span of the declaration. -/
theorem span_of_mem_charsetOrder (faithful : page.Faithful) (first : FirstHead page.tags)
    {textSize : Nat} {finding : Finding}
    (reported : finding ∈ charsetOrder page (first.head textSize))
    : ∃ tag, first.inner.find? Tag.isCharset = some tag ∧ finding.span = tag.span := by
  unfold charsetOrder at reported
  split at reported
  · next distance measured =>
      obtain ⟨tag, found, anchor⟩ := anchorAt_absolute faithful first measured
      rw [List.mem_ite_nil_right, List.mem_singleton] at reported
      obtain ⟨-, rfl⟩ := reported
      exact ⟨tag, found, anchor⟩
  · cases reported

/-- A finding about a late title has the span of the tag of the title. -/
theorem span_of_mem_titleAfter (faithful : page.Faithful) (first : FirstHead page.tags)
    {textSize : Nat} {other : Option Nat} {code message : Text} {finding : Finding}
    (reported : finding ∈ titleAfter page (first.head textSize) other code message)
    : ∃ title, first.inner.find? (·.opens "title") = some title ∧ finding.span = title.span := by
  unfold titleAfter at reported
  split at reported
  · next distance _ measured =>
      obtain ⟨title, found, anchor⟩ := anchorAt_absolute faithful first measured
      rw [List.mem_ite_nil_right, List.mem_singleton] at reported
      obtain ⟨-, rfl⟩ := reported
      exact ⟨title, found, anchor⟩
  · cases reported

/-- Each finding about the order of a head has the span of the first declaration of the encoding in
that head, or of its first title, as its code tells.
-/
theorem span_of_mem_headOrder (faithful : page.Faithful) {finding : Finding}
    (reported : finding ∈ headOrder.evaluate page)
    : ∃ first : FirstHead page.tags,
        (finding.code = "SEO_HEAD_CHARSET_ORDER".toList
          ∧ ∃ tag, first.inner.find? Tag.isCharset = some tag ∧ finding.span = tag.span)
        ∨ (finding.code ≠ "SEO_HEAD_CHARSET_ORDER".toList
          ∧ ∃ title,
            first.inner.find? (·.opens "title") = some title ∧ finding.span = title.span) := by
  unfold headOrder at reported
  dsimp only at reported
  split at reported
  · next head located =>
      rw [faithful.head] at located
      obtain ⟨first, rfl⟩ := Head.locate?_eq_some_iff.mp located
      refine ⟨first, ?_⟩
      simp only [List.mem_append] at reported
      rcases reported with (charset | stylesheet) | script
      · have code : finding.code = "SEO_HEAD_CHARSET_ORDER".toList :=
          congrArg Kind.code (kind_of_mem_charsetOrder charset)
        exact .inl ⟨code, span_of_mem_charsetOrder faithful first charset⟩
      · have code : finding.code = "SEO_HEAD_TITLE_AFTER_STYLESHEET".toList :=
          congrArg Kind.code (kind_of_mem_titleAfter stylesheet)
        exact .inr ⟨by rw [code]; decide, span_of_mem_titleAfter faithful first stylesheet⟩
      · have code : finding.code = "SEO_HEAD_TITLE_AFTER_SCRIPT".toList :=
          congrArg Kind.code (kind_of_mem_titleAfter script)
        exact .inr ⟨by rw [code]; decide, span_of_mem_titleAfter faithful first script⟩
  · cases reported

end Rule

namespace Auditor

open Markup (tokenize)

variable {policy : Policy} {tables : Tables} {fileName text : Text}

/-- Whether a code about the order of the head is reported is a question about the first head of the
document.
-/
theorem reports_headOrder_iff {code : Text} (declared : code ∈ Rule.headOrder.codes)
    : (full policy tables).Reports fileName text code
      ↔ ∃ first : FirstHead (tokenize text),
          ((∃ tag,
                first.inner.find? Tag.isCharset = some tag
                ∧ first.opening.span.stop + 100 < tag.span.start)
              ∧ "SEO_HEAD_CHARSET_ORDER".toList = code
            ∨ first.Precedes Tag.isStylesheet (·.opens "title")
              ∧ "SEO_HEAD_TITLE_AFTER_STYLESHEET".toList = code)
          ∨ first.Precedes (·.opens "script") (·.opens "title")
            ∧ "SEO_HEAD_TITLE_AFTER_SCRIPT".toList = code := by
  have listed : Rule.headOrder ∈ Rule.all := by simp [Rule.all]
  rw [reports_full_iff listed declared, Rule.exists_code_headOrder]
  simp only [← FirstHead.distance?_gt_iff, FirstHead.precedes_iff]
  constructor
  · intro reported
    obtain ⟨head, located, cases⟩ := reported
    obtain ⟨first, rfl⟩ := Head.locate?_eq_some_iff.mp located
    exact ⟨first, cases⟩
  · intro ordered
    obtain ⟨first, cases⟩ := ordered
    exact ⟨first.head (Text.byteSize text), Head.locate?_eq_some_iff.mpr ⟨first, rfl⟩, cases⟩

/-- The span of a finding about the order of the head is the one of a tag of the document, so
settling leaves it as the rule reported it.
-/
theorem span_of_mem_audit {finding : Finding} (declared : finding.code ∈ Rule.headOrder.codes)
    (audited : finding ∈ (full policy tables).audit fileName text)
    : ∃ first : FirstHead (tokenize text),
        (finding.code = "SEO_HEAD_CHARSET_ORDER".toList
          ∧ ∃ tag, first.inner.find? Tag.isCharset = some tag ∧ finding.span = tag.span)
        ∨ (finding.code ≠ "SEO_HEAD_CHARSET_ORDER".toList
          ∧ ∃ title,
            first.inner.find? (·.opens "title") = some title ∧ finding.span = title.span) := by
  have listed : Rule.headOrder ∈ Rule.all := by simp [Rule.all]
  have faithful := Page.ofText_faithful policy tables fileName text
  obtain ⟨reported, evaluated, rfl⟩ := exists_reported listed declared audited
  have lies : reported.span.LiesIn text :=
    Rule.headOrder_grounded _ faithful reported evaluated
  obtain ⟨_, _, -, -, settled⟩ := Finding.settle_eq lies
  have spans := Rule.span_of_mem_headOrder faithful evaluated
  rw [settled]
  exact spans

/-- An audit reports a title behind a stylesheet or a script when the first head of the document has
both and the first title comes behind the first one of the others. It reports the declaration of
the encoding when the first one starts more than 100 bytes behind the opening tag of the head. The
span of such a finding is that of the title, or of the declaration.
-/
theorem audit_head_order (policy : Policy) (tables : Tables) (fileName text : Text)
    : let reports := (full policy tables).Reports fileName text
      (reports "SEO_HEAD_TITLE_AFTER_STYLESHEET"
        ↔ ∃ first : FirstHead (tokenize text), first.Precedes Tag.isStylesheet (·.opens "title"))
      ∧ (reports "SEO_HEAD_TITLE_AFTER_SCRIPT"
        ↔ ∃ first : FirstHead (tokenize text), first.Precedes (·.opens "script") (·.opens "title"))
      ∧ (reports "SEO_HEAD_CHARSET_ORDER"
        ↔ ∃ first : FirstHead (tokenize text),
            ∃ tag,
              first.inner.find? Tag.isCharset = some tag
              ∧ first.opening.span.stop + 100 < tag.span.start)
      ∧ ∀ finding ∈ (full policy tables).audit fileName text,
          ((finding.code = "SEO_HEAD_TITLE_AFTER_STYLESHEET".toList
              ∨ finding.code = "SEO_HEAD_TITLE_AFTER_SCRIPT".toList)
            → ∃ first : FirstHead (tokenize text),
              ∃ title,
                first.inner.find? (·.opens "title") = some title ∧ finding.span = title.span)
          ∧ (finding.code = "SEO_HEAD_CHARSET_ORDER".toList
            → ∃ first : FirstHead (tokenize text),
              ∃ tag, first.inner.find? Tag.isCharset = some tag ∧ finding.span = tag.span) := by
  refine ⟨?stylesheet, ?script, ?charset, ?spans⟩
  case stylesheet =>
    refine (reports_headOrder_iff (.tail _ (.head _))).trans ?_
    simp
  case script =>
    refine (reports_headOrder_iff (.tail _ (.tail _ (.head _)))).trans ?_
    simp
  case charset =>
    refine (reports_headOrder_iff (.head _)).trans ?_
    simp
  case spans =>
    intro finding audited
    constructor
    · intro late
      have declared : finding.code ∈ Rule.headOrder.codes := by
        rcases late with code | code
        · exact code ▸ .tail _ (.head _)
        · exact code ▸ .tail _ (.tail _ (.head _))
      obtain ⟨first, ⟨charset, -⟩ | ⟨-, title⟩⟩ := span_of_mem_audit declared audited
      · rw [charset] at late
        exact absurd late (by decide)
      · exact ⟨first, title⟩
    · intro code
      have declared : finding.code ∈ Rule.headOrder.codes := code ▸ .head _
      obtain ⟨first, ⟨-, charset⟩ | ⟨other, -⟩⟩ := span_of_mem_audit declared audited
      · exact ⟨first, charset⟩
      · exact absurd code other

/-- A title behind a stylesheet is reported at the title, also when a character of two bytes
stands in front of both and another title stands behind the head.
-/
theorem audit_head_order_stylesheet
    : let text : Text := "<HEAD>é<link rel=stylesheet><title>a</title></head><title>"
      (∃ first : FirstHead (tokenize text),
          first.Precedes Tag.isStylesheet (·.opens "title"))
      ∧ ∃ finding ∈ (full .standard .standard).audit "page.html" text,
          finding.code = "SEO_HEAD_TITLE_AFTER_STYLESHEET".toList
          ∧ finding.span = { start := 29, stop := 36 }
          ∧ ∃ first : FirstHead (tokenize text),
            ∃ title,
              first.inner.find? (·.opens "title") = some title ∧ finding.span = title.span := by
  intro text
  have reported : ∃ finding ∈ (full .standard .standard).audit "page.html" text,
      finding.code = "SEO_HEAD_TITLE_AFTER_STYLESHEET".toList
      ∧ finding.span = { start := 29, stop := 36 } := by
    decide +kernel
  obtain ⟨finding, audited, code, span⟩ := reported
  obtain ⟨order, -, -, spans⟩ := audit_head_order .standard .standard "page.html" text
  obtain ⟨first, title⟩ := (spans finding audited).1 (.inl code)
  exact ⟨order.mp ⟨finding, audited, code⟩, finding, audited, code, span, first, title⟩

end Auditor

end PageAudit
