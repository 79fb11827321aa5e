import PageAudit.Audit
import PageAudit.Proofs.Rule.Spans
import PageAudit.Proofs.Source.Ruler

/-! The findings of an audit have the spans that rules reported, with the positions where these
start.
-/

namespace PageAudit

/-- A finding whose span lies in a text is settled by giving it the position of its start. -/
theorem Finding.settle_eq {text : Text} {finding : Finding} (lies : finding.span.LiesIn text)
    : ∃ before after,
        text = before ++ after
        ∧ Text.byteSize before = finding.span.start
        ∧ finding.settle (Ruler.ofText text) = { finding with position := .behind before } := by
  obtain ⟨before, after, rfl, start⟩ := lies.start
  refine ⟨before, after, rfl, start, ?_⟩
  rw [settle, Ruler.clamp_eq lies, Ruler.position, ← start, Ruler.mark_ofText]

theorem Finding.settleAll_eq (text : Text) (findings : List Finding)
    : settleAll text findings = findings.map (settle (Ruler.ofText text)) := by
  unfold settleAll
  split
  · next none => simp [List.isEmpty_iff.mp none]
  · rfl

/-- Settling leaves a span that lies in the text as it is. -/
theorem Finding.span_settle {text : Text} {finding : Finding} (lies : finding.span.LiesIn text)
    : (finding.settle (Ruler.ofText text)).span = finding.span := by
  obtain ⟨_, _, -, -, settled⟩ := settle_eq lies
  rw [settled]

theorem Finding.spans_settleAll {text : Text} {findings : List Finding} (lie : LieIn text findings)
    : (settleAll text findings).map (·.span) = findings.map (·.span) := by
  rw [settleAll_eq, List.map_map]
  exact List.map_congr_left fun finding member => span_settle (lie finding member)

namespace Auditor

variable (policy : Policy) (tables : Tables) (fileName text : Text)

/-- Every finding of an audit with all rules has the span that a rule reported. The span lies in the
text, between places where characters begin or end, and the position is the line and the column of
its start.
-/
theorem audit_all_spans
    : ∀ finding ∈ ({ policy, tables, rules := Rule.all } : Auditor).audit fileName text,
        ∃ rule ∈ Rule.all,
        ∃ reported ∈ rule.evaluate (Page.ofText policy tables fileName text),
        ∃ before after,
          finding = { reported with position := .behind before }
          ∧ (text = before ++ after ∧ Text.byteSize before = finding.span.start)
          ∧ finding.span.start ≤ finding.span.stop
          ∧ finding.span.stop ≤ Text.byteSize text
          ∧ Text.IsBoundary text finding.span.start
          ∧ Text.IsBoundary text finding.span.stop := by
  intro finding member
  rw [audit, Finding.settleAll_eq] at member
  obtain ⟨reported, evaluated, rfl⟩ := List.mem_map.mp member
  obtain ⟨rule, listed, fromRule⟩ := List.mem_flatMap.mp evaluated
  have faithful := Page.ofText_faithful policy tables fileName text
  have lies : reported.span.LiesIn text :=
    Rule.grounded_of_mem_all listed _ faithful reported fromRule
  obtain ⟨before, after, split, start, settled⟩ := Finding.settle_eq lies
  rw [settled]
  exact ⟨rule, listed, reported, fromRule, before, after, rfl, ⟨split, start⟩, lies.ordered,
    lies.stop.le_byteSize, lies.start, lies.stop⟩

/-- An image behind a character of two bytes and a line feed is reported on the second line, three
bytes into the text.
-/
theorem audit_all_spans_image
    : ∃ finding ∈ (ofPolicy .standard).audit "page.html" "é\n<img alt>".toList,
        finding.span = { start := 3, stop := 12 }
        ∧ finding.position = { line := 2, column := 1 }
        ∧ ∃ rule ∈ Rule.all,
          ∃ reported
            ∈ rule.evaluate (Page.ofText .standard .standard "page.html" "é\n<img alt>".toList),
            reported.span = finding.span := by
  have image : ∃ finding ∈ (ofPolicy .standard).audit "page.html" "é\n<img alt>".toList,
      finding.span = { start := 3, stop := 12 }
      ∧ finding.position = { line := 2, column := 1 } := by decide +kernel
  obtain ⟨finding, member, span, position⟩ := image
  obtain ⟨rule, listed, reported, fromRule, _, _, same, -⟩ :=
    audit_all_spans .standard .standard "page.html" _ finding member
  exact ⟨finding, member, span, position, rule, listed, reported, fromRule, by rw [same]⟩

end Auditor

end PageAudit
