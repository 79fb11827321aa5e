import PageAudit.Proofs.Audit.Codes
import PageAudit.Proofs.Markup.Forest

/-! When an audit reports the budgets of elements and levels. -/

namespace PageAudit

namespace Rule

variable {page : Page} {limit : Nat} {code wanted : Text} {severity : Severity} {help : Option Text}

theorem exists_code_elementsOver
    : (∃ finding ∈ elementsOver page limit code severity help, finding.code = wanted)
      ↔ limit < page.shape.elements ∧ code = wanted := by
  unfold elementsOver
  split
  · next exceeded => simp [exceeded]
  · next within => simp [within]

theorem exists_code_levelsOver
    : (∃ finding ∈ levelsOver page limit code severity help, finding.code = wanted)
      ↔ limit < page.shape.depth ∧ code = wanted := by
  unfold levelsOver
  split
  · next exceeded => simp [exceeded]
  · next within => simp [within]

end Rule

namespace Auditor

open Markup (Forest)

section

variable {policy : Policy} {tables : Tables} {fileName text code : Text}

theorem reports_elements_iff (declared : code ∈ Rule.domSize.codes)
    : (full policy tables).Reports fileName text code
      ↔ 800 < (Page.ofText policy tables fileName text).shape.elements
          ∧ "RENDER_DOM_SIZE_LARGE".toList = code
        ∨ 1500 < (Page.ofText policy tables fileName text).shape.elements
          ∧ "RENDER_DOM_SIZE_EXCESSIVE".toList = code := by
  have listed : Rule.domSize ∈ Rule.all := by simp [Rule.all]
  rw [reports_full_iff listed declared]
  exact exists_code_append.trans
    (or_congr Rule.exists_code_elementsOver Rule.exists_code_elementsOver)

theorem reports_levels_iff (declared : code ∈ Rule.domDepth.codes)
    : (full policy tables).Reports fileName text code
      ↔ 25 < (Page.ofText policy tables fileName text).shape.depth
          ∧ "RENDER_DOM_DEPTH_DEEP".toList = code
        ∨ 32 < (Page.ofText policy tables fileName text).shape.depth
          ∧ "RENDER_DOM_DEPTH_EXCESSIVE".toList = code := by
  have listed : Rule.domDepth ∈ Rule.all := by simp [Rule.all]
  rw [reports_full_iff listed declared]
  exact exists_code_append.trans
    (or_congr Rule.exists_code_levelsOver Rule.exists_code_levelsOver)

end

/-- About a forest of elements an audit measures the number of its elements and its height, and it
reports the budgets that these exceed.
-/
theorem audit_forest (policy : Policy) (tables : Tables) (fileName : Text)
    (forest : Forest tables.void)
    : let page := Page.ofText policy tables fileName forest.written
      let reports := (full policy tables).Reports fileName forest.written
      page.shape.elements = forest.elements
      ∧ page.shape.depth = forest.height
      ∧ (Nesting.ofTags tables.void (Markup.tokenize forest.written)).depth = 0
      ∧ (reports "RENDER_DOM_SIZE_LARGE" ↔ 800 < forest.elements)
      ∧ (reports "RENDER_DOM_SIZE_EXCESSIVE" ↔ 1500 < forest.elements)
      ∧ (reports "RENDER_DOM_DEPTH_DEEP" ↔ 25 < forest.height)
      ∧ (reports "RENDER_DOM_DEPTH_EXCESSIVE" ↔ 32 < forest.height) := by
  have nesting : Nesting.ofTags tables.void (Markup.tokenize forest.written)
      = { depth := 0, deepest := forest.height } := by
    rw [forest.tokenize_written, forest.ofTags_tagsAt]
  have elements : (Page.ofText policy tables fileName forest.written).shape.elements
      = forest.elements := by
    show tables.void.elementCount (Markup.tokenize forest.written) = forest.elements
    rw [forest.tokenize_written, forest.elementCount_tagsAt]
  have depth : (Page.ofText policy tables fileName forest.written).shape.depth
      = forest.height := by
    show (Nesting.ofTags tables.void (Markup.tokenize forest.written)).deepest = forest.height
    rw [nesting]
  refine ⟨elements, depth, congrArg Nesting.depth nesting, ?_, ?_, ?_, ?_⟩
  · refine (reports_elements_iff (.head _)).trans ?_
    simp [elements]
  · refine (reports_elements_iff (.tail _ (.head _))).trans ?_
    simp [elements]
  · refine (reports_levels_iff (.head _)).trans ?_
    simp [depth]
  · refine (reports_levels_iff (.tail _ (.head _))).trans ?_
    simp [depth]

end Auditor

end PageAudit
