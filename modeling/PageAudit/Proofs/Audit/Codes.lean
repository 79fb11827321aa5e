import PageAudit.Proofs.Audit
import PageAudit.Proofs.Rule.Catalogue

/-! The codes of an audit: the rule that stands behind each finding, and when a code is reported. -/

namespace PageAudit

/-- A rule stands behind a finding when it declares the code and has the category, when the code
leads back to that rule in any case, and when the catalogue gives the code the severity and the
category of the finding and no others.
-/
structure Rule.StandsBehind (rule : Rule) (finding : Finding) : Prop where
  code : finding.code ∈ rule.codes
  category : finding.category = rule.category
  found
    : ∀ spelling,
        Text.sameLetters spelling finding.code → findByCode? Rule.all spelling = some rule
  severity
    : ∀ category severity,
        (finding.code, severity) ∈ catalogue category
        ↔ category = finding.category ∧ severity = finding.severity

/-- A rule stands behind whatever it reports of what it declares. -/
theorem Rule.standsBehind_of_declares {rule : Rule} {finding : Finding} (member : rule ∈ Rule.all)
    (declares : rule.Declares finding.kind)
    : rule.StandsBehind finding where
  code := declares.code
  category := declares.category
  found := fun _ same => findByCode?_of_mem_codes member declares.code same
  severity := by
    intro category severity
    constructor
    · intro listed
      have same : ({ code := finding.code, severity, category } : Kind) = finding.kind :=
        Kind.eq_of_code_eq (Kind.mem_all.mpr listed) (Kind.mem_all.mpr declares.listed) rfl
      exact ⟨congrArg Kind.category same, congrArg Kind.severity same⟩
    · rintro ⟨rfl, rfl⟩
      exact declares.listed

/-- Settling changes the place of a finding, not its kind. -/
theorem Finding.exists_of_mem_settleAll {text : Text} {findings : List Finding} {finding : Finding}
    (member : finding ∈ settleAll text findings)
    : ∃ reported ∈ findings, finding.kind = reported.kind := by
  rw [settleAll_eq] at member
  obtain ⟨reported, evaluated, rfl⟩ := List.mem_map.mp member
  exact ⟨reported, evaluated, rfl⟩

namespace Auditor

/-- An auditor with all rules. -/
def full (policy : Policy) (tables : Tables) : Auditor :=
  { policy, tables, rules := Rule.all }

/-- (auditor.Reports fileName text code) says that a finding of the document has the code. -/
def Reports (auditor : Auditor) (fileName text code : Text) : Prop :=
  ∃ finding ∈ auditor.audit fileName text, finding.code = code

instance (auditor : Auditor) (fileName text code : Text)
    : Decidable (auditor.Reports fileName text code) :=
  inferInstanceAs (Decidable (∃ finding ∈ auditor.audit fileName text, finding.code = code))

theorem audit_eq_flatMap (auditor : Auditor) (fileName text : Text)
    : auditor.audit fileName text
      = auditor.rules.flatMap fun rule =>
          Finding.settleAll text
            (rule.evaluate (Page.ofText auditor.policy auditor.tables fileName text)) := by
  rw [audit, evaluate, Finding.settleAll_eq, List.map_flatMap]
  simp only [Finding.settleAll_eq]

variable (policy : Policy) (tables : Tables) (fileName text : Text)

/-- The findings of an audit with all rules come rule by rule in the order of the rules, and each
rule stands behind its own ones.
-/
theorem audit_full_by_rule
    : (full policy tables).audit fileName text
        = Rule.all.flatMap (fun rule =>
            Finding.settleAll text (rule.evaluate (Page.ofText policy tables fileName text)))
      ∧ ∀ rule ∈ Rule.all,
        ∀ finding
          ∈ Finding.settleAll text (rule.evaluate (Page.ofText policy tables fileName text)),
          rule.StandsBehind finding := by
  refine ⟨audit_eq_flatMap _ fileName text, fun rule member finding settled => ?_⟩
  obtain ⟨reported, evaluated, same⟩ := Finding.exists_of_mem_settleAll settled
  have declares : rule.Declares finding.kind := by
    rw [same]
    exact Rule.keepsToCatalogue_of_mem_all member _ reported evaluated
  exact Rule.standsBehind_of_declares member declares

/-- The rule about canonical links stands behind the finding about an empty document. -/
theorem audit_full_by_rule_empty
    : ∃ finding ∈ (full .standard .standard).audit "page.html" [],
        Rule.canonical.StandsBehind finding := by
  obtain ⟨grouped, behind⟩ := audit_full_by_rule .standard .standard "page.html" []
  have reported
      : ∃ finding
          ∈ Finding.settleAll []
              (Rule.canonical.evaluate (Page.ofText .standard .standard "page.html" [])),
          finding.span = .documentStart := by
    decide +kernel
  obtain ⟨finding, settled, -⟩ := reported
  have listed : Rule.canonical ∈ Rule.all := .tail _ (.tail _ (.head _))
  refine ⟨finding, ?_, behind Rule.canonical listed finding settled⟩
  rw [grouped]
  exact List.mem_flatMap.mpr ⟨Rule.canonical, listed, settled⟩

variable {policy tables fileName text}

/-- A finding of an audit was reported by the rule that declares its code. Witness: the code leads
back to that rule and to the one behind the finding, so they are the same.
-/
theorem exists_reported {rule : Rule} {finding : Finding} (member : rule ∈ Rule.all)
    (declared : finding.code ∈ rule.codes)
    (audited : finding ∈ (full policy tables).audit fileName text)
    : ∃ reported ∈ rule.evaluate (Page.ofText policy tables fileName text),
        finding = reported.settle (Ruler.ofText text) := by
  have same : Text.sameLetters finding.code finding.code := by
    rw [Text.sameLetters, beq_self_eq_true]
  rw [audit_eq_flatMap] at audited
  obtain ⟨other, otherMember, settled⟩ := List.mem_flatMap.mp audited
  rw [Finding.settleAll_eq] at settled
  obtain ⟨reported, evaluated, rfl⟩ := List.mem_map.mp settled
  have declares := Rule.keepsToCatalogue_of_mem_all otherMember _ reported evaluated
  have back := Rule.findByCode?_of_mem_codes member declared same
  rw [Rule.findByCode?_of_mem_codes otherMember declares.code same] at back
  obtain rfl := Option.some.inj back
  exact ⟨reported, evaluated, rfl⟩

/-- Whether a code is reported is up to the rule that declares it. -/
theorem reports_full_iff {rule : Rule} {code : Text} (member : rule ∈ Rule.all)
    (declared : code ∈ rule.codes)
    : (full policy tables).Reports fileName text code
      ↔ ∃ finding ∈ rule.evaluate (Page.ofText policy tables fileName text),
          finding.code = code := by
  constructor
  · rintro ⟨finding, audited, rfl⟩
    obtain ⟨reported, evaluated, rfl⟩ := exists_reported member declared audited
    exact ⟨reported, evaluated, rfl⟩
  · rintro ⟨finding, evaluated, rfl⟩
    rw [Reports, audit_eq_flatMap]
    refine ⟨finding.settle (Ruler.ofText text), ?_, rfl⟩
    refine List.mem_flatMap.mpr ⟨rule, member, ?_⟩
    rw [Finding.settleAll_eq]
    exact List.mem_map_of_mem evaluated

/-- A code is among two lists of findings when it is among one of them. -/
theorem exists_code_append {first second : List Finding} {wanted : Text}
    : (∃ finding ∈ first ++ second, finding.code = wanted)
      ↔ (∃ finding ∈ first, finding.code = wanted) ∨ ∃ finding ∈ second, finding.code = wanted := by
  simp only [List.mem_append, or_and_right, exists_or]

end Auditor

end PageAudit
