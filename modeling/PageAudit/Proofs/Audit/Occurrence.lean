import PageAudit.Proofs.Audit.Codes
import PageAudit.Proofs.Rule.Occurrence
import PageAudit.Proofs.Rule.Reporting

/-! The codes of an audit as a whole: how often each one occurs, and which of them exclude each
other or go together. Rules never see the findings of other rules, so what relates two of them is
the page that both look at.
-/

namespace PageAudit

theorem Finding.codes_settleAll (text : Text) (findings : List Finding)
    : (settleAll text findings).map (·.code) = findings.map (·.code) := by
  rw [settleAll_eq, List.map_map]
  rfl

namespace Rule

/-- A code belongs to one rule only. -/
theorem not_mem_codes_of_split {front behind : List Rule} {rule : Rule} {code : Text}
    (split : all = front ++ rule :: behind) (declared : code ∈ rule.codes)
    : ∀ other ∈ front ++ behind, code ∉ other.codes := by
  have disjoint := pairwise_disjoint_codes
  rw [split, List.pairwise_append, List.pairwise_cons] at disjoint
  obtain ⟨-, ⟨later, -⟩, earlier⟩ := disjoint
  have reports {other : Rule} (own : code ∈ other.codes) : other.reports code = true :=
    List.any_eq_true.mpr ⟨code, own, by rw [Text.sameLetters, beq_self_eq_true]⟩
  intro other member own
  rcases List.mem_append.mp member with member | member
  · have silent := earlier other member rule List.mem_cons_self code declared
    rw [reports own] at silent
    cases silent
  · have silent := later other member code own
    rw [reports declared] at silent
    cases silent

end Rule

namespace Auditor

/-- The codes of the findings of a document, in their order. -/
def codes (auditor : Auditor) (fileName text : Text) : List Text :=
  (auditor.audit fileName text).map (·.code)

/-- The findings of a document that have a code, in their order. -/
def findingsOf (auditor : Auditor) (fileName text code : Text) : List Finding :=
  (auditor.audit fileName text).filter (·.code = code)

section

variable {auditor : Auditor} {fileName text code : Text} {finding : Finding}

theorem mem_findingsOf
    : finding ∈ auditor.findingsOf fileName text code
      ↔ finding ∈ auditor.audit fileName text ∧ finding.code = code := by
  rw [findingsOf, List.mem_filter, decide_eq_true_eq]

/-- A code is reported when some finding has it. -/
theorem reports_iff_findingsOf
    : auditor.Reports fileName text code ↔ auditor.findingsOf fileName text code ≠ [] := by
  simp [Reports, findingsOf, List.filter_eq_nil_iff]

end

variable {policy : Policy} {tables : Tables} {fileName text : Text}

theorem codes_full
    : (full policy tables).codes fileName text
      = Rule.all.flatMap fun rule =>
          (rule.evaluate (Page.ofText policy tables fileName text)).map (·.code) := by
  rw [codes, audit_eq_flatMap, List.map_flatMap]
  simp only [Finding.codes_settleAll]
  rfl

/-- The findings of a document with a code are those that the rule which declares it reports.
Witness: the rules in front of that rule and behind it declare the code nowhere.
-/
theorem findingsOf_full {rule : Rule} {code : Text} (member : rule ∈ Rule.all)
    (declared : code ∈ rule.codes)
    : (full policy tables).findingsOf fileName text code
      = Finding.settleAll text
          ((rule.evaluate (Page.ofText policy tables fileName text)).filter (·.code = code)) := by
  obtain ⟨front, behind, split⟩ := List.append_of_mem member
  have others := Rule.not_mem_codes_of_split split declared
  have silent (rules : List Rule) (within : rules ⊆ front ++ behind)
      : (rules.flatMap fun other =>
          Finding.settleAll text
            (other.evaluate (Page.ofText policy tables fileName text))).filter (·.code = code)
        = [] := by
    refine List.filter_eq_nil_iff.mpr fun finding reported => ?_
    obtain ⟨other, listed, settled⟩ := List.mem_flatMap.mp reported
    obtain ⟨evaluated, fromRule, same⟩ := Finding.exists_of_mem_settleAll settled
    have otherMember : other ∈ Rule.all := by
      rw [split]
      rcases List.mem_append.mp (within listed) with early | late
      · exact List.mem_append_left _ early
      · exact List.mem_append_right _ (.tail _ late)
    have own := (Rule.keepsToCatalogue_of_mem_all otherMember _ evaluated fromRule).code
    rw [← same] at own
    intro equal
    exact others other (within listed) (of_decide_eq_true equal ▸ own)
  have rules : (full policy tables).rules = front ++ rule :: behind := split
  rw [findingsOf, audit_eq_flatMap, rules, List.flatMap_append, List.flatMap_cons,
    List.filter_append, List.filter_append]
  have early := silent front (List.subset_append_left _ _)
  have late := silent behind (List.subset_append_right _ _)
  simp only [full] at early late ⊢
  rw [early, late, List.nil_append, List.append_nil, Finding.settleAll_eq, Finding.settleAll_eq,
    List.filter_map]
  rfl

/-- A code is reported as often as the rule that declares it reports it. -/
theorem count_codes_full {rule : Rule} {code : Text} (member : rule ∈ Rule.all)
    (declared : code ∈ rule.codes)
    : ((full policy tables).codes fileName text).count code
      = ((rule.evaluate (Page.ofText policy tables fileName text)).map (·.code)).count code := by
  have size (findings : List Finding)
      : (findings.map (·.code)).count code = (findings.filter (·.code = code)).length := by
    rw [List.count, List.countP_map, List.countP_eq_length_filter]
    exact congrArg List.length (List.filter_congr fun _ _ => beq_eq_decide _ _)
  have same : ((full policy tables).findingsOf fileName text code).length = _ :=
    congrArg List.length (findingsOf_full member declared)
  rw [Finding.settleAll_eq, List.length_map] at same
  rw [codes, size, size, ← same, findingsOf]

/-- Whether a code is among those of a document is up to the rule that declares it. -/
theorem mem_codes_full {rule : Rule} {code : Text} (member : rule ∈ Rule.all)
    (declared : code ∈ rule.codes)
    : code ∈ (full policy tables).codes fileName text
      ↔ code ∈ (rule.evaluate (Page.ofText policy tables fileName text)).map (·.code) := by
  rw [← List.count_pos_iff, count_codes_full member declared, List.count_pos_iff]

/-- The codes of a rule stand together among those of a document. -/
theorem infix_codes_full {rule : Rule} (member : rule ∈ Rule.all)
    : (rule.evaluate (Page.ofText policy tables fileName text)).map (·.code)
      <:+: (full policy tables).codes fileName text := by
  obtain ⟨front, behind, split⟩ := List.append_of_mem member
  rw [codes_full, split, List.flatMap_append, List.flatMap_cons, ← List.append_assoc]
  exact List.infix_append _ _ _

/-- Apart from repeatable ones, the codes of a document follow the catalogue. -/
theorem followsCodes_audit_full
    : Finding.FollowsCodes (Kind.all.map (·.code))
        ((full policy tables).audit fileName text) := by
  rw [audit_eq_flatMap, ← Rule.codes_all]
  refine Finding.FollowsCodes.flatMap fun rule member => ?_
  rw [Finding.FollowsCodes, Finding.codes_settleAll]
  exact Rule.followsOwnCodes_of_mem_all member _

/-- No document gets both of two codes that exclude each other. -/
theorem not_mem_codes_of_excludes {first second : Text} (excludes : Rule.Excludes first second)
    (reported : first ∈ (full policy tables).codes fileName text)
    : second ∉ (full policy tables).codes fileName text := by
  obtain ⟨rule, listed, other, otherListed, own, otherOwn, excluded⟩ :=
    Rule.not_mem_of_excludes excludes
  rw [mem_codes_full listed own] at reported
  rw [mem_codes_full otherListed otherOwn]
  exact excluded (Page.ofText policy tables fileName text) rfl reported

variable (policy tables fileName text)

/-- About one document a code that is not repeatable is reported at most once, and codes that
exclude each other are not both reported. What is beyond a higher limit is reported for the lower
one directly before, and a page close to the ceiling of the renderer is beyond the highest band. A
large bundle has a heavy import, and too many scripts that stop rendering are too many external
ones.
-/
theorem audit_full_codes
    : let codes := (full policy tables).codes fileName text
      (∀ code, code ∉ repeatable → codes.count code ≤ 1)
      ∧ (∀ first second, Rule.Excludes first second → first ∈ codes → second ∉ codes)
      ∧ ("RENDER_HTML_SIZE_CRITICAL".toList ∈ codes → "RENDER_HTML_SIZE_LIMIT".toList ∈ codes)
      ∧ (∀ lower upper, Rule.StepsUp lower upper → upper ∈ codes → [lower, upper] <:+: codes)
      ∧ ("BUNDLE_SIZE_LARGE".toList ∈ codes → "BUNDLE_HEAVY_DEPENDENCY".toList ∈ codes)
      ∧ (policy.maxExternalScripts < codes.count "PERF_BLOCKING_SCRIPT".toList
        → "PERF_THIRD_PARTY_SCRIPTS".toList ∈ codes) := by
  refine ⟨?once, ?excluded, ?critical, ?steps, ?heavy, ?scripts⟩
  case once =>
    intro code single
    have distinct : (Kind.all.map (·.code)).Nodup :=
      List.Nodup.of_map Text.lower (by rw [List.map_map]; exact Kind.nodup_lower_code)
    exact followsCodes_audit_full.count_le_one distinct single
  case excluded =>
    intro first second excludes reported
    exact not_mem_codes_of_excludes excludes reported
  case critical =>
    intro critical
    have htmlSize : Rule.htmlSize ∈ Rule.all := by simp [Rule.all]
    rw [mem_codes_full htmlSize (.tail _ (.tail _ (.tail _ (.head _))))] at critical
    rw [mem_codes_full htmlSize (.tail _ (.tail _ (.head _)))]
    exact Rule.sizeLimit_of_sizeCritical critical
  case steps =>
    intro lower upper steps reported
    obtain ⟨rule, listed, own, together⟩ := Rule.infix_of_stepsUp steps
    exact (together _ ((mem_codes_full listed own).mp reported)).trans (infix_codes_full listed)
  case heavy =>
    intro large
    have heavyImports : Rule.heavyImports ∈ Rule.all := by simp [Rule.all]
    rw [mem_codes_full heavyImports (.tail _ (.head _))] at large
    rw [mem_codes_full heavyImports (.head _)]
    exact Rule.heavyDependency_of_sizeLarge large
  case scripts =>
    intro many
    have blockingScripts : Rule.blockingScripts ∈ Rule.all := by simp [Rule.all]
    have externalScripts : Rule.externalScripts ∈ Rule.all := by simp [Rule.all]
    rw [count_codes_full blockingScripts (.head _)] at many
    rw [mem_codes_full externalScripts (.head _)]
    exact Rule.externalScripts_of_blockingScripts many

/-- A page with two scripts that stop rendering, where one external script is allowed, and with two
imports of a heavy package gets both findings about the weight, one behind the other, and the
finding about its scripts.
-/
theorem audit_full_codes_scripts_and_imports
    : let policy := { Policy.standard with maxExternalScripts := 1 }
      let text := "<script src=a></script><script src=b></script>from 'lodash'from 'lodash'".toList
      let codes := (full policy .standard).codes "page.html" text
      "BUNDLE_SIZE_EXCESSIVE".toList ∈ codes
      ∧ ["BUNDLE_SIZE_LARGE".toList, "BUNDLE_SIZE_EXCESSIVE".toList] <:+: codes
      ∧ policy.maxExternalScripts < codes.count "PERF_BLOCKING_SCRIPT".toList
      ∧ "PERF_THIRD_PARTY_SCRIPTS".toList ∈ codes := by
  intro policy text codes
  obtain ⟨-, -, -, steps, -, scripts⟩ := audit_full_codes policy .standard "page.html" text
  have excessive : "BUNDLE_SIZE_EXCESSIVE".toList ∈ codes := by decide +kernel
  have blocking : policy.maxExternalScripts < codes.count "PERF_BLOCKING_SCRIPT".toList := by
    decide +kernel
  exact ⟨excessive, steps _ _ .weight excessive, blocking, scripts blocking⟩

end Auditor

end PageAudit
