import Mathlib.Algebra.Group.Action.Defs
import Mathlib.Algebra.Order.BigOperators.Group.List
import Mathlib.Algebra.Order.Ring.Nat
import PageAudit.Proofs.Audit.Codes
import PageAudit.Proofs.Rule.HeavyImports

/-! Audits that overflow. Of all rules only the one about heavy imports counts what can be more than
a word of 64 bits holds, so an audit comes to nothing exactly when the weight of the imports is no
such word. With the weights of the common packages that takes a text of petabytes.
-/

namespace PageAudit

namespace Auditor

open Rule

variable {policy : Policy} {tables : Tables} {fileName text : Text}

-----------------------------------------------------------------------------------------
-- Audits with all rules
-----------------------------------------------------------------------------------------

theorem overflows_full (page : Page)
    : (full policy tables).overflows page = heavyImports.overflows page := by
  have others : (full policy tables).overflows page = (heavyImports.overflows page || false) := rfl
  rw [others, Bool.or_false]

/-- An audit comes to its findings when the rule about heavy imports comes to its own ones. -/
theorem audit?_full
    : (full policy tables).audit? fileName text
      = (heavyImports.evaluate? (Page.ofText policy tables fileName text)).map fun _ =>
          (full policy tables).audit fileName text := by
  have same : (full policy tables).audit? fileName text
      = if heavyImports.overflows (Page.ofText policy tables fileName text) then none
        else some ((full policy tables).audit fileName text) := by
    rw [audit?, overflows_full]
    rfl
  rw [same, evaluate?]
  split <;> rfl

/-- The rule about heavy imports comes to nothing, and the whole audit with it, exactly when the
weight of the imports is no word. When it comes to findings, a limit is among them exactly when the
weight exceeds it, and more lines take no such finding away as long as their weight is a word.
-/
theorem heavyImports_overflow (policy : Policy) (void : VoidElements) (entries : List Dependency)
    (fileName text : Text)
    : let evaluate? := fun text =>
        heavyImports.evaluate? (weighedPage policy void entries fileName text)
      let auditor := full policy { void, dependencies := .ofList entries }
      (evaluate? text = none ↔ UInt64.size ≤ bundleWeight entries text)
      ∧ (auditor.audit? fileName text = none ↔ UInt64.size ≤ bundleWeight entries text)
      ∧ (∀ findings,
          evaluate? text = some findings
          → ∀ limit ∈ weightLimits,
              limit.code ∈ findings.map (·.code) ↔ limit.kilobytes < bundleWeight entries text)
      ∧ ∀ added,
          Import.OnNewLine text added
          → bundleWeight entries (text ++ added) < UInt64.size
          → ∃ before after,
              evaluate? text = some before
              ∧ evaluate? (text ++ added) = some after
              ∧ ∀ limit ∈ weightLimits,
                  limit.code ∈ before.map (·.code) → limit.code ∈ after.map (·.code) := by
  intro evaluate? auditor
  have nothing : evaluate? text = none ↔ UInt64.size ≤ bundleWeight entries text := by
    unfold evaluate?
    rw [evaluate?_heavyImports, ite_eq_right_iff, ← Nat.not_lt]
    exact forall_congr' fun _ => iff_of_false nofun id
  refine ⟨nothing, ?_, ?_, ?_⟩
  · unfold auditor
    rw [audit?_full, Option.map_eq_none_iff]
    exact nothing
  · intro findings reported limit known
    unfold evaluate? at reported
    rw [evaluate?_heavyImports, Option.ite_none_right_eq_some] at reported
    obtain ⟨-, same⟩ := reported
    rw [← Option.some.inj same]
    exact mem_codes_heavyImports_iff known
  · intro added apart fits
    have more := bundleWeight_le_append entries apart
    refine ⟨_, _, evaluate?_heavyImports.trans (if_pos (Nat.lt_of_le_of_lt more fits)),
      evaluate?_heavyImports.trans (if_pos fits), fun limit known reported => ?_⟩
    have exceeds := (mem_codes_heavyImports_iff known).mp reported
    exact (mem_codes_heavyImports_iff known).mpr (Nat.lt_of_lt_of_le exceeds more)

theorem heavyImports_overflow_line
    : let entries : List Dependency :=
        [{ package := "a", kilobytes := 600, alternative := none },
          { package := "b", kilobytes := 1, alternative := none }]
      let evaluate? := fun text : Text =>
        heavyImports.evaluate? (weighedPage .standard .html entries "page.js" text)
      Import.OnNewLine "import 'a';".toList "\nimport 'b';".toList
      ∧ bundleWeight entries ("import 'a';".toList ++ "\nimport 'b';".toList) < UInt64.size
      ∧ ∃ before after,
          evaluate? "import 'a';" = some before
          ∧ evaluate? ("import 'a';".toList ++ "\nimport 'b';".toList) = some after
          ∧ "BUNDLE_SIZE_LARGE".toList ∈ before.map (·.code)
          ∧ "BUNDLE_SIZE_LARGE".toList ∈ after.map (·.code) := by
  intro entries evaluate?
  have apart : Import.OnNewLine "import 'a';".toList "\nimport 'b';".toList := .inr (.inr rfl)
  have fits : bundleWeight entries ("import 'a';".toList ++ "\nimport 'b';".toList)
      < UInt64.size := by decide +kernel
  have weight : 500 < bundleWeight entries "import 'a';" := by decide +kernel
  obtain ⟨-, -, limits, lines⟩ :=
    heavyImports_overflow .standard .html entries "page.js" "import 'a';"
  obtain ⟨before, after, front, whole, kept⟩ := lines _ apart fits
  have reported := (limits before front _ (.head _)).mpr weight
  exact ⟨apart, fits, before, after, front, whole, reported, kept _ (.head _) reported⟩

/-- One more import takes the weight beyond all words. Both limits were reported without it, the
weight still exceeds them, and neither the rule nor the whole audit comes to any finding.
-/
theorem heavyImports_overflow_lost
    : let entries : List Dependency :=
        [{ package := "a", kilobytes := 18446744073709551615, alternative := none },
          { package := "b", kilobytes := 1, alternative := none }]
      let evaluate? := fun text : Text =>
        heavyImports.evaluate? (weighedPage .standard .html entries "page.js" text)
      let auditor := full .standard { void := .html, dependencies := .ofList entries }
      let before : Text := "import 'a';"
      let after : Text := "import 'a';\nimport 'b';"
      (∀ limit ∈ weightLimits, ∃ findings ∈ evaluate? before, limit.code ∈ findings.map (·.code))
      ∧ (∀ limit ∈ weightLimits, limit.kilobytes < bundleWeight entries after)
      ∧ evaluate? after = none
      ∧ auditor.audit? "page.js" after = none := by
  decide +kernel

-----------------------------------------------------------------------------------------
-- The common packages
-----------------------------------------------------------------------------------------

/-- The total is at most that of as many of the heaviest package as there are imports. -/
theorem totalWeight_heavyOnes_le {page : Page} {most : Nat}
    (light : ∀ entry ∈ page.tables.dependencies.entries, entry.kilobytes ≤ most)
    : totalWeight (heavyOnes page) ≤ (Import.readAll page.text).length * most := by
  have each : ∀ kilobytes ∈ (heavyOnes page).map (·.2.kilobytes), kilobytes ≤ most := by
    intro kilobytes listed
    obtain ⟨heavy, member, rfl⟩ := List.mem_map.mp listed
    obtain ⟨found, -, entered⟩ := List.mem_filterMap.mp member
    obtain ⟨entry, known, rfl⟩ := Option.map_eq_some_iff.mp entered
    exact light entry (List.mem_of_find?_eq_some known)
  have bound := List.sum_le_card_nsmul _ most each
  rw [List.length_map, smul_eq_mul, ← totalWeight_eq_sum] at bound
  exact bound.trans (Nat.mul_le_mul_right most (List.length_filterMap_le _ _))

/-- No audit with the standard tables overflows for a text of less than 2^54 bytes. -/
theorem overflows_ofPolicy (policy : Policy) (fileName : Text) {text : Text}
    (small : Text.byteSize text < 2 ^ 54)
    : (ofPolicy policy).overflows (Page.ofText policy .standard fileName text) = false := by
  let page := Page.ofText policy .standard fileName text
  have light : ∀ entry ∈ page.tables.dependencies.entries, entry.kilobytes ≤ 900 := by
    have common : ∀ entry ∈ DependencyTable.common.entries, entry.kilobytes ≤ 900 := by
      decide +kernel
    exact common
  have imports : (Import.readAll page.text).length ≤ 2 ^ 54 :=
    (Import.length_readAll_le text).trans small
  have word : 2 ^ 54 * 900 < UInt64.size := by decide
  have fits : totalWeight (heavyOnes page) < UInt64.size :=
    ((totalWeight_heavyOnes_le light).trans (Nat.mul_le_mul_right 900 imports)).trans_lt word
  have counted : (totalWeight? (heavyOnes page)).isNone = false := by
    rw [totalWeight?_eq, if_pos fits, Option.isNone_some]
  exact (overflows_full page).trans counted

theorem audit?_ofPolicy (policy : Policy) (fileName : Text) {text : Text}
    (small : Text.byteSize text < 2 ^ 54)
    : (ofPolicy policy).audit? fileName text = some ((ofPolicy policy).audit fileName text) := by
  have within : (ofPolicy policy).overflows
      (Page.ofText (ofPolicy policy).policy (ofPolicy policy).tables fileName text) = false :=
    overflows_ofPolicy policy fileName small
  rw [audit?, within, if_neg Bool.false_ne_true]

end Auditor

end PageAudit
