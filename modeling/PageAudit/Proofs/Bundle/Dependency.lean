import Mathlib.Algebra.Ring.Nat
import Mathlib.Data.List.Induction
import PageAudit.Bundle.Dependency
import PageAudit.Proofs.Bundle.Import

/-! Which entry of a table counts for a package, and what the imports of a text weigh together. The
weight is a sum of plain numbers, and it never gets less when lines are added to the text.
-/

namespace PageAudit

/-- The last entry for a package in a list. -/
def lastFor? (entries : List Dependency) (package : Text) : Option Dependency :=
  entries.reverse.find? (·.package == package)

theorem package_of_lastFor? {entries : List Dependency} {package : Text} {entry : Dependency}
    (last : lastFor? entries package = some entry)
    : entry.package = package := by
  simpa using List.find?_some last

namespace DependencyTable

variable {table : DependencyTable} {entry : Dependency} {package : Text}

/-- A new entry takes the place of an earlier one for its package and of no other. -/
theorem find?_insert
    : (table.insert entry).find? package
      = if entry.package = package then some entry else table.find? package := by
  rw [find?, insert, List.find?_append]
  by_cases same : entry.package = package
  · have replaced
        : (table.entries.filter (·.package != entry.package)).find? (·.package == package)
          = none := by
      simp [same]
    rw [replaced, Option.none_or, List.find?_cons_of_pos (by simp [same]), if_pos same]
  · have kept
        : (table.entries.filter (·.package != entry.package)).find? (·.package == package)
          = table.find? package := by
      rw [List.find?_filter, find?]
      congr 1
      funext old
      by_cases found : old.package = package
      · simp [found, Ne.symm same]
      · simp [found]
    rw [kept, List.find?_cons_of_neg (by simp [same]), List.find?_nil, Option.or_none,
      if_neg same]

/-- The table of a list holds the last entry for each package. The induction takes entries from the
end of the list, in the order in which they are replaced.
-/
theorem find?_ofList (entries : List Dependency)
    : (ofList entries).find? package = lastFor? entries package := by
  induction entries using List.reverseRecOn with
  | nil => rfl
  | append_singleton entries entry ih =>
      have step : ofList (entries ++ [entry]) = (ofList entries).insert entry := by
        simp [ofList]
      rw [step, find?_insert, ih, lastFor?, lastFor?, List.reverse_append,
        List.reverse_singleton, List.singleton_append]
      by_cases same : entry.package = package
      · rw [if_pos same, List.find?_cons_of_pos (by simp [same])]
      · rw [if_neg same, List.find?_cons_of_neg (by simp [same])]

end DependencyTable

/-- The kilobytes of all imports of a text that name a package of the list, each import for itself.
Unlike a word of the machine, the sum has no greatest value.
-/
def bundleWeight (entries : List Dependency) (text : Text) : Nat :=
  (((Import.readAll text).filterMap fun found => lastFor? entries found.package).map
    (·.kilobytes)).sum

/-- More lines never weigh less. -/
theorem bundleWeight_le_append (entries : List Dependency) {text added : Text}
    (apart : Import.OnNewLine text added)
    : bundleWeight entries text ≤ bundleWeight entries (text ++ added) := by
  obtain ⟨more, same⟩ := Import.readAll_prefix apart
  rw [bundleWeight, bundleWeight, ← same, List.filterMap_append, List.map_append,
    List.sum_append]
  exact Nat.le_add_right _ _

end PageAudit
