import PageAudit.Proofs.Bundle.Dependency
import PageAudit.Proofs.Rule.Occurrence
import PageAudit.Proofs.Rule.Reporting

/-! What is reported about the imports of heavy packages. Each of them is reported for itself, and
the total is reported for each limit that it exceeds. The total is counted in a word of 64 bits, and
nothing is reported when the exact weight is no such word.
-/

namespace PageAudit.Rule

-----------------------------------------------------------------------------------------
-- Pages and findings
-----------------------------------------------------------------------------------------

/-- The page of a text, when packages weigh as much as the entries of a list say. -/
def weighedPage (policy : Policy) (void : VoidElements) (entries : List Dependency)
    (fileName text : Text)
    : Page :=
  .ofText policy { void, dependencies := .ofList entries } fileName text

/-- (AboutImport entries found finding) says that the package of an import has an entry, and
that the finding tells its weight at the specifier.
-/
structure AboutImport (entries : List Dependency) (found : Import) (finding : Finding) : Prop where
  heavy : ∃ entry,
    lastFor? entries found.package = some entry
    ∧ finding.message
      = '\'' :: found.package ++ "' adds about ".toList ++ Text.ofNat entry.kilobytes
        ++ "KB".toList ++ entry.alternative.elim [] ("; consider ".toList ++ ·)
  kind
    : finding.kind
      = { code := "BUNDLE_HEAVY_DEPENDENCY", severity := .info, category := .bundle }
  span : finding.span = found.span
  help : finding.help = none

/-- A total weight above which a finding is reported, with what the finding says. -/
structure WeightLimit where
  kilobytes : Nat
  code : Text
  severity : Severity
  help : Option Text

/-- The limits in the order in which they are reported. -/
def weightLimits : List WeightLimit :=
  [{ kilobytes := 500
     code := "BUNDLE_SIZE_LARGE"
     severity := .warning
     help := some "Code-split heavy packages or replace them with lighter ones".toList },
    { kilobytes := 1000
      code := "BUNDLE_SIZE_EXCESSIVE"
      severity := .error
      help := none }]

/-- (AboutWeight weight limit finding) says that a weight exceeds a limit, and that the finding
tells both at the start of the document.
-/
structure AboutWeight (weight : Nat) (limit : WeightLimit) (finding : Finding) : Prop where
  exceeds : limit.kilobytes < weight
  kind
    : finding.kind
      = { code := limit.code, severity := limit.severity, category := .bundle }
  message
    : finding.message
      = "Heavy dependencies add about ".toList ++ Text.ofNat weight ++ "KB (more than ".toList
        ++ Text.ofNat limit.kilobytes ++ "KB)".toList
  span : finding.span = .documentStart
  help : finding.help = limit.help

variable {policy : Policy} {void : VoidElements} {entries : List Dependency}
  {fileName text : Text}

-----------------------------------------------------------------------------------------
-- Single imports
-----------------------------------------------------------------------------------------

theorem heavyOnes_weighedPage
    : heavyOnes (weighedPage policy void entries fileName text)
      = (Import.readAll text).filterMap fun found =>
          (lastFor? entries found.package).map (found, ·) := by
  unfold heavyOnes
  refine List.filterMap_congr fun found _ => ?_
  rw [← DependencyTable.find?_ofList]
  rfl

theorem message_heavyFinding (found : Import) (entry : Dependency)
    : (heavyFinding found entry).message
      = '\'' :: entry.package ++ "' adds about ".toList ++ Text.ofNat entry.kilobytes
        ++ "KB".toList ++ entry.alternative.elim [] ("; consider ".toList ++ ·) := by
  unfold heavyFinding
  cases entry.alternative <;> rfl

theorem aboutImport_heavyFinding {found : Import} {entry : Dependency}
    (last : lastFor? entries found.package = some entry)
    : AboutImport entries found (heavyFinding found entry) := by
  refine ⟨⟨entry, last, ?_⟩, rfl, rfl, rfl⟩
  rw [message_heavyFinding, package_of_lastFor? last]

/-- The imports of packages with an entry are reported, one by one and in order. -/
theorem reportsEach_heavyOnes
    : ReportsEach (AboutImport entries) (Import.readAll text)
        ((heavyOnes (weighedPage policy void entries fileName text)).map
          fun (found, entry) => heavyFinding found entry) := by
  rw [heavyOnes_weighedPage, List.map_filterMap]
  refine reportsEach_filterMap ?_ ?_
  · intro found finding reported
    rw [Option.map_map] at reported
    obtain ⟨entry, last, rfl⟩ := Option.map_eq_some_iff.mp reported
    exact aboutImport_heavyFinding last
  · intro found silent finding about
    obtain ⟨entry, last, -⟩ := about.heavy
    rw [last] at silent
    cases silent

-----------------------------------------------------------------------------------------
-- The total weight
-----------------------------------------------------------------------------------------

/-- A total is counted on to the exact sum, unless that is no word. Weights are not negative, so no
sum on the way is larger. The induction is over the imports, with any word as the total of those
before them.
-/
theorem foldlM_addWeight? (heavy : List (Import × Dependency)) {start : Nat}
    (word : start < UInt64.size)
    : heavy.foldlM addWeight? start
      = if start + totalWeight heavy < UInt64.size then some (start + totalWeight heavy)
        else none := by
  induction heavy generalizing start with
  | nil => exact (if_pos word).symm
  | cons first heavy ih =>
      have total : start + totalWeight (first :: heavy)
          = start + first.2.kilobytes + totalWeight heavy :=
        (Nat.add_assoc _ _ _).symm
      rw [List.foldlM_cons, total, addWeight?]
      by_cases fits : start + first.2.kilobytes < UInt64.size
      · rw [if_pos fits]
        exact ih fits
      · have beyond : ¬ start + first.2.kilobytes + totalWeight heavy < UInt64.size := by omega
        rw [if_neg fits, if_neg beyond]
        rfl

theorem totalWeight?_eq (heavy : List (Import × Dependency))
    : totalWeight? heavy
      = if totalWeight heavy < UInt64.size then some (totalWeight heavy) else none := by
  rw [totalWeight?, foldlM_addWeight? heavy (by decide), Nat.zero_add]

theorem totalWeight_eq_sum (heavy : List (Import × Dependency))
    : totalWeight heavy = (heavy.map (·.2.kilobytes)).sum := by
  induction heavy with
  | nil => rfl
  | cons first heavy ih => rw [totalWeight, ih, List.map_cons, List.sum_cons]

/-- The total is that of the imports of the text. -/
theorem totalWeight_weighedPage
    : totalWeight (heavyOnes (weighedPage policy void entries fileName text))
      = bundleWeight entries text := by
  rw [totalWeight_eq_sum, heavyOnes_weighedPage, bundleWeight, List.map_filterMap,
    List.map_filterMap]
  simp only [Option.map_map]
  rfl

theorem reportsEach_weightOver {weight : Nat} {limit : WeightLimit} {limits : List WeightLimit}
    {findings : List Finding}
    (others : ReportsEach (AboutWeight weight) limits findings)
    : ReportsEach (AboutWeight weight) (limit :: limits)
        (weightOver weight limit.kilobytes limit.code limit.severity limit.help ++ findings) := by
  rw [weightOver]
  split
  · next exceeds => exact .report ⟨exceeds, rfl, rfl, rfl, rfl⟩ others
  · next within => exact .pass (fun _ about => within about.exceeds) others

-----------------------------------------------------------------------------------------
-- The findings of a page
-----------------------------------------------------------------------------------------

/-- The findings are those about single imports and then those about their weight. -/
theorem evaluate_heavyImports (policy : Policy) (void : VoidElements) (entries : List Dependency)
    (fileName text : Text)
    : ∃ heavy totals,
        heavyImports.evaluate (weighedPage policy void entries fileName text) = heavy ++ totals
        ∧ ReportsEach (AboutImport entries) (Import.readAll text) heavy
        ∧ ReportsEach (AboutWeight (bundleWeight entries text)) weightLimits totals := by
  refine ⟨_, _, List.append_assoc _ _ _, reportsEach_heavyOnes, ?_⟩
  rw [totalWeight_weighedPage, ← List.append_nil (weightOver _ 1000 _ _ _)]
  exact reportsEach_weightOver (reportsEach_weightOver .done)

/-- There are findings as long as the weight fits into a word. -/
theorem evaluate?_heavyImports
    : heavyImports.evaluate? (weighedPage policy void entries fileName text)
      = if bundleWeight entries text < UInt64.size then
          some (heavyImports.evaluate (weighedPage policy void entries fileName text))
        else none := by
  have overflows : heavyImports.overflows (weighedPage policy void entries fileName text)
      = decide (¬ bundleWeight entries text < UInt64.size) := by
    show (totalWeight? (heavyOnes _)).isNone = _
    rw [totalWeight?_eq, totalWeight_weighedPage]
    by_cases fits : bundleWeight entries text < UInt64.size
    · rw [if_pos fits, decide_eq_false (not_not_intro fits), Option.isNone_some]
    · rw [if_neg fits, decide_eq_true fits, Option.isNone_none]
  rw [evaluate?, overflows]
  simp only [decide_eq_true_eq, ite_not]

/-- A limit is reported when the weight exceeds it. -/
theorem mem_codes_heavyImports_iff {limit : WeightLimit} (known : limit ∈ weightLimits)
    : limit.code
        ∈ (heavyImports.evaluate (weighedPage policy void entries fileName text)).map (·.code)
      ↔ limit.kilobytes < bundleWeight entries text := by
  have large : "BUNDLE_SIZE_LARGE".toList ≠ "BUNDLE_HEAVY_DEPENDENCY".toList
      ∧ "BUNDLE_SIZE_LARGE".toList ≠ "BUNDLE_SIZE_EXCESSIVE".toList := by decide
  have excessive : "BUNDLE_SIZE_EXCESSIVE".toList ≠ "BUNDLE_HEAVY_DEPENDENCY".toList
      ∧ "BUNDLE_SIZE_EXCESSIVE".toList ≠ "BUNDLE_SIZE_LARGE".toList := by decide
  rw [codes_heavyImports, totalWeight_weighedPage, List.mem_append, List.mem_append,
    List.mem_replicate, List.mem_ite_nil_right, List.mem_ite_nil_right, List.mem_singleton,
    List.mem_singleton]
  rcases List.mem_pair.mp known with rfl | rfl
  · simp only [large, and_false, false_or, and_true, or_false]
  · simp only [excessive, and_false, false_or, and_true]

/-- While the weight fits into a word, each import of a package with an entry is reported at its
specifier, in the order of the text and as often as it stands there. Behind them each limit is
reported that the exact weight exceeds, and nothing else is.
-/
theorem heavyImports_reports (policy : Policy) (void : VoidElements) (entries : List Dependency)
    (fileName text : Text) (fits : bundleWeight entries text < UInt64.size)
    : (Import.readAll text).Pairwise (fun first second => first.span.stop < second.span.start)
      ∧ (∀ found ∈ Import.readAll text, found.StandsIn text)
      ∧ ∃ heavy totals,
          heavyImports.evaluate? (weighedPage policy void entries fileName text)
            = some (heavy ++ totals)
          ∧ heavyImports.evaluate (weighedPage policy void entries fileName text) = heavy ++ totals
          ∧ ReportsEach (AboutImport entries) (Import.readAll text) heavy
          ∧ ReportsEach (AboutWeight (bundleWeight entries text)) weightLimits totals := by
  refine ⟨Import.pairwise_readAll text, fun found => Import.standsIn_of_mem_readAll, ?_⟩
  obtain ⟨heavy, totals, reported, single, total⟩ :=
    evaluate_heavyImports policy void entries fileName text
  refine ⟨heavy, totals, ?_, reported, single, total⟩
  rw [evaluate?_heavyImports, if_pos fits, reported]

/-- Both imports of a package count, each with the last of two weights that are listed for it. -/
theorem heavyImports_reports_repeated
    : let entries : List Dependency :=
        [{ package := "a", kilobytes := 400, alternative := none },
          { package := "@b/c", kilobytes := 700, alternative := some "d".toList },
          { package := "a", kilobytes := 300, alternative := none }]
      let text : Text := "import 'a';\nrequire( \"a/x\");import y from '@b/c/z';"
      bundleWeight entries text = 1300
      ∧ bundleWeight entries text < UInt64.size
      ∧ ∃ heavy totals,
          heavyImports.evaluate? (weighedPage .standard .html entries "page.js" text)
            = some (heavy ++ totals)
          ∧ heavyImports.evaluate (weighedPage .standard .html entries "page.js" text)
            = heavy ++ totals
          ∧ ReportsEach (AboutImport entries) (Import.readAll text) heavy
          ∧ ReportsEach (AboutWeight 1300) weightLimits totals := by
  intro entries text
  have weight : bundleWeight entries text = 1300 := by decide +kernel
  have fits : bundleWeight entries text < UInt64.size := by rw [weight]; decide
  have reports := heavyImports_reports .standard .html entries "page.js" text fits
  rw [weight] at reports
  exact ⟨weight, fits, reports.2.2⟩

end PageAudit.Rule
