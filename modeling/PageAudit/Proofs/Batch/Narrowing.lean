import Mathlib.Data.List.Forall2
import Mathlib.Tactic.SplitIfs
import PageAudit.Proofs.Batch.Turns

/-! Stricter options take findings away and do nothing else.

A batch under stricter options lists the files that it lists under laxer ones, each with those of
its findings that are still kept. All that is said about the two reports follows from that.
-/

namespace PageAudit

-----------------------------------------------------------------------------------------
-- Options
-----------------------------------------------------------------------------------------

namespace BatchOptions

/-- (Stricter strict lax) says that two settings of a batch differ at most in that the first asks
for a higher severity and drops more codes. The case of the codes does not matter.
-/
structure Stricter (strict lax : BatchOptions) : Prop where
  maxBytes : strict.maxBytes = lax.maxBytes
  leastSeverity : lax.leastSeverity.rank ≤ strict.leastSeverity.rank
  disabled : ∀ code ∈ lax.disabled, ∃ other ∈ strict.disabled, Text.sameLetters code other

/-- A code that laxer options drop is dropped by stricter ones, in one case or another. -/
theorem Stricter.keeps {strict lax : BatchOptions} (stricter : strict.Stricter lax)
    {finding : Finding} (kept : strict.keeps finding)
    : lax.keeps finding := by
  obtain ⟨serious, allowed⟩ := keeps_iff.mp kept
  refine keeps_iff.mpr ⟨Nat.le_trans stricter.leastSeverity serious, fun code dropped same => ?_⟩
  obtain ⟨other, alsoDropped, letters⟩ := stricter.disabled code dropped
  have equal : Text.lower code = Text.lower other := beq_iff_eq.mp letters
  exact allowed other alsoDropped (equal.symm.trans same)

end BatchOptions

/-- The report of a file with the findings that some options keep. -/
def FileReport.keep (options : BatchOptions) (file : FileReport) : FileReport :=
  { file with findings := file.findings.filter options.keeps }

-----------------------------------------------------------------------------------------
-- Reports
-----------------------------------------------------------------------------------------

namespace Report

/-- (Narrows narrow wide) says that a report lists the files of another one in the same order, each
with some of its findings, and that its totals are those of the other one without the findings that
it lacks.
-/
structure Narrows (narrow wide : Report) : Prop where
  results
    : List.Forall₂ (fun less more => less.path = more.path ∧ less.findings.Sublist more.findings)
        narrow.results wide.results
  scanned : narrow.scanned = wide.scanned
  skipped : narrow.skipped = wide.skipped
  failed : narrow.failed = wide.failed
  errors : narrow.errors ≤ wide.errors
  warnings : narrow.warnings ≤ wide.warnings
  infos : narrow.infos ≤ wide.infos

/-- Without more errors and warnings the exit code is no worse. -/
theorem Narrows.exitCode_le {narrow wide : Report} (narrows : narrow.Narrows wide)
    : narrow.exitCode ≤ wide.exitCode := by
  have errors := narrows.errors
  have warnings := narrows.warnings
  unfold exitCode hasErrors hasWarnings
  simp only [decide_eq_true_eq]
  split_ifs <;> omega

/-- Files that keep some of their findings are the same files with fewer findings. -/
theorem forall₂_map_keep (options : BatchOptions) (files : List FileReport)
    : List.Forall₂ (fun less more => less.path = more.path ∧ less.findings.Sublist more.findings)
        (files.map (·.keep options)) files := by
  rw [List.forall₂_map_left_iff, List.forall₂_same]
  exact fun file _ => ⟨rfl, List.filter_sublist⟩

end Report

-----------------------------------------------------------------------------------------
-- Batches
-----------------------------------------------------------------------------------------

namespace Batch

/-- The batch with other options. -/
def under (batch : Batch) (options : BatchOptions) : Batch :=
  { batch with options }

variable (batch : Batch) {strict lax : BatchOptions}

/-- What is kept under stricter options is what they keep of the findings under laxer ones. -/
theorem reportText_under (stricter : strict.Stricter lax) (path text : Text)
    : (batch.under strict).reportText path text
      = ((batch.under lax).reportText path text).keep strict := by
  have both (finding : Finding)
      : strict.keeps finding = (strict.keeps finding && lax.keeps finding) := by
    cases kept : strict.keeps finding with
    | true => exact (stricter.keeps kept).symm
    | false => rfl
  simp only [reportText, FileReport.keep, List.filter_filter, under]
  exact congrArg (FileReport.mk path) (List.filter_congr fun finding _ => both finding)

/-- The checks before an audit are the same, so a file has a report under both options or, for one
cause, under none.
-/
theorem scanFile_under (stricter : strict.Stricter lax) (isCancelled : Bool) (path : Text)
    : (batch.under strict).scanFile isCancelled path
      = ((batch.under lax).scanFile isCancelled path).map (·.keep strict) := by
  have limit : strict.maxBytes = lax.maxBytes := stricter.maxBytes
  have becomes := (batch.under lax).becomes_scanFile isCancelled path
  generalize (batch.under lax).scanFile isCancelled path = outcome at becomes
  cases becomes with
  | cancelled => rfl
  | unsupported kind => simp [scanFile, kind, Except.map]
  | missing kind nowhere =>
      have nothing : batch.files path = none := nowhere
      simp [scanFile, under, kind, nothing, Except.map]
  | tooLarge kind found large =>
      have node : batch.files path = some _ := found
      have above : lax.maxBytes < _ := large
      simp [scanFile, under, kind, node, limit, above, Except.map]
  | unreadable kind found small noText =>
      have node : batch.files path = some _ := found
      have within : _ ≤ lax.maxBytes := small
      simp [scanFile, under, kind, node, limit, Nat.not_lt.mpr within, noText, Except.map]
  | scanned kind found small read =>
      have node : batch.files path = some _ := found
      have within : _ ≤ lax.maxBytes := small
      have kept := batch.reportText_under stricter path
      unfold under at kept
      simp [scanFile, under, kind, node, limit, Nat.not_lt.mpr within, read, Except.map, kept]

theorem outcomes_under (stricter : strict.Stricter lax) (turns : List (Text × Bool))
    : (batch.under strict).outcomes turns
      = ((batch.under lax).outcomes turns).map (Except.map (·.keep strict)) := by
  rw [outcomes, outcomes, List.map_map]
  exact List.map_congr_left fun turn _ => batch.scanFile_under stricter turn.2 turn.1

theorem toOption_map_keep (options : BatchOptions) (outcome : Except ScanError FileReport)
    : (outcome.map (·.keep options)).toOption = outcome.toOption.map (·.keep options) := by
  cases outcome <;> rfl

theorem isSkip_map_keep (options : BatchOptions) (outcome : Except ScanError FileReport)
    : isSkip (outcome.map (·.keep options)) = isSkip outcome := by
  cases outcome <;> rfl

theorem isFailure_map_keep (options : BatchOptions) (outcome : Except ScanError FileReport)
    : isFailure (outcome.map (·.keep options)) = isFailure outcome := by
  cases outcome <;> rfl

/-- The files that are listed are the same ones, with the findings that are still kept. -/
theorem results_under (stricter : strict.Stricter lax) (turns : List (Text × Bool))
    : ((batch.under strict).scanTurns turns).results
      = ((batch.under lax).scanTurns turns).results.map (·.keep strict) := by
  rw [results_eq_filterMap, results_eq_filterMap, batch.outcomes_under stricter,
    List.filterMap_map, List.map_filterMap]
  exact List.filterMap_congr fun outcome _ => toOption_map_keep strict outcome

/-- The findings that are listed are those that are still kept. -/
theorem findings_under (stricter : strict.Stricter lax) (turns : List (Text × Bool))
    : ((batch.under strict).scanTurns turns).findings
      = ((batch.under lax).scanTurns turns).findings.filter strict.keeps := by
  rw [Report.findings, Report.findings, batch.results_under stricter, List.flatMap_map,
    List.filter_flatMap]
  rfl

/-- For any pattern of cancellation, the report under stricter options narrows the one under laxer
options.
-/
theorem scanTurns_narrows (stricter : strict.Stricter lax) (turns : List (Text × Bool))
    : ((batch.under strict).scanTurns turns).Narrows ((batch.under lax).scanTurns turns) := by
  have narrow := (batch.under strict).accounts_scanTurns turns
  have wide := (batch.under lax).accounts_scanTurns turns
  have totals (severity : Severity)
      : ((batch.under strict).scanTurns turns).total severity
        ≤ ((batch.under lax).scanTurns turns).total severity := by
    rw [narrow.totals, wide.totals, batch.findings_under stricter]
    exact List.filter_sublist.countP_le
  constructor
  · rw [batch.results_under stricter]
    exact Report.forall₂_map_keep strict _
  · rw [narrow.scanned, wide.scanned, batch.results_under stricter, List.length_map]
  · rw [narrow.skipped, wide.skipped, batch.outcomes_under stricter, List.countP_map]
    exact List.countP_congr fun outcome _ => by
      rw [Function.comp_apply, isSkip_map_keep]
  · rw [narrow.failed, wide.failed, batch.outcomes_under stricter, List.countP_map]
    exact List.countP_congr fun outcome _ => by
      rw [Function.comp_apply, isFailure_map_keep]
  · exact totals .error
  · exact totals .warning
  · exact totals .info

/-- No finding is listed that the options drop. -/
theorem keeps_of_mem_results_scanTurns {turns : List (Text × Bool)} {file : FileReport}
    (listed : file ∈ (batch.scanTurns turns).results) {finding : Finding}
    (member : finding ∈ file.findings)
    : batch.options.keeps finding := by
  obtain ⟨-, text, -, kept⟩ := batch.of_mem_results_scanTurns listed
  rw [kept] at member
  exact (List.mem_filter.mp member).2

/-- Stricter options take findings away and do nothing else: the same files are listed in the same
order, each with some of its findings, the same numbers of files are scanned, skipped and failed, no
total of findings and no exit code is larger, and what remains is serious enough and has none of the
dropped codes in any case.
-/
theorem scanPaths_narrows (isCancelled : Bool) (paths : List Text)
    (stricter : strict.Stricter lax)
    : ((batch.under strict).scanPaths isCancelled paths).Narrows
          ((batch.under lax).scanPaths isCancelled paths)
      ∧ ((batch.under strict).scanPaths isCancelled paths).exitCode
        ≤ ((batch.under lax).scanPaths isCancelled paths).exitCode
      ∧ ∀ file ∈ ((batch.under strict).scanPaths isCancelled paths).results,
          ∀ finding ∈ file.findings,
            strict.leastSeverity.rank ≤ finding.severity.rank
            ∧ ∀ code ∈ strict.disabled, Text.lower code ≠ Text.lower finding.code := by
  have narrows : ((batch.under strict).scanPaths isCancelled paths).Narrows
      ((batch.under lax).scanPaths isCancelled paths) :=
    batch.scanTurns_narrows stricter _
  refine ⟨narrows, narrows.exitCode_le, fun file listed finding member => ?_⟩
  have kept : strict.keeps finding :=
    (batch.under strict).keeps_of_mem_results_scanTurns listed member
  exact BatchOptions.keeps_iff.mp kept

/-- A batch with one page, which has a short title and an image that says little of itself. -/
def album : Batch :=
  let page : Text := "<head><title>Short</title></head><img src=a.png>"
  let root : Node := .directory [("page.html", .file { size := 48, text := page })]
  { auditor := .ofPolicy .standard
    options := { maxBytes := 64, leastSeverity := .info, disabled := ["seo_canonical_missing"] }
    files := root.fileSystem }

/-- The options of that batch without hints and without the alternative texts of images. -/
def warningsOnly : BatchOptions :=
  { maxBytes := 64
    leastSeverity := .warning
    disabled := ["perf_IMG_missing_alt", "SEO_Canonical_Missing"] }

/-- Witness: of six findings two are only hints, and one has a code that is dropped as well, written
in another case.
-/
theorem scanPaths_narrows_album
    : warningsOnly.Stricter album.options
      ∧ ((album.under warningsOnly).scanPaths false [['.']]).Narrows
          ((album.under album.options).scanPaths false [['.']])
      ∧ ((album.under warningsOnly).scanPaths false [['.']]).findings.length = 3
      ∧ ((album.under album.options).scanPaths false [['.']]).findings.length = 6 := by
  have stricter : warningsOnly.Stricter album.options := ⟨rfl, by decide, by decide⟩
  have three : ((album.under warningsOnly).scanPaths false [['.']]).findings.length = 3 := by
    decide +kernel
  have six : ((album.under album.options).scanPaths false [['.']]).findings.length = 6 := by
    decide +kernel
  have narrows := album.scanPaths_narrows false [['.']] stricter
  exact ⟨stricter, narrows.1, three, six⟩

end Batch

end PageAudit
