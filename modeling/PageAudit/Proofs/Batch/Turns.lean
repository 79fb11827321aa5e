import PageAudit.Proofs.Batch.Accounting

/-! What becomes of each file of a batch, and the report of any pattern of cancellation.

A turn is a path with whether the batch was seen to be cancelled when the turn of that path came.
Every list of turns is considered, so nothing depends on the order in which files are looked at.
-/

namespace PageAudit

/-- What is kept is serious enough and has none of the dropped codes, in any case. -/
theorem BatchOptions.keeps_iff {options : BatchOptions} {finding : Finding}
    : options.keeps finding
      ↔ options.leastSeverity.rank ≤ finding.severity.rank
        ∧ ∀ code ∈ options.disabled, Text.lower code ≠ Text.lower finding.code := by
  simp [keeps, Severity.atLeast, Text.sameLetters]

namespace Batch

variable (batch : Batch)

/-- (Becomes batch path isCancelled outcome) says what the outcome of a file is, by the first check
that it does not pass.
-/
inductive Becomes (path : Text) : Bool → Except ScanError FileReport → Prop where
  | cancelled : Becomes path true (.error .cancelled)
  | unsupported (kind : Path.isScanned path = false) : Becomes path false (.error .unsupported)
  | missing (kind : Path.isScanned path = true) (nowhere : batch.files path = none)
    : Becomes path false (.error .unreadable)
  | tooLarge {node : Node} (kind : Path.isScanned path = true)
    (found : batch.files path = some node) (large : batch.options.maxBytes < node.size)
    : Becomes path false (.error (.tooLarge node.size batch.options.maxBytes))
  | unreadable {node : Node} (kind : Path.isScanned path = true)
    (found : batch.files path = some node) (small : node.size ≤ batch.options.maxBytes)
    (noText : node.text? = none)
    : Becomes path false (.error .unreadable)
  | scanned {node : Node} {text : Text} (kind : Path.isScanned path = true)
    (found : batch.files path = some node) (small : node.size ≤ batch.options.maxBytes)
    (read : node.text? = some text)
    : Becomes path false (.ok (batch.reportText path text))

/-- Every file has one of these outcomes. Witness: the checks in the order in which they are made.
-/
theorem becomes_scanFile (isCancelled : Bool) (path : Text)
    : batch.Becomes path isCancelled (batch.scanFile isCancelled path) := by
  cases isCancelled with
  | true => exact .cancelled
  | false =>
      unfold scanFile
      rw [if_neg Bool.false_ne_true]
      cases kind : Path.isScanned path with
      | false => exact .unsupported kind
      | true =>
          rw [if_neg (not_not_intro rfl)]
          cases found : batch.files path with
          | none => exact .missing kind found
          | some node =>
              dsimp only
              split
              · next large => exact .tooLarge kind found large
              · next notLarge =>
                  have small : node.size ≤ batch.options.maxBytes := Nat.not_lt.mp notLarge
                  cases read : node.text? with
                  | none => exact .unreadable kind found small read
                  | some text => exact .scanned kind found small read

/-- The text at a path that a batch scans: that of a file of a scanned kind and within the size
limit.
-/
def textAt? (path : Text) : Option Text :=
  if Path.isScanned path then
    (batch.files path).bind fun node =>
      if node.size ≤ batch.options.maxBytes then node.text? else none
  else none

/-- The file at a path is of a scanned kind, and it cannot be inspected, or it is within the size
limit and cannot be read.
-/
def failsAt (path : Text) : Bool :=
  Path.isScanned path
    && match batch.files path with
      | none => true
      | some node => node.size ≤ batch.options.maxBytes && node.text?.isNone

variable {batch} {path : Text} {isCancelled : Bool} {outcome : Except ScanError FileReport}

/-- A file is scanned unless its turn comes behind the cancellation or it fails a check. -/
theorem Becomes.toOption_eq (becomes : batch.Becomes path isCancelled outcome)
    : outcome.toOption
      = if isCancelled then none else (batch.textAt? path).map (batch.reportText path) := by
  unfold textAt?
  cases becomes with
  | cancelled => rfl
  | unsupported kind => simp [kind, Except.toOption]
  | missing kind nowhere => simp [kind, nowhere, Except.toOption]
  | tooLarge kind found large => simp [kind, found, Nat.not_le.mpr large, Except.toOption]
  | unreadable kind found small noText => simp [kind, found, small, noText, Except.toOption]
  | scanned kind found small read => simp [kind, found, small, read, Except.toOption]

/-- A file fails when its turn comes before the cancellation and it cannot be inspected or read. -/
theorem Becomes.isFailure_eq (becomes : batch.Becomes path isCancelled outcome)
    : isFailure outcome = (!isCancelled && batch.failsAt path) := by
  unfold failsAt
  cases becomes with
  | cancelled => rfl
  | unsupported kind => simp [kind, isFailure, ScanError.isSkip]
  | missing kind nowhere => simp [kind, nowhere, isFailure, ScanError.isSkip]
  | tooLarge kind found large =>
      simp [kind, found, Nat.not_le.mpr large, isFailure, ScanError.isSkip]
  | unreadable kind found small noText =>
      simp [kind, found, small, noText, isFailure, ScanError.isSkip]
  | scanned kind found small read => simp [kind, found, small, read, isFailure]

/-- Only the audit of a text that is scanned can overflow. -/
theorem exists_textAt?_of_overflows (overflows : batch.overflows isCancelled path)
    : ∃ text,
        batch.textAt? path = some text
        ∧ batch.auditor.overflows
            (.ofText batch.auditor.policy batch.auditor.tables path text) := by
  have becomes := batch.becomes_scanFile isCancelled path
  unfold Batch.overflows at overflows
  generalize batch.scanFile isCancelled path = outcome at becomes overflows
  cases becomes with
  | @scanned node text kind found small read =>
      refine ⟨text, by simp [textAt?, kind, found, small, read], ?_⟩
      rw [found, Option.bind_some, read] at overflows
      exact overflows
  | _ => cases overflows

variable (batch)

/-- The outcomes of some turns. -/
def outcomes (turns : List (Text × Bool)) : List (Except ScanError FileReport) :=
  turns.map fun turn => batch.scanFile turn.2 turn.1

/-- The report of a batch is made of the reports of its outcomes. -/
theorem scanTurns_eq_ofOutcomes (turns : List (Text × Bool))
    : batch.scanTurns turns = Report.ofOutcomes (batch.outcomes turns) :=
  Report.foldl_recordOutcome_empty (batch.outcomes turns)

theorem accounts_scanTurns (turns : List (Text × Bool))
    : Report.Accounts (batch.outcomes turns) (batch.scanTurns turns) :=
  batch.scanTurns_eq_ofOutcomes turns ▸ Report.accounts_ofOutcomes _

theorem results_eq_filterMap (turns : List (Text × Bool))
    : (batch.scanTurns turns).results = (batch.outcomes turns).filterMap Except.toOption :=
  Report.results_foldl_recordOutcome (batch.outcomes turns)

theorem results_scanTurns (turns : List (Text × Bool))
    : (batch.scanTurns turns).results
      = turns.filterMap fun turn =>
          if turn.2 then none else (batch.textAt? turn.1).map (batch.reportText turn.1) := by
  rw [results_eq_filterMap, outcomes, List.filterMap_map]
  congr 1
  funext turn
  exact (batch.becomes_scanFile turn.2 turn.1).toOption_eq

/-- A batch that comes to a report comes to the exact one. It does when no audit overflows and the
report fits.
-/
theorem scanTurns?_eq_some_iff {turns : List (Text × Bool)} {report : Report}
    : batch.scanTurns? turns = some report
      ↔ (∀ turn ∈ turns, ¬ batch.overflows turn.2 turn.1)
        ∧ batch.scanTurns turns = report
        ∧ report.fits := by
  have counted : (batch.outcomes turns).foldlM recordOutcome? .empty = some report
      ↔ batch.scanTurns turns = report ∧ report.fits := by
    rw [Report.foldlM_recordOutcome? (by decide), Report.empty_merge, ← scanTurns_eq_ofOutcomes,
      Option.filter_eq_some_iff, Option.some_inj]
  unfold scanTurns?
  split
  · next stopped =>
      obtain ⟨turn, member, overflows⟩ := List.any_eq_true.mp stopped
      simp only [reduceCtorEq, false_iff]
      exact fun counted => counted.1 turn member overflows
  · next within =>
      have none : ∀ turn ∈ turns, ¬ batch.overflows turn.2 turn.1 :=
        fun turn member overflows => within (List.any_eq_true.mpr ⟨turn, member, overflows⟩)
      exact counted.trans (and_iff_right none).symm

theorem countP_isFailure_outcomes (turns : List (Text × Bool))
    : (batch.outcomes turns).countP isFailure
      = turns.countP fun turn => !turn.2 && batch.failsAt turn.1 := by
  rw [outcomes, List.countP_map]
  exact List.countP_congr fun turn _ => by
    rw [Function.comp_apply, (batch.becomes_scanFile turn.2 turn.1).isFailure_eq]

/-- A run without cancellation scans the files that are scanned in any run, in the same order. -/
theorem results_scanTurns_sublist (turns : List (Text × Bool))
    : (batch.scanTurns turns).results.Sublist
        (batch.scanTurns (turns.map fun turn => (turn.1, false))).results := by
  rw [results_scanTurns, results_scanTurns, List.filterMap_map]
  induction turns with
  | nil => exact .slnil
  | cons turn turns ih =>
      obtain ⟨path, isCancelled⟩ := turn
      cases read : batch.textAt? path with
      | none => simpa [read] using ih
      | some text =>
          cases isCancelled with
          | true => simpa [read] using ih.cons _
          | false => simpa [read] using ih

/-- Each listed file had its turn before the cancellation, and its findings are those of an audit of
its text that are kept.
-/
theorem of_mem_results_scanTurns {turns : List (Text × Bool)} {file : FileReport}
    (listed : file ∈ (batch.scanTurns turns).results)
    : (file.path, false) ∈ turns
      ∧ ∃ text, batch.textAt? file.path = some text
          ∧ file.findings
            = (batch.auditor.audit file.path text).filter batch.options.keeps := by
  rw [results_scanTurns] at listed
  obtain ⟨⟨path, isCancelled⟩, member, reported⟩ := List.mem_filterMap.mp listed
  cases isCancelled with
  | true => exact absurd reported (Option.some_ne_none file).symm
  | false =>
      obtain ⟨text, read, rfl⟩ := Option.map_eq_some_iff.mp reported
      exact ⟨member, text, read, rfl⟩

/-- The accounts of a batch hold for every pattern of cancellation. Each file is counted once, the
files with a report are the readable ones before the cancellation, in the order of the turns and as
without any cancellation, the failures are those of inspecting and reading, and the totals are those
of the findings that are kept. Kept is what is serious enough and has none of the dropped codes. All
of this holds of any report that the batch comes to, since that is the exact one.
-/
theorem scanTurns_accounts (turns : List (Text × Bool))
    : (batch.scanTurns turns).scanned + (batch.scanTurns turns).skipped
          + (batch.scanTurns turns).failed
        = turns.length
      ∧ (batch.scanTurns turns).scanned = (batch.scanTurns turns).results.length
      ∧ (batch.scanTurns turns).results
        = turns.filterMap (fun turn =>
            if turn.2 then none else (batch.textAt? turn.1).map (batch.reportText turn.1))
      ∧ (∀ file ∈ (batch.scanTurns turns).results,
          (file.path, false) ∈ turns
          ∧ ∃ text, batch.textAt? file.path = some text
              ∧ file.findings
                = (batch.auditor.audit file.path text).filter batch.options.keeps)
      ∧ (∀ finding,
          batch.options.keeps finding
          ↔ batch.options.leastSeverity.rank ≤ finding.severity.rank
            ∧ ∀ code ∈ batch.options.disabled, Text.lower code ≠ Text.lower finding.code)
      ∧ (batch.scanTurns turns).results.Sublist
          (batch.scanTurns (turns.map fun turn => (turn.1, false))).results
      ∧ (batch.scanTurns turns).failed
        = turns.countP (fun turn => !turn.2 && batch.failsAt turn.1)
      ∧ (batch.scanTurns turns).errors
        = (batch.scanTurns turns).findings.countP (·.severity = .error)
      ∧ (batch.scanTurns turns).warnings
        = (batch.scanTurns turns).findings.countP (·.severity = .warning)
      ∧ (batch.scanTurns turns).infos
        = (batch.scanTurns turns).findings.countP (·.severity = .info)
      ∧ (batch.scanTurns turns).errors + (batch.scanTurns turns).warnings
          + (batch.scanTurns turns).infos
        = (batch.scanTurns turns).findingCount
      ∧ ∀ report, batch.scanTurns? turns = some report → batch.scanTurns turns = report := by
  have accounts := batch.accounts_scanTurns turns
  have length := length_outcomes (batch.outcomes turns)
  rw [← accounts.results, ← accounts.scanned, ← accounts.skipped, ← accounts.failed,
    outcomes, List.length_map] at length
  have errors := accounts.totals .error
  have warnings := accounts.totals .warning
  have infos := accounts.totals .info
  have sum := Report.countOf_add_countOf (batch.scanTurns turns).findings
  rw [← errors, ← warnings, ← infos, ← Report.findingCount_eq_length] at sum
  refine ⟨length, accounts.scanned, batch.results_scanTurns turns,
    fun file listed => batch.of_mem_results_scanTurns listed,
    fun _ => BatchOptions.keeps_iff, batch.results_scanTurns_sublist turns, ?_, errors, warnings,
    infos, sum, fun _ counted => (batch.scanTurns?_eq_some_iff.mp counted).2.1⟩
  rw [accounts.failed, batch.countP_isFailure_outcomes]

/-- A batch with a page, a file that is not UTF-8, and a file above the limit. -/
def small : Batch :=
  { auditor := .ofPolicy .standard
    options := { maxBytes := 64, leastSeverity := .info, disabled := [] }
    files := fun path =>
      if path = "page.html".toList then some (.file { size := 4, text := some "page".toList })
      else if path = "broken.html".toList then some (.file { size := 1, text := none })
      else if path = "large.html".toList then some (.file { size := 65, text := none })
      else none }

/-- A turn for each outcome that there is. -/
def mixedTurns : List (Text × Bool) :=
  [("page.html", false), ("page.html", true), ("broken.html", false), ("missing.html", false),
    ("large.html", false), ("notes.txt", false)]

/-- Witness: a batch in which each outcome occurs. -/
theorem scanTurns_accounts_mixed
    : (small.scanTurns mixedTurns).scanned + (small.scanTurns mixedTurns).skipped
          + (small.scanTurns mixedTurns).failed
        = 6
      ∧ (small.scanTurns mixedTurns).failed
        = mixedTurns.countP (fun turn => !turn.2 && small.failsAt turn.1)
      ∧ small.scanTurns? mixedTurns = some (small.scanTurns mixedTurns) := by
  obtain ⟨files, -, -, -, -, -, failures, -⟩ := small.scanTurns_accounts mixedTurns
  exact ⟨files, failures, by decide +kernel⟩

end Batch

end PageAudit
