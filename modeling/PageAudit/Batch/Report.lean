import PageAudit.Finding.Basic

/-! The report of a batch: the findings of each scanned file, and the totals. -/

namespace PageAudit

/-- The findings of one file. -/
structure FileReport where
  path : Text
  findings : List Finding
deriving DecidableEq

/-- The findings of a batch in the order of its files, the numbers of files by outcome and of
findings by severity, and the time that the batch took in milliseconds. The counts are exact. A
report of which a count is more than a word of 64 bits holds does not fit.
-/
structure Report where
  results : List FileReport
  scanned : Nat
  skipped : Nat
  failed : Nat
  errors : Nat
  warnings : Nat
  infos : Nat
  milliseconds : Nat
deriving DecidableEq

namespace Report

/-- The report of an empty batch. -/
def empty : Report :=
  { results := []
    scanned := 0
    skipped := 0
    failed := 0
    errors := 0
    warnings := 0
    infos := 0
    milliseconds := 0 }

/-- A report with one more finding of a severity. -/
def tally (report : Report) (severity : Severity) : Report :=
  match severity with
  | .error => { report with errors := report.errors + 1 }
  | .warning => { report with warnings := report.warnings + 1 }
  | .info => { report with infos := report.infos + 1 }

/-- A report with one more scanned file. -/
def record (report : Report) (file : FileReport) : Report :=
  let report := (file.findings.map (·.severity)).foldl tally report
  { report with scanned := report.scanned + 1, results := report.results ++ [file] }

/-- A report with one more file that was not meant to be scanned. -/
def skip (report : Report) : Report :=
  { report with skipped := report.skipped + 1 }

/-- A report with one more file that could not be scanned. -/
def fail (report : Report) : Report :=
  { report with failed := report.failed + 1 }

/-- Some finding is an error. -/
def hasErrors (report : Report) : Bool :=
  0 < report.errors

/-- Some finding is a warning. -/
def hasWarnings (report : Report) : Bool :=
  0 < report.warnings

/-- No finding is more than a hint. -/
def isClean (report : Report) : Bool :=
  report.errors == 0 && report.warnings == 0

/-- The exit code of a batch: 2 with errors, else 1 with warnings, else 0. -/
def exitCode (report : Report) : Nat :=
  if report.hasErrors then 2 else if report.hasWarnings then 1 else 0

/-- The numbers of files and of findings in a report. -/
def counts (report : Report) : List Nat :=
  [report.scanned, report.skipped, report.failed, report.errors, report.warnings, report.infos]

/-- Each count of a report is a word of 64 bits. -/
def fits (report : Report) : Bool :=
  report.counts.all (· < UInt64.size)

/-- The number of findings. -/
def findingCount (report : Report) : Nat :=
  report.results.foldl (fun count file => count + file.findings.length) 0

end Report

end PageAudit
