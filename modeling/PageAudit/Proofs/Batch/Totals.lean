import PageAudit.Batch.Scan

/-! The totals of a batch, one outcome at a time.

A report is made by a fold. Reports are merged field by field, each outcome has a report of its own,
and the fold comes to the merged reports of all outcomes. Everything else is said about merged
reports.
-/

namespace PageAudit

namespace Report

/-- The findings of all files. -/
def findings (report : Report) : List Finding :=
  report.results.flatMap (·.findings)

/-- The total of a severity. -/
def total (report : Report) : Severity → Nat
  | .error => report.errors
  | .warning => report.warnings
  | .info => report.infos

/-- The report of two batches, of which one comes behind the other. -/
def merge (left right : Report) : Report :=
  { results := left.results ++ right.results
    scanned := left.scanned + right.scanned
    skipped := left.skipped + right.skipped
    failed := left.failed + right.failed
    errors := left.errors + right.errors
    warnings := left.warnings + right.warnings
    infos := left.infos + right.infos
    milliseconds := left.milliseconds + right.milliseconds }

theorem merge_empty (report : Report) : report.merge empty = report := by
  unfold merge empty
  simp only [List.append_nil, Nat.add_zero]

theorem empty_merge (report : Report) : empty.merge report = report := by
  unfold merge empty
  simp only [List.nil_append, Nat.zero_add]

theorem merge_assoc (first second third : Report)
    : (first.merge second).merge third = first.merge (second.merge third) := by
  unfold merge
  simp only [List.append_assoc, Nat.add_assoc]

theorem total_merge (left right : Report) (severity : Severity)
    : (left.merge right).total severity = left.total severity + right.total severity := by
  cases severity <;> rfl

theorem findings_merge (left right : Report)
    : (left.merge right).findings = left.findings ++ right.findings :=
  List.flatMap_append

/-- The number of findings of a severity. -/
def countOf (severity : Severity) (findings : List Finding) : Nat :=
  findings.countP (·.severity = severity)

theorem countOf_append (severity : Severity) (front back : List Finding)
    : countOf severity (front ++ back) = countOf severity front + countOf severity back :=
  List.countP_append

/-- Every finding has one of the three severities. -/
theorem countOf_add_countOf (findings : List Finding)
    : countOf .error findings + countOf .warning findings + countOf .info findings
      = findings.length := by
  induction findings with
  | nil => rfl
  | cons finding findings ih =>
      unfold countOf at ih ⊢
      simp only [List.countP_cons, List.length_cons]
      cases finding.severity <;> simp <;> omega

/-- A report with the totals of some findings on top of its own. -/
def addFindings (report : Report) (findings : List Finding) : Report :=
  { report with
    errors := report.errors + countOf .error findings
    warnings := report.warnings + countOf .warning findings
    infos := report.infos + countOf .info findings }

/-- One finding more is one more of its severity. -/
theorem tally_eq_addFindings (report : Report) (finding : Finding)
    : report.tally finding.severity = report.addFindings [finding] := by
  cases same : finding.severity with
  | error => simp [tally, addFindings, countOf, same]
  | warning => simp [tally, addFindings, countOf, same]
  | info => simp [tally, addFindings, countOf, same]

/-- The findings of a file are counted one by one, by induction over them. -/
theorem foldl_tally (report : Report) (findings : List Finding)
    : (findings.map (·.severity)).foldl tally report = report.addFindings findings := by
  induction findings generalizing report with
  | nil => rfl
  | cons finding findings ih =>
      have together : (report.addFindings [finding]).addFindings findings
          = report.addFindings (finding :: findings) := by
        have split (severity : Severity) :=
          countOf_append severity [finding] findings
        rw [List.singleton_append] at split
        simp only [addFindings, split, Nat.add_assoc]
      rw [List.map_cons, List.foldl_cons, tally_eq_addFindings, ih, together]

/-- The report of one scanned file. -/
def ofFile (file : FileReport) : Report :=
  { (empty.addFindings file.findings) with results := [file], scanned := 1 }

theorem record_eq_merge (report : Report) (file : FileReport)
    : report.record file = report.merge (ofFile file) := by
  unfold record
  simp only [foldl_tally]
  simp [merge, ofFile, addFindings, empty]

/-- The report of one file with a given outcome. -/
def ofOutcome : Except ScanError FileReport → Report
  | .ok file => ofFile file
  | .error cause => if cause.isSkip then { empty with skipped := 1 } else { empty with failed := 1 }

/-- One outcome more is the report of that outcome behind the others. -/
theorem recordOutcome_eq_merge (report : Report) (outcome : Except ScanError FileReport)
    : Batch.recordOutcome report outcome = report.merge (ofOutcome outcome) := by
  cases outcome with
  | ok file => exact report.record_eq_merge file
  | error cause =>
      unfold Batch.recordOutcome
      cases skipped : cause.isSkip with
      | true => simp [ofOutcome, skipped, skip, merge, empty]
      | false => simp [ofOutcome, skipped, fail, merge, empty]

/-- The report of files with given outcomes. -/
def ofOutcomes (outcomes : List (Except ScanError FileReport)) : Report :=
  outcomes.foldr (fun outcome report => (ofOutcome outcome).merge report) empty

theorem ofOutcomes_cons (outcome : Except ScanError FileReport)
    (outcomes : List (Except ScanError FileReport))
    : ofOutcomes (outcome :: outcomes) = (ofOutcome outcome).merge (ofOutcomes outcomes) :=
  rfl

theorem ofOutcomes_append (front back : List (Except ScanError FileReport))
    : ofOutcomes (front ++ back) = (ofOutcomes front).merge (ofOutcomes back) := by
  induction front with
  | nil => exact (empty_merge _).symm
  | cons outcome front ih =>
      rw [List.cons_append, ofOutcomes_cons, ih, ← merge_assoc, ← ofOutcomes_cons]

/-- The outcomes of a batch are recorded one by one, by induction over them. -/
theorem foldl_recordOutcome (report : Report) (outcomes : List (Except ScanError FileReport))
    : outcomes.foldl Batch.recordOutcome report = report.merge (ofOutcomes outcomes) := by
  induction outcomes generalizing report with
  | nil => rw [ofOutcomes, List.foldr_nil, merge_empty, List.foldl_nil]
  | cons outcome outcomes ih =>
      rw [List.foldl_cons, recordOutcome_eq_merge, ih, merge_assoc, ← ofOutcomes_cons]

theorem fits_iff {report : Report}
    : report.fits ↔ ∀ count ∈ report.counts, count < UInt64.size := by
  simp [fits]

/-- What is added to a report makes none of its counts less. -/
theorem fits_of_merge {left right : Report} (fits : (left.merge right).fits) : left.fits := by
  rw [fits_iff] at fits ⊢
  simp only [counts, merge, List.forall_mem_cons, List.not_mem_nil, false_imp_iff, implies_true,
    and_true] at fits ⊢
  omega

/-- A report is counted on to the exact one, unless that does not fit. No report on the way has
larger counts. The induction is over the outcomes, with any report that fits as that of those before
them.
-/
theorem foldlM_recordOutcome? {report : Report} (word : report.fits)
    (outcomes : List (Except ScanError FileReport))
    : outcomes.foldlM Batch.recordOutcome? report
      = (some (report.merge (ofOutcomes outcomes))).filter fits := by
  induction outcomes generalizing report with
  | nil =>
      rw [ofOutcomes, List.foldr_nil, merge_empty]
      exact (Option.filter_some_pos word).symm
  | cons outcome outcomes ih =>
      rw [List.foldlM_cons, Batch.recordOutcome?, recordOutcome_eq_merge, ofOutcomes_cons,
        ← merge_assoc]
      cases next : (report.merge (ofOutcome outcome)).fits with
      | true =>
          rw [Option.filter_some_pos next]
          exact ih next
      | false =>
          have beyond
              : ((report.merge (ofOutcome outcome)).merge (ofOutcomes outcomes)).fits = false :=
            Bool.eq_false_iff.mpr fun fits => Bool.eq_false_iff.mp next (fits_of_merge fits)
          rw [Option.filter_some_neg next, Option.filter_some_neg beyond]
          rfl

/-- A report that is made from nothing comes to the merged reports of its outcomes. -/
theorem foldl_recordOutcome_empty (outcomes : List (Except ScanError FileReport))
    : outcomes.foldl Batch.recordOutcome empty = ofOutcomes outcomes := by
  rw [foldl_recordOutcome, empty_merge]

end Report

end PageAudit
