import PageAudit.Proofs.Batch.Totals

/-! The accounts of a batch: no file is lost or counted twice, and every total is that of the
findings that are listed.
-/

namespace PageAudit

namespace Batch

/-- A file was passed over on purpose. -/
def isSkip : Except ScanError FileReport → Bool
  | .ok _ => false
  | .error cause => cause.isSkip

/-- A file could not be scanned. -/
def isFailure : Except ScanError FileReport → Bool
  | .ok _ => false
  | .error cause => !cause.isSkip

/-- Each outcome is a report, a skip or a failure, by induction over the outcomes. -/
theorem length_outcomes (outcomes : List (Except ScanError FileReport))
    : (outcomes.filterMap Except.toOption).length + outcomes.countP isSkip
        + outcomes.countP isFailure
      = outcomes.length := by
  induction outcomes with
  | nil => rfl
  | cons outcome outcomes ih =>
      rw [List.countP_cons, List.countP_cons, List.length_cons]
      cases outcome with
      | ok file =>
          have listed : (Except.ok file :: outcomes).filterMap Except.toOption
              = file :: outcomes.filterMap Except.toOption := rfl
          simp only [listed, isSkip, isFailure, List.length_cons, Bool.false_eq_true, if_false]
          omega
      | error cause =>
          have dropped : (Except.error cause :: outcomes).filterMap Except.toOption
              = outcomes.filterMap Except.toOption := rfl
          cases skipped : cause.isSkip with
          | true =>
              simp only [dropped, isSkip, isFailure, skipped, Bool.not_true, Bool.false_eq_true,
                if_true, if_false]
              omega
          | false =>
              simp only [dropped, isSkip, isFailure, skipped, Bool.not_false, Bool.false_eq_true,
                if_true, if_false]
              omega

end Batch

namespace Report

/-- (Accounts outcomes report) says that the fields of a report are what they are of the given
outcomes: the files with a report in order, the numbers of files of each kind, and of each severity
the number of findings that are listed.
-/
structure Accounts (outcomes : List (Except ScanError FileReport)) (report : Report) : Prop where
  results : report.results = outcomes.filterMap Except.toOption
  scanned : report.scanned = report.results.length
  skipped : report.skipped = outcomes.countP Batch.isSkip
  failed : report.failed = outcomes.countP Batch.isFailure
  totals : ∀ severity, report.total severity = countOf severity report.findings

theorem accounts_empty : Accounts [] empty :=
  { results := rfl
    scanned := rfl
    skipped := rfl
    failed := rfl
    totals := fun severity => by cases severity <;> rfl }

theorem accounts_ofOutcome (outcome : Except ScanError FileReport)
    : Accounts [outcome] (ofOutcome outcome) := by
  cases outcome with
  | ok file =>
      have listed : (ofFile file).findings = file.findings := List.append_nil _
      refine { results := rfl, scanned := rfl, skipped := rfl, failed := rfl, totals := ?_ }
      intro severity
      rw [ofOutcome, listed]
      cases severity <;> exact Nat.zero_add _
  | error cause =>
      cases skipped : cause.isSkip with
      | true =>
          rw [ofOutcome, if_pos skipped]
          refine { results := rfl, scanned := rfl, skipped := ?_, failed := ?_, totals := ?_ }
          · simp [Batch.isSkip, skipped]
          · simp [Batch.isFailure, skipped, empty]
          · intro severity
            cases severity <;> rfl
      | false =>
          rw [ofOutcome, skipped, if_neg Bool.false_ne_true]
          refine { results := rfl, scanned := rfl, skipped := ?_, failed := ?_, totals := ?_ }
          · simp [Batch.isSkip, skipped, empty]
          · simp [Batch.isFailure, skipped]
          · intro severity
            cases severity <;> rfl

theorem Accounts.merge {front back : List (Except ScanError FileReport)} {left right : Report}
    (first : Accounts front left) (second : Accounts back right)
    : Accounts (front ++ back) (left.merge right) := by
  constructor
  · rw [List.filterMap_append, ← first.results, ← second.results]
    rfl
  · calc
      (left.merge right).scanned = left.scanned + right.scanned := rfl
      _ = left.results.length + right.results.length := by rw [first.scanned, second.scanned]
      _ = (left.merge right).results.length := List.length_append.symm
  · rw [List.countP_append, ← first.skipped, ← second.skipped]
    rfl
  · rw [List.countP_append, ← first.failed, ← second.failed]
    rfl
  · intro severity
    rw [total_merge, findings_merge, countOf_append, first.totals, second.totals]

/-- The merged reports of all outcomes account for them, by induction over the outcomes. -/
theorem accounts_ofOutcomes (outcomes : List (Except ScanError FileReport))
    : Accounts outcomes (ofOutcomes outcomes) := by
  induction outcomes with
  | nil => exact accounts_empty
  | cons outcome outcomes ih => exact (accounts_ofOutcome outcome).merge ih

theorem results_foldl_recordOutcome (outcomes : List (Except ScanError FileReport))
    : (outcomes.foldl Batch.recordOutcome empty).results
      = outcomes.filterMap Except.toOption := by
  rw [foldl_recordOutcome_empty]
  exact (accounts_ofOutcomes outcomes).results

theorem findingCount_eq_length (report : Report)
    : report.findingCount = report.findings.length := by
  have counted (files : List FileReport) (count : Nat)
      : files.foldl (fun count file => count + file.findings.length) count
        = count + (files.flatMap (·.findings)).length := by
    induction files generalizing count with
    | nil => rfl
    | cons file files ih =>
        rw [List.foldl_cons, ih, List.flatMap_cons, List.length_append, Nat.add_assoc]
  exact (counted report.results 0).trans (Nat.zero_add _)

theorem total_le_findingCount {outcomes : List (Except ScanError FileReport)} {report : Report}
    (accounts : Accounts outcomes report) (severity : Severity)
    : report.total severity ≤ report.findingCount := by
  rw [accounts.totals, findingCount_eq_length]
  exact List.countP_le_length

/-- A report fits when words of 64 bits can count its outcomes and its findings. -/
theorem Accounts.fits {outcomes : List (Except ScanError FileReport)} {report : Report}
    (accounts : Accounts outcomes report) (files : outcomes.length < UInt64.size)
    (findings : report.findingCount < UInt64.size)
    : report.fits := by
  have length := Batch.length_outcomes outcomes
  rw [← accounts.results, ← accounts.scanned, ← accounts.skipped, ← accounts.failed] at length
  have errors : report.errors ≤ report.findingCount := total_le_findingCount accounts .error
  have warnings : report.warnings ≤ report.findingCount := total_le_findingCount accounts .warning
  have infos : report.infos ≤ report.findingCount := total_le_findingCount accounts .info
  rw [fits_iff]
  simp only [counts, List.forall_mem_cons, List.not_mem_nil, false_imp_iff, implies_true, and_true]
  omega

end Report

end PageAudit
