import Mathlib.Data.List.Flatten
import Mathlib.Tactic.SplitIfs
import PageAudit.Proofs.Batch.Turns

/-! Nothing is kept between the files of a batch: its report is that of its parts, merged, in any
order, and a file without a report changes one total by one.
-/

namespace PageAudit

namespace Report

/-- The exit code is up to the gravest finding. -/
theorem exitCode_merge (left right : Report)
    : (left.merge right).exitCode = max left.exitCode right.exitCode := by
  unfold exitCode hasErrors hasWarnings merge
  simp only [decide_eq_true_eq]
  split_ifs <;> omega

/-- (Rearranges left right) says that two reports list the same files, perhaps in another order, and
have the same totals.
-/
structure Rearranges (left right : Report) : Prop where
  results : left.results.Perm right.results
  scanned : left.scanned = right.scanned
  skipped : left.skipped = right.skipped
  failed : left.failed = right.failed
  errors : left.errors = right.errors
  warnings : left.warnings = right.warnings
  infos : left.infos = right.infos

theorem Rearranges.refl (report : Report) : Rearranges report report :=
  ⟨.rfl, rfl, rfl, rfl, rfl, rfl, rfl⟩

theorem Rearranges.trans {first second third : Report} (left : Rearranges first second)
    (right : Rearranges second third)
    : Rearranges first third :=
  { results := left.results.trans right.results
    scanned := left.scanned.trans right.scanned
    skipped := left.skipped.trans right.skipped
    failed := left.failed.trans right.failed
    errors := left.errors.trans right.errors
    warnings := left.warnings.trans right.warnings
    infos := left.infos.trans right.infos }

theorem merge_rearranges (left right : Report)
    : Rearranges (left.merge right) (right.merge left) :=
  { results := List.perm_append_comm
    scanned := Nat.add_comm _ _
    skipped := Nat.add_comm _ _
    failed := Nat.add_comm _ _
    errors := Nat.add_comm _ _
    warnings := Nat.add_comm _ _
    infos := Nat.add_comm _ _ }

theorem Rearranges.merge {left right first second : Report} (front : Rearranges left first)
    (back : Rearranges right second)
    : Rearranges (left.merge right) (first.merge second) := by
  constructor
  · exact front.results.append back.results
  · rw [Report.merge, Report.merge, front.scanned, back.scanned]
  · rw [Report.merge, Report.merge, front.skipped, back.skipped]
  · rw [Report.merge, Report.merge, front.failed, back.failed]
  · rw [Report.merge, Report.merge, front.errors, back.errors]
  · rw [Report.merge, Report.merge, front.warnings, back.warnings]
  · rw [Report.merge, Report.merge, front.infos, back.infos]

theorem Rearranges.exitCode_eq {left right : Report} (same : Rearranges left right)
    : left.exitCode = right.exitCode := by
  unfold exitCode hasErrors hasWarnings
  rw [same.errors, same.warnings]

/-- The order of outcomes is the order of their reports, by induction over the permutation. -/
theorem rearranges_of_perm {outcomes others : List (Except ScanError FileReport)}
    (permuted : outcomes.Perm others)
    : Rearranges (ofOutcomes outcomes) (ofOutcomes others) := by
  induction permuted with
  | nil => exact .refl _
  | cons outcome _ ih => exact (Rearranges.refl (ofOutcome outcome)).merge ih
  | swap first second rest =>
      have swapped := (merge_rearranges (ofOutcome second) (ofOutcome first)).merge
        (Rearranges.refl (ofOutcomes rest))
      rw [merge_assoc, merge_assoc] at swapped
      exact swapped
  | trans _ _ first second => exact first.trans second

/-- A file without a report among others is one more that was skipped or that failed. -/
theorem merge_ofOutcome_error (left right : Report) (cause : ScanError)
    : left.merge ((ofOutcome (.error cause)).merge right)
      = if Batch.isFailure (.error cause) then
          { left.merge right with failed := (left.merge right).failed + 1 }
        else { left.merge right with skipped := (left.merge right).skipped + 1 } := by
  have moved (first second : Nat) : first + (1 + second) = first + second + 1 := by omega
  cases skipped : cause.isSkip with
  | true => simp [ofOutcome, Batch.isFailure, skipped, merge, empty, moved]
  | false => simp [ofOutcome, Batch.isFailure, skipped, merge, empty, moved]

end Report

namespace Batch

variable (batch : Batch)

theorem scanTurns_append (front back : List (Text × Bool))
    : batch.scanTurns (front ++ back)
      = (batch.scanTurns front).merge (batch.scanTurns back) := by
  rw [scanTurns_eq_ofOutcomes, scanTurns_eq_ofOutcomes, scanTurns_eq_ofOutcomes, outcomes,
    List.map_append]
  exact Report.ofOutcomes_append _ _

theorem rearranges_scanTurns {turns others : List (Text × Bool)} (permuted : turns.Perm others)
    : Report.Rearranges (batch.scanTurns turns) (batch.scanTurns others) := by
  rw [scanTurns_eq_ofOutcomes, scanTurns_eq_ofOutcomes]
  exact Report.rearranges_of_perm (permuted.map _)

/-- A file that is too large or cannot be read has no report. -/
theorem exists_error_scanFile {path : Text}
    (unreadable : ∀ node, batch.files path = some node
      → batch.options.maxBytes < node.size ∨ node.text? = none)
    (isCancelled : Bool)
    : ∃ cause, batch.scanFile isCancelled path = .error cause := by
  have becomes := batch.becomes_scanFile isCancelled path
  cases outcome : batch.scanFile isCancelled path with
  | error cause => exact ⟨cause, rfl⟩
  | ok file =>
      rw [outcome] at becomes
      cases becomes with
      | scanned kind found small read =>
          rcases unreadable _ found with large | noText
          · exact absurd large (Nat.not_lt.mpr small)
          · exact absurd (read.symm.trans noText) (Option.some_ne_none _)

section Insertion

variable {front back : List (Text × Bool)} {path : Text} {isCancelled : Bool} {cause : ScanError}

theorem outcomes_insert (failed : batch.scanFile isCancelled path = .error cause)
    : batch.outcomes (front ++ (path, isCancelled) :: back)
      = batch.outcomes front ++ .error cause :: batch.outcomes back := by
  rw [outcomes, List.map_append, List.map_cons, failed]
  rfl

/-- A turn without a report changes one total, wherever it stands. -/
theorem scanTurns_insert (failed : batch.scanFile isCancelled path = .error cause)
    : batch.scanTurns (front ++ (path, isCancelled) :: back)
      = if !isCancelled && batch.failsAt path then
          { batch.scanTurns (front ++ back) with
            failed := (batch.scanTurns (front ++ back)).failed + 1 }
        else
          { batch.scanTurns (front ++ back) with
            skipped := (batch.scanTurns (front ++ back)).skipped + 1 } := by
  have fails := (batch.becomes_scanFile isCancelled path).isFailure_eq
  have inserted := Report.merge_ofOutcome_error (Report.ofOutcomes (batch.outcomes front))
    (Report.ofOutcomes (batch.outcomes back)) cause
  have joined : batch.outcomes (front ++ back) = batch.outcomes front ++ batch.outcomes back :=
    List.map_append
  rw [scanTurns_eq_ofOutcomes, scanTurns_eq_ofOutcomes, ← fails, failed,
    batch.outcomes_insert failed, joined, Report.ofOutcomes_append, Report.ofOutcomes_append,
    Report.ofOutcomes_cons, inserted]

end Insertion

/-- The report of a batch is made of the reports of its files and of nothing else. That of two lists
of files is the merged report of both, no order of the files changes more than the order of the
results, and a file that is too large or cannot be read changes one total by one, wherever it
stands.
-/
theorem scanFiles_append (isCancelled : Bool) (front back : List Text)
    : batch.scanFiles isCancelled (front ++ back)
        = (batch.scanFiles isCancelled front).merge (batch.scanFiles isCancelled back)
      ∧ (batch.scanFiles isCancelled (front ++ back)).exitCode
        = max (batch.scanFiles isCancelled front).exitCode
            (batch.scanFiles isCancelled back).exitCode
      ∧ (∀ paths, paths.Perm (front ++ back) →
          Report.Rearranges (batch.scanFiles isCancelled paths)
            (batch.scanFiles isCancelled (front ++ back))
          ∧ (batch.scanFiles isCancelled paths).exitCode
            = (batch.scanFiles isCancelled (front ++ back)).exitCode)
      ∧ (∀ path,
          (∀ node, batch.files path = some node
            → batch.options.maxBytes < node.size ∨ node.text? = none)
          → batch.scanFiles isCancelled (front ++ path :: back)
            = if !isCancelled && batch.failsAt path then
                { batch.scanFiles isCancelled (front ++ back) with
                  failed := (batch.scanFiles isCancelled (front ++ back)).failed + 1 }
              else
                { batch.scanFiles isCancelled (front ++ back) with
                  skipped := (batch.scanFiles isCancelled (front ++ back)).skipped + 1 }) := by
  have joined : batch.scanFiles isCancelled (front ++ back)
      = batch.scanTurns (front.map (·, isCancelled) ++ back.map (·, isCancelled)) := by
    unfold scanFiles
    rw [List.map_append]
  have merged : batch.scanFiles isCancelled (front ++ back)
      = (batch.scanFiles isCancelled front).merge (batch.scanFiles isCancelled back) := by
    rw [joined]
    exact batch.scanTurns_append _ _
  refine ⟨merged, ?_, fun paths permuted => ?_, fun path unreadable => ?_⟩
  · rw [merged, Report.exitCode_merge]
  · have same := batch.rearranges_scanTurns (permuted.map (·, isCancelled))
    exact ⟨same, same.exitCode_eq⟩
  · obtain ⟨cause, failed⟩ := batch.exists_error_scanFile unreadable isCancelled
    rw [joined]
    unfold scanFiles
    rw [List.map_append, List.map_cons]
    exact batch.scanTurns_insert failed

/-- Witness: a page and a file that is not UTF-8, with a missing file between them. -/
theorem scanFiles_append_missing
    : small.scanFiles false (["page.html".toList] ++ ["broken.html".toList])
        = (small.scanFiles false ["page.html".toList]).merge
            (small.scanFiles false ["broken.html".toList])
      ∧ (small.scanFiles false
            (["page.html".toList] ++ "missing.html".toList :: ["broken.html".toList])).failed
        = (small.scanFiles false (["page.html".toList] ++ ["broken.html".toList])).failed + 1 := by
  have nowhere : small.files "missing.html".toList = none := by decide +kernel
  have fails : small.failsAt "missing.html".toList = true := by decide +kernel
  obtain ⟨merged, -, -, inserted⟩ := small.scanFiles_append false _ _
  have more := inserted "missing.html".toList
    fun node found => absurd (nowhere.symm.trans found) nofun
  rw [fails] at more
  exact ⟨merged, congrArg Report.failed more⟩

end Batch

end PageAudit
