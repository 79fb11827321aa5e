import PageAudit.Proofs.Audit.Overflow
import PageAudit.Proofs.Batch.Turns
import PageAudit.Proofs.Report.Machine

/-! What a batch reports has 64 bits, as far as its texts fit into memory.

The totals are words as far as they can be counted. The places of findings lie in their texts, and
no text in memory has as many as 2^63 bytes.
-/

namespace PageAudit

theorem Text.length_le_byteSize (text : Text) : text.length ≤ Text.byteSize text := by
  induction text with
  | nil => exact Nat.le_refl 0
  | cons char text ih =>
      have positive := char.utf8Size_pos
      rw [List.length_cons, Text.byteSize_cons]
      omega

/-- No position has more lines or columns than there are characters in front of it, and one. -/
theorem Position.behind_le (text : Text)
    : (behind text).line ≤ 1 + Text.byteSize text
      ∧ (behind text).column ≤ 1 + Text.byteSize text := by
  have length := Text.length_le_byteSize text
  have lines : text.count '\n' ≤ text.length := List.count_le_length
  have columns : (text.reverse.takeWhile (· ≠ '\n')).length ≤ text.length := by
    rw [← text.length_reverse]
    exact (List.takeWhile_sublist _).length_le
  exact ⟨Nat.add_le_add_left (lines.trans length) 1, Nat.add_le_add_left (columns.trans length) 1⟩

/-- The findings of a text in memory have places of 64 bits. -/
theorem Auditor.storable_of_mem_audit {policy : Policy} {fileName text : Text}
    (small : Text.byteSize text < 2 ^ 63) {finding : Finding}
    (member : finding ∈ (ofPolicy policy).audit fileName text)
    : finding.Storable := by
  rw [audit, Finding.settleAll_eq] at member
  obtain ⟨reported, evaluated, rfl⟩ := List.mem_map.mp member
  obtain ⟨rule, listed, fromRule⟩ := List.mem_flatMap.mp evaluated
  have faithful := Page.ofText_faithful policy .standard fileName text
  have lies : reported.span.LiesIn text :=
    Rule.grounded_of_mem_all listed _ faithful reported fromRule
  obtain ⟨before, after, split, start, settled⟩ := Finding.settle_eq lies
  have first : reported.span.start ≤ Text.byteSize text := lies.start.le_byteSize
  have last : reported.span.stop ≤ Text.byteSize text := lies.stop.le_byteSize
  obtain ⟨line, column⟩ := Position.behind_le before
  have word : 1 + 2 ^ 63 < UInt64.size := by decide
  rw [settled]
  constructor <;> dsimp only <;> omega

namespace Report

/-- No time passes while outcomes are put together. -/
theorem milliseconds_ofOutcomes (outcomes : List (Except ScanError FileReport))
    : (ofOutcomes outcomes).milliseconds = 0 := by
  induction outcomes with
  | nil => rfl
  | cons outcome outcomes ih =>
      have alone : (ofOutcome outcome).milliseconds = 0 := by
        cases outcome with
        | ok file => rfl
        | error cause =>
            rw [ofOutcome]
            split <;> rfl
      rw [ofOutcomes_cons, merge, alone, ih]

end Report

namespace Batch

variable {batch : Batch} {turns : List (Text × Bool)}

theorem milliseconds_scanTurns (turns : List (Text × Bool))
    : (batch.scanTurns turns).milliseconds = 0 := by
  rw [scanTurns_eq_ofOutcomes]
  exact Report.milliseconds_ofOutcomes _

/-- (InMemory batch turns) says that the texts of a batch are texts in memory, and that all that it
counts are words of 64 bits.
-/
structure InMemory (batch : Batch) (turns : List (Text × Bool)) : Prop where
  texts : ∀ turn ∈ turns, ∀ text, batch.textAt? turn.1 = some text → Text.byteSize text < 2 ^ 63
  counted : (batch.scanTurns? turns).isSome

/-- Nothing overflows in a batch with the standard tables, as long as no text has petabytes and words
of 64 bits can count the files and the findings.
-/
theorem inMemory_of_counts {policy : Policy} (full : batch.auditor = .ofPolicy policy)
    (texts : ∀ turn ∈ turns, ∀ text, batch.textAt? turn.1 = some text → Text.byteSize text < 2 ^ 54)
    (files : turns.length < UInt64.size)
    (findings : (batch.scanTurns turns).findingCount < UInt64.size)
    : batch.InMemory turns := by
  have within : ∀ turn ∈ turns, ¬ batch.overflows turn.2 turn.1 := by
    intro turn member overflows
    obtain ⟨text, read, stopped⟩ := exists_textAt?_of_overflows overflows
    have small := texts turn member text read
    rw [full] at stopped
    exact Bool.eq_false_iff.mp (Auditor.overflows_ofPolicy policy turn.1 small) stopped
  have fits : (batch.scanTurns turns).fits :=
    (batch.accounts_scanTurns turns).fits (by rwa [outcomes, List.length_map]) findings
  have counted := batch.scanTurns?_eq_some_iff.mpr ⟨within, rfl, fits⟩
  refine ⟨fun turn member text read => ?_, by rw [counted, Option.isSome_some]⟩
  exact (texts turn member text read).trans (by decide)

/-- The report of texts in memory can be stored, whatever time its batch took. -/
theorem storable_scanTurns {policy : Policy} (full : batch.auditor = .ofPolicy policy)
    (inMemory : batch.InMemory turns) {milliseconds : Nat}
    (short : milliseconds < UInt64.size * 1000)
    : Report.Storable { batch.scanTurns turns with milliseconds } := by
  refine ⟨?_, fun file listed finding member => ?_, short⟩
  · obtain ⟨report, counted⟩ := Option.isSome_iff_exists.mp inMemory.counted
    obtain ⟨-, rfl, fits⟩ := batch.scanTurns?_eq_some_iff.mp counted
    exact Report.fits_iff.mp fits
  · obtain ⟨turn, text, read, kept⟩ := batch.of_mem_results_scanTurns listed
    rw [kept, full] at member
    exact Auditor.storable_of_mem_audit (inMemory.texts _ turn text read)
      (List.mem_of_mem_filter member)

end Batch

end PageAudit
