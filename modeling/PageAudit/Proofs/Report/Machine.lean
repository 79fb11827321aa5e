import Mathlib.Data.List.Forall2
import PageAudit.Proofs.Finding.Record
import PageAudit.Report.Machine

/-! A report for programs is read back: all findings of all files in order, and the totals.

The duration alone may be read as another number, since more than 64 bits of milliseconds are kept
as a floating-point number. What is read does not depend on the layout.
-/

namespace PageAudit

namespace Report

/-- All counts of a report have 64 bits, and its duration has that many of seconds. -/
structure Storable (report : Report) : Prop where
  counts : ∀ count ∈ report.counts, count < UInt64.size
  findings : ∀ file ∈ report.results, ∀ finding ∈ file.findings, finding.Storable
  milliseconds : report.milliseconds < UInt64.size * 1000

instance (report : Report) : Decidable report.Storable :=
  decidable_of_iff
    ((∀ count ∈ report.counts, count < UInt64.size)
      ∧ (∀ file ∈ report.results, ∀ finding ∈ file.findings, finding.Storable)
      ∧ report.milliseconds < UInt64.size * 1000)
    ⟨fun ⟨counts, findings, milliseconds⟩ => ⟨counts, findings, milliseconds⟩,
      fun ⟨counts, findings, milliseconds⟩ => ⟨counts, findings, milliseconds⟩⟩

/-- The findings of a report, each with the path of its file, file by file. -/
def listing (report : Report) : List (Text × Finding) :=
  report.results.flatMap fun file => file.findings.map fun finding => (file.path, finding)

theorem of_mem_listing {report : Report} {place : Text × Finding}
    (listed : place ∈ report.listing)
    : ∃ file ∈ report.results, place.2 ∈ file.findings := by
  obtain ⟨file, among, here⟩ := List.mem_flatMap.mp listed
  obtain ⟨finding, member, rfl⟩ := List.mem_map.mp here
  exact ⟨file, among, member⟩

end Report

namespace MachineFormat

/-- (Describes path finding element) says that a record has the members of a finding at a path. It
has a help text exactly when the finding has one.
-/
structure Describes (path : Text) (finding : Finding) (element : Json.Value) : Prop where
  file : element.member? "file" = some (.string path)
  code : element.member? "code" = some (.string finding.code)
  severity : element.member? "severity" = some (.string finding.severity.name)
  category : element.member? "category" = some (.string finding.category.name)
  message : element.member? "message" = some (.string finding.message)
  line : element.member? "line" = some (.count finding.position.line)
  column : element.member? "column" = some (.count finding.position.column)
  start : element.member? "start" = some (.count finding.span.start)
  stop : element.member? "end" = some (.count finding.span.stop)
  help : element.member? "help" = finding.help.map .string

/-- (Summarizes report summary) says that a record has the six counts of a report. -/
structure Summarizes (report : Report) (summary : Json.Value) : Prop where
  scanned : summary.member? "files_scanned" = some (.count report.scanned)
  skipped : summary.member? "files_skipped" = some (.count report.skipped)
  failed : summary.member? "files_failed" = some (.count report.failed)
  errors : summary.member? "error_count" = some (.count report.errors)
  warnings : summary.member? "warning_count" = some (.count report.warnings)
  infos : summary.member? "info_count" = some (.count report.infos)

/-- The record of the totals with any number in place of the duration. -/
def summaryWith (report : Report) (duration : Json.Number) : Json.Value :=
  .object
    [("files_scanned", .count report.scanned),
      ("files_skipped", .count report.skipped),
      ("files_failed", .count report.failed),
      ("error_count", .count report.errors),
      ("warning_count", .count report.warnings),
      ("info_count", .count report.infos),
      ("duration_ms", .number duration)]

/-- The record of a whole report with any number in place of the duration. -/
def reportWith (report : Report) (duration : Json.Number) : Json.Value :=
  .object
    [("diagnostics", .array (findingValues report)),
      ("summary", summaryWith report duration)]

theorem describes_findingValue (path : Text) (finding : Finding)
    : Describes path finding (findingValue path finding) := by
  unfold findingValue
  cases help : finding.help with
  | none => exact ⟨rfl, rfl, rfl, rfl, rfl, rfl, rfl, rfl, rfl, by rw [help]; rfl⟩
  | some text => exact ⟨rfl, rfl, rfl, rfl, rfl, rfl, rfl, rfl, rfl, by rw [help]; rfl⟩

theorem summarizes_summaryWith (report : Report) (duration : Json.Number)
    : Summarizes report (summaryWith report duration) :=
  ⟨rfl, rfl, rfl, rfl, rfl, rfl⟩

theorem findingValues_eq_map (report : Report)
    : findingValues report = report.listing.map fun place => findingValue place.1 place.2 := by
  simp only [findingValues, Report.listing, List.map_flatMap, List.map_map, Function.comp_def]

-----------------------------------------------------------------------------------------
-- Reading what is written
-----------------------------------------------------------------------------------------

/-- The record of a finding is an object of strings and counts. -/
theorem fits_findingValue (depth : Nat) (path : Text) {finding : Finding}
    (storable : finding.Storable)
    : (findingValue path finding).Fits (depth + 2) := by
  have line : (Json.Value.count _).Fits (depth + 1) := Json.Value.fits_count storable.line
  have column : (Json.Value.count _).Fits (depth + 1) := Json.Value.fits_count storable.column
  have start : (Json.Value.count _).Fits (depth + 1) := Json.Value.fits_count storable.start
  have stop : (Json.Value.count _).Fits (depth + 1) := Json.Value.fits_count storable.stop
  unfold findingValue
  cases finding.help with
  | none =>
      exact ⟨trivial, trivial, trivial, trivial, trivial, line, column, start, stop, trivial⟩
  | some help =>
      exact ⟨trivial, trivial, trivial, trivial, trivial, line, column, start, stop, trivial,
        trivial⟩

/-- What is written of a value in either layout is read back in the same way. -/
theorem ofText?_render (format : MachineFormat) {written read : Json.Value}
    (rereads : written.Rereads Json.Document.maxDepth read)
    : Json.Value.ofText? (format.render written) = some read := by
  unfold render
  split
  · exact rereads.ofText?_pretty
  · exact rereads.ofText?_compact

theorem ofText?_writeFinding (format : MachineFormat) (path : Text) {finding : Finding}
    (storable : finding.Storable)
    : Json.Value.ofText? (format.writeFinding path finding)
      = some (findingValue path finding) :=
  have fits : (findingValue path finding).Fits Json.Document.maxDepth :=
    fits_findingValue 125 path storable
  format.ofText?_render (fits.rereads Json.Document.maxDepth _)

variable {report : Report}

theorem storable_of_mem_listing (storable : report.Storable) {place : Text × Finding}
    (listed : place ∈ report.listing)
    : place.2.Storable := by
  obtain ⟨file, among, member⟩ := Report.of_mem_listing listed
  exact storable.findings file among place.2 member

theorem itemsFit_findingValues (depth : Nat) (storable : report.Storable)
    : Json.Value.ItemsFit (depth + 2) (findingValues report) := by
  rw [findingValues_eq_map]
  refine Json.Value.itemsFit_of_forall fun item member => ?_
  obtain ⟨place, listed, rfl⟩ := List.mem_map.mp member
  exact fits_findingValue depth place.1 (storable_of_mem_listing storable listed)

/-- The totals are read back with some number for the duration. -/
theorem exists_rereads_summaryValue (depth : Nat) (storable : report.Storable)
    : ∃ duration, (summaryValue report).Rereads (depth + 1) (summaryWith report duration) := by
  have words := storable.counts
  simp only [Report.counts, List.forall_mem_cons] at words
  obtain ⟨scanned, skipped, failed, errors, warnings, infos, -⟩ := words
  have count {value : Nat} (word : value < UInt64.size)
      : (Json.Value.count value).Rereads depth (.count value) :=
    Json.Value.Fits.rereads depth _ (Json.Value.fits_count word)
  have small : report.milliseconds < 2 ^ 200 :=
    Nat.lt_trans storable.milliseconds (by decide)
  obtain ⟨duration, spells⟩ := Json.Reader.exists_spells_ofNat small
  exact ⟨duration, .object <|
    .cons _ (count scanned) <| .cons _ (count skipped) <| .cons _ (count failed) <|
    .cons _ (count errors) <| .cons _ (count warnings) <| .cons _ (count infos) <|
    .cons _ (.number depth spells) (.nil depth)⟩

/-- A report is read back with all of its findings, and with some number for the duration. -/
theorem exists_ofText?_write (storable : report.Storable)
    : ∃ duration, ∀ format : MachineFormat,
        Json.Value.ofText? (format.write report) = some (reportWith report duration) := by
  obtain ⟨duration, summary⟩ := exists_rereads_summaryValue 125 storable
  have findings : Json.Value.ItemsFit 125 (findingValues report) :=
    itemsFit_findingValues 123 storable
  have rereads : (reportValue report).Rereads Json.Document.maxDepth
      (reportWith report duration) :=
    .object <| .cons _ (.array (Json.Value.Fits.itemsReread 125 _ findings)) <|
      .cons _ summary (.nil 126)
  exact ⟨duration, fun format => format.ofText?_render rereads⟩

/-- A report of any findings is written as JSON, of which both layouts are read as the same
document. Its list describes the findings of the report one by one, file by file, and each of them
is what that finding alone is written as. Its summary has the counts of the report.
-/
theorem exists_document_write (storable : report.Storable)
    : ∃ document elements summary,
        (∀ format : MachineFormat, Json.Value.ofText? (format.write report) = some document)
        ∧ document.member? "diagnostics" = some (.array elements)
        ∧ document.member? "summary" = some summary
        ∧ List.Forall₂
            (fun place element =>
              Describes place.1 place.2 element
              ∧ ∀ format : MachineFormat,
                Json.Value.ofText? (format.writeFinding place.1 place.2) = some element)
            report.listing elements
        ∧ Summarizes report summary := by
  obtain ⟨duration, read⟩ := exists_ofText?_write storable
  refine ⟨reportWith report duration, findingValues report, summaryWith report duration,
    read, rfl, rfl, ?_, summarizes_summaryWith report duration⟩
  rw [findingValues_eq_map, List.forall₂_map_right_iff, List.forall₂_same]
  intro place listed
  exact ⟨describes_findingValue place.1 place.2,
    fun format => format.ofText?_writeFinding place.1 (storable_of_mem_listing storable listed)⟩

/-- A report of three files, one of them without findings, whose texts hold quotes, backslashes,
control characters and others beyond ASCII. Its batch took more milliseconds than 64 bits can count.
-/
def awkwardReport : Report :=
  let finding : Finding :=
    { code := "SEO_TITLE_MISSING"
      severity := .warning
      category := .seo
      message := "no \"title\"\n\x01 in C:\\é.html"
      span := { start := 0, stop := UInt64.size - 1 } }
  { results :=
      [{ path := "a\\\"b\".html", findings := [finding, { finding with help := some "add\té" }] },
        { path := "empty.html", findings := [] },
        { path := "日本.html", findings := [{ finding with help := some [] }] }]
    scanned := 3
    skipped := UInt64.size - 1
    failed := 0
    errors := 0
    warnings := 3
    infos := 0
    milliseconds := UInt64.size + 1 }

/-- Witness: all three findings of that report are read back, and its duration is read as some
number.
-/
theorem exists_document_write_awkward
    : awkwardReport.Storable
      ∧ awkwardReport.listing.length = 3
      ∧ ∃ document elements summary,
        (∀ format : MachineFormat, Json.Value.ofText? (format.write awkwardReport) = some document)
        ∧ document.member? "diagnostics" = some (.array elements)
        ∧ elements.length = 3
        ∧ document.member? "summary" = some summary
        ∧ Summarizes awkwardReport summary := by
  have storable : awkwardReport.Storable := by decide
  have three : awkwardReport.listing.length = 3 := by decide
  obtain ⟨document, elements, summary, read, diagnostics, totals, each, counts⟩ :=
    exists_document_write storable
  exact ⟨storable, three, document, elements, summary, read, diagnostics,
    each.length_eq.symm.trans three, totals, counts⟩

end MachineFormat

end PageAudit
