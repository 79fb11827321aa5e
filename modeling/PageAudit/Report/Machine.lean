import PageAudit.Batch.Report
import PageAudit.Json.Printer

/-! Reports for programs: one JSON object with all findings and a summary. -/

namespace PageAudit

/-- Reports for programs stand on one line or on indented lines. -/
structure MachineFormat where
  pretty : Bool

namespace MachineFormat

/-- The record of a finding in the file at a path. -/
def findingValue (path : Text) (finding : Finding) : Json.Value :=
  .object
    ([("file".toList, .string path),
      ("code".toList, .string finding.code),
      ("severity".toList, .string finding.severity.name),
      ("category".toList, .string finding.category.name),
      ("message".toList, .string finding.message),
      ("line".toList, .count finding.position.line),
      ("column".toList, .count finding.position.column),
      ("start".toList, .count finding.span.start),
      ("end".toList, .count finding.span.stop)]
      ++ (finding.help.map (fun help => ("help".toList, Json.Value.string help))).toList)

/-- The records of all findings, file by file. -/
def findingValues (report : Report) : List Json.Value :=
  report.results.flatMap fun file => file.findings.map (findingValue file.path)

/-- The record of the totals. -/
def summaryValue (report : Report) : Json.Value :=
  .object
    [("files_scanned", .count report.scanned),
      ("files_skipped", .count report.skipped),
      ("files_failed", .count report.failed),
      ("error_count", .count report.errors),
      ("warning_count", .count report.warnings),
      ("info_count", .count report.infos),
      ("duration_ms", .count report.milliseconds)]

/-- The record of a whole report. -/
def reportValue (report : Report) : Json.Value :=
  .object
    [("diagnostics", .array (findingValues report)), ("summary", summaryValue report)]

/-- A value as text. -/
def render (format : MachineFormat) (value : Json.Value) : Text :=
  if format.pretty then value.pretty else value.compact

/-- A finding in the file at a path. -/
def writeFinding (format : MachineFormat) (path : Text) (finding : Finding) : Text :=
  format.render (findingValue path finding)

/-- A whole report. -/
def write (format : MachineFormat) (report : Report) : Text :=
  format.render (reportValue report)

end MachineFormat

end PageAudit
