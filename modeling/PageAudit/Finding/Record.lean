import PageAudit.Finding.Basic
import PageAudit.Json.Printer
import PageAudit.Json.Reader
import PageAudit.Json.Record

/-! Findings as JSON records. -/

namespace PageAudit

/-- The severity of a name as it is written. -/
def Severity.ofName? (name : Text) : Option Severity :=
  [Severity.info, .warning, .error].find? (fun severity => severity.name == name)

/-- The category of a name as it is written. -/
def Category.ofName? (name : Text) : Option Category :=
  [Category.seo, .performance, .renderBudget, .bundle].find?
    (fun category => category.name == name)

/-- The record of a span. -/
def Span.toJson (span : Span) : Json.Value :=
  .object [("start", .count span.start), ("end", .count span.stop)]

/-- The span of a record. Its ends are taken as they are. -/
def Span.ofJson? (document : Json.Document) : Option Span :=
  match document.record? ["start", "end"] with
  | some [some start, some stop] =>
      start.count?.bind fun start => stop.count?.map fun stop => { start, stop }
  | _ => none

/-- The record of a position. -/
def Position.toJson (position : Position) : Json.Value :=
  .object [("line", .count position.line), ("column", .count position.column)]

/-- The position of a record. -/
def Position.ofJson? (document : Json.Document) : Option Position :=
  match document.record? ["line", "column"] with
  | some [some line, some column] =>
      line.count?.bind fun line => column.count?.map fun column => { line, column }
  | _ => none

namespace Finding

/-- The record of a finding. It has no member for a help text that is not there. -/
def toJson (finding : Finding) : Json.Value :=
  .object
    ([("code".toList, .string finding.code),
      ("severity".toList, .string finding.severity.name),
      ("category".toList, .string finding.category.name),
      ("message".toList, .string finding.message),
      ("span".toList, finding.span.toJson),
      ("position".toList, finding.position.toJson)]
      ++ (finding.help.map (fun help => ("help".toList, Json.Value.string help))).toList)

/-- The fields of the record of a finding. -/
def fields : List Text :=
  ["code", "severity", "category", "message", "span", "position", "help"]

/-- The finding of a record. A position that is not there is the origin, and a help text may be
left out.
-/
def ofJson? (document : Json.Document) : Option Finding :=
  match document.record? fields with
  | some [some code, some severity, some category, some message, some span, position, help] => do
      let code ← code.text?
      let severity ← severity.choice?.bind Severity.ofName?
      let category ← category.choice?.bind Category.ofName?
      let message ← message.text?
      let span ← Span.ofJson? span
      let position ← (position.map Position.ofJson?).getD (some .origin)
      let help ← (help.map Json.Document.optionalText?).getD (some none)
      some { code, severity, category, message, span, position, help }
  | _ => none

/-- The finding that a text spells. -/
def ofText? (text : Text) : Option Finding :=
  (Json.Document.ofText? text).bind ofJson?

end Finding

end PageAudit
