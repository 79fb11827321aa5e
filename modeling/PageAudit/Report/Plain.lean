import PageAudit.Batch.Report
import PageAudit.Decimal.Binary64
import PageAudit.Report.Style

/-! Reports for people: one line for each finding below the name of its file, and a summary.
Terminals may show parts of it in colours.
-/

namespace PageAudit

/-- What reports for people show: colours, help texts and the summary. -/
structure PlainFormat where
  colored : Bool
  showHelp : Bool
  showSummary : Bool

namespace PlainFormat

/-- A text in a style, where colours are shown. -/
def paint (format : PlainFormat) (style : Style) (text : Text) : Text :=
  if format.colored then style.paint text else text

/-- The style of a severity. -/
def severityStyle : Severity → Style
  | .error => .boldRed
  | .warning => .boldYellow
  | .info => .blue

/-- The line of a finding in the file at a path, and perhaps one with its help text. -/
def writeFinding (format : PlainFormat) (path : Text) (finding : Finding) : Text :=
  let place :=
    path ++ ':' :: Text.ofNat finding.position.line ++ ':' :: Text.ofNat finding.position.column
  let severity := format.paint (severityStyle finding.severity) finding.severity.name
  let line :=
    place ++ ": ".toList ++ severity ++ '[' :: format.paint .cyan finding.code
      ++ "]: ".toList ++ finding.message ++ ['\n']
  match finding.help with
  | some help =>
      if format.showHelp then
        line ++ "   ".toList ++ format.paint .blue "=" ++ " help: ".toList ++ help ++ ['\n']
      else line
  | none => line

/-- The findings of a file below its name, and an empty line. A file without findings is not
mentioned.
-/
def writeFile (format : PlainFormat) (file : FileReport) : Text :=
  if file.findings.isEmpty then []
  else
    format.paint .underline file.path
      ++ '\n' :: file.findings.flatMap (format.writeFinding file.path) ++ ['\n']

/-- A number of things, unless there is none. -/
def countText? (format : PlainFormat) (style : Style) (count : Nat) (singular plural : Text)
    : Option Text :=
  if count = 0 then none
  else
    some
      (format.paint style
        (Text.ofNat count ++ ' ' :: if count = 1 then singular else plural))

/-- The time that a batch took, in seconds with two places. -/
def duration (milliseconds : Nat) : Text :=
  ((Binary64.ofNat (milliseconds / 1000)).add
    (.ofQuotient (milliseconds % 1000) 1000)).fixed 2

/-- The summary: the numbers of files and findings, and the time. -/
def writeSummary (format : PlainFormat) (report : Report) : Text :=
  let part := fun (count : Nat) (name : Text) =>
    if count = 0 then [] else ", ".toList ++ Text.ofNat count ++ ' ' :: name
  let counts :=
    [format.countText? .red report.errors "error" "errors",
      format.countText? .yellow report.warnings "warning" "warnings",
      format.countText? .blue report.infos "info" "infos"].filterMap id
  Text.ofNat report.scanned
    ++ (if report.scanned = 1 then " file scanned".toList else " files scanned".toList)
    ++ part report.skipped "skipped" ++ part report.failed "failed"
    ++ (if counts.isEmpty then [] else ": ".toList ++ Text.join ", " counts)
    ++ "\nFinished in ".toList ++ duration report.milliseconds ++ "s\n".toList

/-- A whole report. -/
def write (format : PlainFormat) (report : Report) : Text :=
  report.results.flatMap format.writeFile
    ++ if format.showSummary then format.writeSummary report else []

end PlainFormat

end PageAudit
