import PageAudit.Audit
import PageAudit.Batch.Report
import PageAudit.Files.Walk

/-! Scanning a batch of files: the checks that a file passes before it is audited, the choice
of findings that are kept, and the totals.
-/

namespace PageAudit

/-- The settings of a batch: the greatest size of a file in bytes, the least severity, and the
codes that are dropped.
-/
structure BatchOptions where
  maxBytes : Nat
  leastSeverity : Severity
  disabled : List Text

namespace BatchOptions

/-- Files above this size are not scanned unless a batch asks for it. -/
def standardMaxBytes : Nat :=
  500 * 1024

/-- A finding is kept: it is serious enough and its code is not dropped, in any case. -/
def keeps (options : BatchOptions) (finding : Finding) : Bool :=
  finding.severity.atLeast options.leastSeverity
    && !options.disabled.any (Text.sameLetters · finding.code)

end BatchOptions

/-- Why a file has no report: it cannot be read, it is too large, it is of a kind that is not
scanned, or the batch was cancelled before its turn.
-/
inductive ScanError where
  | unreadable
  | tooLarge (size limit : Nat)
  | unsupported
  | cancelled
deriving DecidableEq

namespace ScanError

/-- A file that is passed over on purpose did not fail. -/
def isSkip : ScanError → Bool
  | .unreadable => false
  | .tooLarge _ _ | .unsupported | .cancelled => true

/-- What is said about a file at a path. -/
def message (path : Text) : ScanError → Text
  | .unreadable => "failed to read ".toList ++ path
  | .tooLarge size limit =>
      path ++ " is ".toList ++ Text.ofNat size ++ " bytes, above the ".toList ++ Text.ofNat limit
        ++ " byte limit".toList
  | .unsupported => path ++ " is not a supported file type".toList
  | .cancelled => "scan cancelled before ".toList ++ path

end ScanError

/-- A batch scans the files of a file system with an auditor. -/
structure Batch where
  auditor : Auditor
  options : BatchOptions
  files : FileSystem

namespace Batch

/-- The report of a text at a path: its findings that are kept. -/
def reportText (batch : Batch) (path text : Text) : FileReport :=
  { path, findings := (batch.auditor.audit path text).filter batch.options.keeps }

/-- The report of the file at a path, when it passes all checks. A file whose turn comes behind
the cancellation is not looked at. A directory has a size like a file, and only reading it fails.
-/
def scanFile (batch : Batch) (isCancelled : Bool) (path : Text) : Except ScanError FileReport :=
  if isCancelled then .error .cancelled
  else if ¬ Path.isScanned path then .error .unsupported
  else
    match batch.files path with
    | none => .error .unreadable
    | some node =>
        if batch.options.maxBytes < node.size then
          .error (.tooLarge node.size batch.options.maxBytes)
        else
          match node.text? with
          | some text => .ok (batch.reportText path text)
          | none => .error .unreadable

/-- A report with the outcome of one more file. -/
def recordOutcome (report : Report) : Except ScanError FileReport → Report
  | .ok file => report.record file
  | .error cause => if cause.isSkip then report.skip else report.fail

/-- A report with the outcome of one more file, unless it does not fit. -/
def recordOutcome? (report : Report) (outcome : Except ScanError FileReport) : Option Report :=
  (some (recordOutcome report outcome)).filter Report.fits

/-- The report of files of which each comes with whether the batch was cancelled before its
turn.
-/
def scanTurns (batch : Batch) (turns : List (Text × Bool)) : Report :=
  (turns.map (fun (path, isCancelled) => batch.scanFile isCancelled path)).foldl recordOutcome
    .empty

/-- The audit of the file at a path overflows, when the file passes all checks. -/
def overflows (batch : Batch) (isCancelled : Bool) (path : Text) : Bool :=
  (batch.scanFile isCancelled path).isOk
    && ((batch.files path).bind (·.text?)).any fun text =>
      batch.auditor.overflows
        (.ofText batch.auditor.policy batch.auditor.tables path text)

/-- The report of files as it is counted, one file after the other in words of 64 bits. There is
none when the audit of a file overflows, or when a count does on the way.
-/
def scanTurns? (batch : Batch) (turns : List (Text × Bool)) : Option Report :=
  if turns.any (fun (path, isCancelled) => batch.overflows isCancelled path) then none
  else
    (turns.map (fun (path, isCancelled) => batch.scanFile isCancelled path)).foldlM recordOutcome?
      .empty

/-- The report of files, of which all or none come behind the cancellation. -/
def scanFiles (batch : Batch) (isCancelled : Bool) (paths : List Text) : Report :=
  batch.scanTurns (paths.map (·, isCancelled))

/-- The report of the scanned files at and below some paths. -/
def scanPaths (batch : Batch) (isCancelled : Bool) (paths : List Text) : Report :=
  batch.scanFiles isCancelled (batch.files.collect paths)

end Batch

end PageAudit
