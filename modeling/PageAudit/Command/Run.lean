import PageAudit.Command.Settings
import PageAudit.Policy.File
import PageAudit.Report.Machine
import PageAudit.Report.Plain

/-! One run of the command: from its arguments and the files to its output and exit code. -/

namespace PageAudit

/-- What a run leaves behind: its output, what it says beside it, and its exit code. -/
structure Outcome where
  output : Text
  remark : Text
  exitCode : Nat
deriving DecidableEq

namespace Settings

/-- The directory in which the settings of the project are looked for: the first path, or the
directory around it.
-/
def projectRoot (settings : Settings) (files : FileSystem) : Text :=
  match settings.paths with
  | [] => "."
  | path :: _ =>
      if files.isDirectory path then path
      else
        let parent := Path.parent path
        if parent.isEmpty then "." else parent

/-- The settings of the project: those of a named file, or those that are found. -/
def project (settings : Settings) (files : FileSystem)
    : Except Project.LoadError Project :=
  match settings.config with
  | some path => Project.load files path
  | none => .ok (Project.discover files (settings.projectRoot files))

/-- The greatest number that 64 bits hold. -/
def maxBytes : Nat :=
  UInt64.size - 1

/-- The batch of a run for a project. A size beyond all numbers of 64 bits is the greatest one. -/
def batch (settings : Settings) (project : Project) (files : FileSystem) : Batch :=
  { auditor := .ofPolicy project.policy
    options :=
      { maxBytes := min (settings.maxKilobytes * 1024) maxBytes
        leastSeverity := settings.leastSeverity
        disabled := project.disabled ++ settings.disabled }
    files }

/-- The report of a run. It is the exact one: with the standard tables, no text of less than
petabytes makes an audit overflow.
-/
def report (settings : Settings) (files : FileSystem) : Except Project.LoadError Report :=
  match settings.project files with
  | .ok project => .ok ((settings.batch project files).scanPaths false settings.paths)
  | .error cause => .error cause

/-- A report as it is written. Colours are for terminals. -/
def write (settings : Settings) (isTerminal : Bool) (report : Report) : Text :=
  match settings.output with
  | .plain =>
      PlainFormat.write
        { colored := isTerminal && !settings.noColor, showHelp := true, showSummary := true }
        report
  | .machine => MachineFormat.write { pretty := true } report

/-- No file was found. -/
def isIdle (report : Report) : Bool :=
  report.scanned + report.skipped + report.failed == 0

/-- The outcome of a run with a report. -/
def outcomeOfReport (settings : Settings) (isTerminal : Bool) (report : Report) : Outcome :=
  { output := settings.write isTerminal report
    remark := if isIdle report then "warning: no supported files found\n" else []
    exitCode := if settings.exitZero then 0 else report.exitCode }

/-- The outcome of a run whose settings cannot be loaded. -/
def outcomeOfError (settings : Settings) (cause : Project.LoadError) : Outcome :=
  let path := settings.config.getD []
  { output := []
    remark :=
      "error: Failed to load config ".toList ++ path ++ ": ".toList ++ cause.message ++ ['\n']
    exitCode := 3 }

end Settings

/-- The lines of a rule in the list of rules. -/
def Rule.describe (isColored : Bool) (rule : Rule) : Text :=
  let paint := fun (style : Style) (text : Text) => if isColored then style.paint text else text
  paint .boldCyan rule.id ++ ' ' :: paint .dimmed ('[' :: rule.category.name ++ [']'])
    ++ " - ".toList ++ rule.description ++ '\n'
    :: rule.codes.flatMap (fun code => "    ".toList ++ code ++ ['\n'])

/-- The outcome of listing the rules. -/
def ruleList (isColored : Bool) : Outcome :=
  { output := Rule.all.flatMap (Rule.describe isColored), remark := [], exitCode := 0 }

/-- The name and the version of the program. -/
def versionLine : Text :=
  "seoscan 0.1.0\n"

/-- How the program is used. -/
def usage : Text :=
  ("Static SEO, performance and render-budget checks for HTML and component files.\n\n"
    ++ "Usage: seoscan [OPTIONS] [PATHS]...\n\n"
    ++ "Options:\n"
    ++ "  -c, --config <FILE>            Policy file\n"
    ++ "  -f, --format <text|json>       Output format\n"
    ++ "      --min-severity <SEVERITY>  info, warning or error\n"
    ++ "  -j, --jobs <N>                 Number of parallel jobs\n"
    ++ "      --max-size <KB>            Skip larger files\n"
    ++ "      --disable <CODES>          Disable rule codes\n"
    ++ "      --no-color                 Disable colored output\n"
    ++ "      --list-rules               List the rules and exit\n"
    ++ "      --exit-zero                Exit with 0 even with findings\n"
    ++ "  -v, --verbose                  Enable verbose output\n"
    ++ "  -h, --help                     Print help\n"
    ++ "  -V, --version                  Print version\n").toList

/-- The outcome of arguments that give no settings. -/
def Settings.Stop.outcome : Settings.Stop → Outcome
  | .misuse argument =>
      { output := []
        remark := "error: unexpected argument '".toList ++ argument ++ "'\n".toList
        exitCode := 2 }
  | .version => { output := versionLine, remark := [], exitCode := 0 }
  | .help => { output := usage, remark := [], exitCode := 0 }

/-- The outcome of a run that has gone as far as its report. -/
def Settings.outcome (settings : Settings) (isTerminal : Bool)
    : Except Project.LoadError Report → Outcome
  | .ok report => settings.outcomeOfReport isTerminal report
  | .error cause => settings.outcomeOfError cause

/-- The outcome of a run whose output is no terminal, apart from the time that it takes. -/
def run (files : FileSystem) (arguments : List Text) : Outcome :=
  match Settings.ofArguments arguments with
  | .error stop => stop.outcome
  | .ok settings =>
      if settings.listRules then ruleList false
      else settings.outcome false (settings.report files)

end PageAudit
