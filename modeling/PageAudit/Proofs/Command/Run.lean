import PageAudit.Finding.Record
import PageAudit.Proofs.Batch.Narrowing
import PageAudit.Proofs.Batch.Storing
import PageAudit.Proofs.Command.Discovery

/-! A whole run: what its output lists is what its exit code says.

The report of a run depends on its settings and on the files alone. So a run that writes for people
exits like one that writes for programs, and the output of the latter can be read to check its exit
code.
-/

namespace PageAudit

-----------------------------------------------------------------------------------------
-- Reading the output for programs
-----------------------------------------------------------------------------------------

namespace MachineFormat

/-- The records that a document lists. -/
def elements? (document : Json.Value) : Option (List Json.Value) :=
  (document.member? "diagnostics").bind (·.array?)

/-- A total of a document. -/
def total? (key : Text) (document : Json.Value) : Option Nat :=
  ((document.member? "summary").bind (·.member? key)).bind (·.count?)

/-- The code of a record. -/
def codeOf? (element : Json.Value) : Option Text :=
  (element.member? "code").bind (·.string?)

/-- The severity of a record. -/
def severityOf? (element : Json.Value) : Option Severity :=
  ((element.member? "severity").bind (·.string?)).bind Severity.ofName?

/-- A record has a given severity. -/
def hasSeverity (severity : Severity) (element : Json.Value) : Bool :=
  severityOf? element = some severity

theorem codeOf?_findingValue (path : Text) (finding : Finding)
    : codeOf? (findingValue path finding) = some finding.code := by
  rw [codeOf?, (describes_findingValue path finding).code]
  rfl

theorem severityOf?_findingValue (path : Text) (finding : Finding)
    : severityOf? (findingValue path finding) = some finding.severity := by
  rw [severityOf?, (describes_findingValue path finding).severity]
  cases finding.severity <;> rfl

theorem describes_findingValues (report : Report)
    : List.Forall₂ (fun place element => Describes place.1 place.2 element) report.listing
        (findingValues report) := by
  rw [findingValues_eq_map, List.forall₂_map_right_iff, List.forall₂_same]
  exact fun place _ => describes_findingValue place.1 place.2

/-- Of each severity as many records are written as there are findings. -/
theorem countP_findingValues (report : Report) (severity : Severity)
    : (findingValues report).countP (hasSeverity severity)
      = Report.countOf severity report.findings := by
  have findings : report.findings = report.listing.map (·.2) := by
    simp only [Report.findings, Report.listing, List.map_flatMap, List.map_map, Function.comp_def,
      List.map_id']
  rw [findingValues_eq_map, Report.countOf, findings, List.countP_map, List.countP_map]
  refine List.countP_congr fun place _ => ?_
  simp [hasSeverity, severityOf?_findingValue]

end MachineFormat

-----------------------------------------------------------------------------------------
-- Runs
-----------------------------------------------------------------------------------------

namespace Settings

/-- The turns of a run, none of which is cancelled. -/
def turns (settings : Settings) (files : FileSystem) : List (Text × Bool) :=
  (files.collect settings.paths).map (·, false)

/-- The report of a run that takes some time. -/
def timedReport (settings : Settings) (files : FileSystem) (milliseconds : Nat)
    : Except Project.LoadError Report :=
  (settings.report files).map fun report => { report with milliseconds }

variable {settings : Settings} {files : FileSystem} {project : Project}

theorem report_eq (loads : settings.project files = .ok project)
    : settings.report files
      = .ok ((settings.batch project files).scanTurns (settings.turns files)) := by
  rw [report, loads]
  rfl

theorem timedReport_eq (loads : settings.project files = .ok project) (milliseconds : Nat)
    : settings.timedReport files milliseconds
      = .ok { (settings.batch project files).scanTurns (settings.turns files) with
          milliseconds } := by
  rw [timedReport, report_eq loads]
  rfl

/-- A report knows of no time before it is told one. -/
theorem timedReport_zero (settings : Settings) (files : FileSystem)
    : settings.timedReport files 0 = settings.report files := by
  cases loads : settings.project files with
  | error cause =>
      rw [timedReport, report, loads]
      rfl
  | ok project =>
      have untimed := (settings.batch project files).milliseconds_scanTurns (settings.turns files)
      rw [timedReport_eq loads, report_eq loads, ← untimed]

/-- The exit code of a run depends neither on how its report is written nor on its time. -/
theorem exitCode_outcome (loads : settings.project files = .ok project) (isTerminal : Bool)
    (milliseconds : Nat)
    : (settings.outcome isTerminal (settings.timedReport files milliseconds)).exitCode
      = if settings.exitZero then 0
        else ((settings.batch project files).scanTurns (settings.turns files)).exitCode := by
  rw [timedReport_eq loads]
  rfl

end Settings

/-- The outcome of a run that takes some time, and whose output may be a terminal. -/
def runFor (files : FileSystem) (isTerminal : Bool) (milliseconds : Nat) (arguments : List Text)
    : Outcome :=
  match Settings.ofArguments arguments with
  | .error stop => stop.outcome
  | .ok settings =>
      if settings.listRules then ruleList (isTerminal && !settings.noColor)
      else settings.outcome isTerminal (settings.timedReport files milliseconds)

/-- A run is one that takes no time and whose output is no terminal. -/
theorem run_eq_runFor (files : FileSystem) (arguments : List Text)
    : run files arguments = runFor files false 0 arguments := by
  unfold run runFor
  cases Settings.ofArguments arguments with
  | error stop => rfl
  | ok settings =>
      dsimp only
      rw [Settings.timedReport_zero]
      rfl

theorem runFor_eq {arguments : List Text} {settings : Settings}
    (accepted : Settings.ofArguments arguments = .ok settings) (scans : settings.listRules = false)
    (files : FileSystem) (isTerminal : Bool) (milliseconds : Nat)
    : runFor files isTerminal milliseconds arguments
      = settings.outcome isTerminal (settings.timedReport files milliseconds) := by
  rw [runFor, accepted]
  dsimp only
  rw [scans, if_neg Bool.false_ne_true]

/-- (settings.Tells configuration suppressed files outcome elements) says that the output of a run
with a configuration, which suppresses some codes, can be read, that it lists the findings of the
batch in these records, and that its totals, its filter and its exit code are right about them.
-/
structure Settings.Tells (settings : Settings) (configuration : Option Json.Value)
    (suppressed : List Text) (files : FileSystem) (outcome : Outcome)
    (elements : List Json.Value)
    : Prop where
  suppresses : Project.Suppresses configuration suppressed
  described
    : let batch : Batch :=
        { auditor := .ofPolicy (Project.configured configuration).policy
          options :=
            { maxBytes := min (settings.maxKilobytes * 1024) (UInt64.size - 1)
              leastSeverity := settings.leastSeverity
              disabled := suppressed ++ settings.disabled }
          files }
      List.Forall₂ (fun place element => MachineFormat.Describes place.1 place.2 element)
        (batch.scanPaths false settings.paths).listing elements
  totals : ∃ document,
    Json.Value.ofText? outcome.output = some document
    ∧ MachineFormat.elements? document = some elements
    ∧ MachineFormat.total? "error_count" document
      = some (elements.countP (MachineFormat.hasSeverity .error))
    ∧ MachineFormat.total? "warning_count" document
      = some (elements.countP (MachineFormat.hasSeverity .warning))
    ∧ MachineFormat.total? "info_count" document
      = some (elements.countP (MachineFormat.hasSeverity .info))
  kept : ∀ element ∈ elements, ∃ severity code,
    MachineFormat.severityOf? element = some severity
    ∧ MachineFormat.codeOf? element = some code
    ∧ settings.leastSeverity.rank ≤ severity.rank
    ∧ ∀ other ∈ suppressed ++ settings.disabled, Text.lower other ≠ Text.lower code
  exitCode : outcome.exitCode
    = if settings.exitZero then 0
      else if elements.any (MachineFormat.hasSeverity .error) then 2
      else if elements.any (MachineFormat.hasSeverity .warning) then 1
      else 0

/-- The records that a batch lists are those of findings that its options keep. -/
theorem MachineFormat.kept_of_mem_findingValues {batch : Batch} {turns : List (Text × Bool)}
    {milliseconds : Nat} {element : Json.Value}
    (listed : element ∈ findingValues { batch.scanTurns turns with milliseconds })
    : ∃ severity code,
        severityOf? element = some severity
        ∧ codeOf? element = some code
        ∧ batch.options.leastSeverity.rank ≤ severity.rank
        ∧ ∀ other ∈ batch.options.disabled, Text.lower other ≠ Text.lower code := by
  rw [findingValues_eq_map] at listed
  obtain ⟨place, among, rfl⟩ := List.mem_map.mp listed
  obtain ⟨file, reported, member⟩ := Report.of_mem_listing among
  have kept : batch.options.keeps place.2 := batch.keeps_of_mem_results_scanTurns reported member
  exact ⟨place.2.severity, place.2.code, severityOf?_findingValue _ _, codeOf?_findingValue _ _,
    BatchOptions.keeps_iff.mp kept⟩

/-- What a run writes for programs tells what it found. -/
theorem Settings.exists_tells {settings : Settings} {files : FileSystem}
    {configuration : Option Json.Value} (configures : settings.Configures files configuration)
    (machine : settings.output = .machine)
    (inMemory
      : (settings.batch (.configured configuration) files).InMemory (settings.turns files))
    (isTerminal : Bool) {milliseconds : Nat} (short : milliseconds < UInt64.size * 1000)
    : ∃ suppressed elements, settings.Tells configuration suppressed files
        (settings.outcome isTerminal (settings.timedReport files milliseconds)) elements := by
  obtain ⟨source, loads⟩ := configures.exists_project
  let batch := settings.batch (.configured configuration) files
  let report : Report := { batch.scanTurns (settings.turns files) with milliseconds }
  have storable : report.Storable := Batch.storable_scanTurns rfl inMemory short
  obtain ⟨duration, read⟩ := MachineFormat.exists_ofText?_write storable
  have total (severity : Severity)
      : report.total severity
        = (MachineFormat.findingValues report).countP (MachineFormat.hasSeverity severity) := by
    have untimed : report.total severity
        = (batch.scanTurns (settings.turns files)).total severity := by
      cases severity <;> rfl
    rw [untimed, (batch.accounts_scanTurns _).totals, MachineFormat.countP_findingValues]
    rfl
  have found (severity : Severity)
      : (MachineFormat.findingValues report).any (MachineFormat.hasSeverity severity)
        = decide (0 < report.total severity) := by
    rw [Bool.eq_iff_iff, List.any_eq_true, decide_eq_true_iff, total, List.countP_pos_iff]
  refine ⟨_, MachineFormat.findingValues report,
    Project.suppresses_iff.mpr rfl, ?_, ?_, ?_, ?_⟩
  · have same : batch =
        { auditor := .ofPolicy (Project.configured configuration).policy
          options :=
            { maxBytes := min (settings.maxKilobytes * 1024) (UInt64.size - 1)
              leastSeverity := settings.leastSeverity
              disabled := (Project.configured configuration).disabled ++ settings.disabled }
          files } := rfl
    dsimp only
    rw [← same]
    exact MachineFormat.describes_findingValues report
  · refine ⟨MachineFormat.reportWith report duration, ?_, rfl, ?_, ?_, ?_⟩
    · rw [timedReport_eq loads, outcome, outcomeOfReport, write, machine]
      exact read { pretty := true }
    · exact congrArg some (total .error)
    · exact congrArg some (total .warning)
    · exact congrArg some (total .info)
  · exact fun element listed => MachineFormat.kept_of_mem_findingValues listed
  · rw [exitCode_outcome loads, found, found]
    rfl

variable {arguments : List Text} {settings : Settings}

/-- A run that scans exits with what its output shows, whatever time it takes. With any
configuration that it uses, or without one, the output for programs tells what was found, and a run
with the same arguments that writes for people exits with the same code. When a file is named that
holds no configuration, the exit code is 3 and there is no output. When none is named, there is
always something to use, and the exit code is never 3, whatever file may be found.
-/
theorem runFor_tells (files : FileSystem)
    (accepted : Settings.ofArguments arguments = .ok settings)
    (scans : settings.listRules = false) (isTerminal : Bool) {milliseconds : Nat}
    (short : milliseconds < UInt64.size * 1000)
    : (∀ configuration, settings.Configures files configuration →
        (settings.output = .machine →
          (settings.batch (.configured configuration) files).InMemory (settings.turns files) →
            ∃ suppressed elements,
              settings.Tells configuration suppressed files
                (runFor files isTerminal milliseconds arguments) elements)
        ∧ ∀ others onTerminal time,
            Settings.ofArguments others = .ok { settings with output := .plain } →
              (runFor files onTerminal time others).exitCode
              = (runFor files isTerminal milliseconds arguments).exitCode)
      ∧ (∀ path,
          settings.config = some path → (∀ value, ¬ Project.Holds files path value) →
            (runFor files isTerminal milliseconds arguments).exitCode = 3
            ∧ (runFor files isTerminal milliseconds arguments).output = [])
      ∧ (settings.config = none →
          (∃ configuration, settings.Configures files configuration)
          ∧ (runFor files isTerminal milliseconds arguments).exitCode ≠ 3)
      ∧ ((∃ configuration, settings.Configures files configuration)
        ∨ ∃ path, settings.config = some path ∧ ∀ value, ¬ Project.Holds files path value) := by
  have outcome := runFor_eq accepted scans files isTerminal milliseconds
  have either := settings.exists_configures files
  rw [outcome]
  refine ⟨fun configuration configures => ⟨?_, ?_⟩, ?_, ?_, either⟩
  · intro machine inMemory
    exact settings.exists_tells configures machine inMemory isTerminal short
  · intro others onTerminal time alsoAccepted
    obtain ⟨source, loads⟩ := configures.exists_project
    have plain : { settings with output := .plain }.project files = settings.project files := rfl
    rw [runFor_eq alsoAccepted scans, Settings.exitCode_outcome loads,
      Settings.exitCode_outcome (plain.trans loads)]
    rfl
  · intro path given broken
    obtain ⟨cause, fails⟩ := Settings.exists_load_error given broken
    have failed : settings.timedReport files milliseconds = .error cause := by
      rw [Settings.timedReport, Settings.report, fails]
      rfl
    rw [failed]
    exact ⟨rfl, rfl⟩
  · intro unnamed
    have configured : ∃ configuration, settings.Configures files configuration :=
      either.resolve_right fun ⟨path, named, _⟩ => by simp [unnamed] at named
    obtain ⟨configuration, configures⟩ := configured
    obtain ⟨source, loads⟩ := configures.exists_project
    refine ⟨⟨configuration, configures⟩, ?_⟩
    rw [Settings.exitCode_outcome loads]
    unfold Report.exitCode
    split_ifs <;> decide

/-- A configuration that suppresses a code, as it is written. -/
def homeText : Text :=
  "\x7b\"rules\":\x7b\"disabled\":[\"SEO_canonical_missing\"]\x7d\x7d"

/-- A project with a page, with that configuration, and with a file that holds none. -/
def homeProject : Node :=
  let page : Text := "<title>Short</title><img src=a.png>"
  .directory [
    ("page.html", .file { size := Text.byteSize page, text := page }),
    (".seoscanrc.json", .file { size := Text.byteSize homeText, text := homeText }),
    ("broken.json", .file { size := 1, text := "\x7b".toList })]

/-- The configuration that is found for the page of that project. -/
def homeConfiguration : Json.Value :=
  .object [("rules", .object [("disabled", .array [.string "SEO_canonical_missing"])])]

/-- Arguments that scan the page of that project, with the given ones in front. -/
def homeArguments (front : List Text) : List Text :=
  let rest : List Text :=
    ["--min-severity=warning", "--disable", "perf_img_missing_alt,other", "page.html"]
  front ++ rest

/-- What these arguments mean when those in front ask for output for programs. -/
def homeSettings : Settings :=
  { Settings.standard with
    paths := ["page.html"]
    output := .machine
    leastSeverity := .warning
    disabled := ["perf_img_missing_alt", "other"] }

/-- The batch of that run with a configuration or without one. -/
def homeBatch (configuration : Option Json.Value) : Batch :=
  homeSettings.batch (.configured configuration) homeProject.fileSystem

theorem configures_home
    : homeSettings.Configures homeProject.fileSystem (some homeConfiguration) := by
  have looks : homeSettings.LooksIn homeProject.fileSystem "." :=
    Settings.looksIn_iff.mpr (by decide +kernel)
  have first : Project.IsFirst homeProject.fileSystem "." "./.seoscanrc.json" :=
    Project.find?_eq_some_iff.mp (by decide +kernel)
  have text : homeProject.fileSystem.readText? "./.seoscanrc.json" = some homeText := by
    decide +kernel
  have written : homeText = homeConfiguration.compact := by decide +kernel
  have shallow : homeConfiguration.Fits Json.Document.maxDepth :=
    ⟨⟨⟨trivial, trivial⟩, trivial⟩, trivial⟩
  have parsed : Json.Value.ofText? homeText = some homeConfiguration := by
    rw [written]
    exact Json.Value.ofText?_compact shallow
  obtain ⟨file, stands, read⟩ := FileSystem.readText?_eq_some_iff.mp text
  exact .found rfl looks first (.json stands read (by decide +kernel) parsed)

theorem inMemory_home
    : (homeBatch (some homeConfiguration)).InMemory
        (homeSettings.turns homeProject.fileSystem) := by
  refine Batch.inMemory_of_counts rfl (fun turn member text read => ?_) (by decide +kernel)
    (by decide +kernel)
  have turns : homeSettings.turns homeProject.fileSystem = [("page.html".toList, false)] := by
    decide +kernel
  have small : ((homeBatch (some homeConfiguration)).textAt? "page.html").all
      (Text.byteSize · < 2 ^ 54) := by
    decide +kernel
  rw [turns] at member
  rw [List.mem_singleton.mp member] at read
  rw [read] at small
  exact of_decide_eq_true small

/-- Witness: the output tells of the page in either kind of run. It does not list the code that the
configuration suppresses, which a batch without the configuration reports, and it lists others. A
file that holds no configuration is refused when it is named.
-/
theorem runFor_tells_home
    : Settings.ofArguments (homeArguments ["--format", "json"]) = .ok homeSettings
      ∧ homeSettings.Configures homeProject.fileSystem (some homeConfiguration)
      ∧ (∃ elements,
          homeSettings.Tells (some homeConfiguration) ["SEO_canonical_missing"]
            homeProject.fileSystem
            (runFor homeProject.fileSystem false 17 (homeArguments ["--format", "json"])) elements
          ∧ 0 < elements.length
          ∧ ∀ element ∈ elements,
              MachineFormat.codeOf? element ≠ some "SEO_CANONICAL_MISSING".toList)
      ∧ (∃ finding ∈ ((homeBatch none).scanPaths false homeSettings.paths).findings,
          finding.code = "SEO_CANONICAL_MISSING".toList)
      ∧ (runFor homeProject.fileSystem true 0 (homeArguments [])).exitCode
        = (runFor homeProject.fileSystem false 17 (homeArguments ["--format", "json"])).exitCode
      ∧ (runFor homeProject.fileSystem false 17
          (homeArguments ["--format", "json", "--config=broken.json", "--exit-zero"])).exitCode
        = 3 := by
  have accepted : Settings.ofArguments (homeArguments ["--format", "json"]) = .ok homeSettings := by
    decide +kernel
  have plain
      : Settings.ofArguments (homeArguments [])
        = .ok { homeSettings with output := .plain } := by
    decide +kernel
  have named
      : Settings.ofArguments
          (homeArguments ["--format", "json", "--config=broken.json", "--exit-zero"])
        = .ok { homeSettings with config := some "broken.json".toList, exitZero := true } := by
    decide +kernel
  have fails : Project.load homeProject.fileSystem "broken.json" = .error .json := rfl
  have broken (value : Json.Value)
      : ¬ Project.Holds homeProject.fileSystem "broken.json" value := by
    intro holds
    have loads := fails.symm.trans (Project.load_eq_ok_iff.mpr ⟨value, holds, rfl⟩)
    cases loads
  have disabled : (Project.configured (some homeConfiguration)).disabled
      = ["SEO_canonical_missing".toList] := by
    decide +kernel
  have short : 17 < UInt64.size * 1000 := by decide
  obtain ⟨scans, -⟩ := runFor_tells homeProject.fileSystem accepted rfl false short
  obtain ⟨-, refused, -⟩ := runFor_tells homeProject.fileSystem named rfl false short
  obtain ⟨tells, exits⟩ := scans _ configures_home
  obtain ⟨suppressed, elements, tells⟩ := tells rfl inMemory_home
  obtain rfl := disabled.symm.trans (Project.suppresses_iff.mp tells.suppresses)
  have listed : 0 < elements.length := by
    rw [← tells.described.length_eq]
    decide +kernel
  have reported : ∃ finding ∈ ((homeBatch none).scanPaths false homeSettings.paths).findings,
      finding.code = "SEO_CANONICAL_MISSING".toList := by
    decide +kernel
  refine ⟨accepted, configures_home, ⟨elements, tells, listed, ?_⟩, reported,
    exits _ true 0 plain, (refused _ rfl broken).1⟩
  have letters : Text.lower "SEO_canonical_missing" = Text.lower "SEO_CANONICAL_MISSING" := by
    decide +kernel
  intro element among same
  obtain ⟨severity, code, -, coded, -, allowed⟩ := tells.kept element among
  rw [coded] at same
  rw [Option.some.inj same] at allowed
  exact allowed _ (.head _) letters

end PageAudit
