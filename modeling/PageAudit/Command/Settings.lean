import PageAudit.Batch.Scan
import PageAudit.Text.Numeral

/-! The settings of the command line: what its options mean and how they are read.

Arguments are read from left to right, and the first one that is malformed or that asks for
something else than a scan decides.
-/

namespace PageAudit

/-- Reports are written for people or for programs. -/
inductive OutputKind where
  | plain
  | machine
deriving DecidableEq

/-- The settings of one run. The number of jobs is only a hint for how to spread the work. -/
structure Settings where
  paths : List Text
  config : Option Text
  output : OutputKind
  leastSeverity : Severity
  jobs : Nat
  maxKilobytes : Nat
  disabled : List Text
  noColor : Bool
  listRules : Bool
  exitZero : Bool
  verbose : Bool
deriving DecidableEq

namespace Settings

/-- The settings without any argument. -/
def standard : Settings :=
  { paths := []
    config := none
    output := .plain
    leastSeverity := .info
    jobs := 0
    maxKilobytes := BatchOptions.standardMaxBytes / 1024
    disabled := []
    noColor := false
    listRules := false
    exitZero := false
    verbose := false }

/-- An option that has a value. -/
inductive Parameter where
  | config
  | output
  | leastSeverity
  | jobs
  | maxKilobytes
  | disabled
deriving DecidableEq

/-- An option that has no value. -/
inductive Flag where
  | noColor
  | listRules
  | exitZero
  | verbose
deriving DecidableEq

/-- Why arguments give no settings: one of them is malformed, or one asks for the version or for
help.
-/
inductive Stop where
  | misuse (argument : Text)
  | version
  | help
deriving DecidableEq

/-- What an option stands for. -/
inductive Meaning where
  | parameter (parameter : Parameter)
  | flag (flag : Flag)
  | stop (stop : Stop)

/-- The meaning of a long name. -/
def longMeaning? (name : Text) : Option Meaning :=
  let known : List (Text × Meaning) :=
    [("config", .parameter .config), ("format", .parameter .output),
      ("min-severity", .parameter .leastSeverity), ("jobs", .parameter .jobs),
      ("max-size", .parameter .maxKilobytes), ("disable", .parameter .disabled),
      ("no-color", .flag .noColor), ("list-rules", .flag .listRules),
      ("exit-zero", .flag .exitZero), ("verbose", .flag .verbose), ("version", .stop .version),
      ("help", .stop .help)]
  known.lookup name

/-- The meaning of a letter. -/
def shortMeaning? (letter : Char) : Option Meaning :=
  let known : List (Char × Meaning) :=
    [('c', .parameter .config), ('f', .parameter .output), ('j', .parameter .jobs),
      ('v', .flag .verbose), ('V', .stop .version), ('h', .stop .help)]
  known.lookup letter

/-- Settings while they are read, with the options that are set already. -/
structure Progress where
  settings : Settings
  given : List Parameter

/-- A number of 64 bits, perhaps behind a plus sign. -/
def word? (text : Text) : Option Nat :=
  let digits :=
    match text with
    | '+' :: digits => digits
    | digits => digits
  (Text.readNat? digits).filter (· < UInt64.size)

/-- The settings with the value of an option, when it is a proper one. -/
def assign? (settings : Settings) (parameter : Parameter) (value : Text) : Option Settings :=
  match parameter with
  | .config => if value.isEmpty then none else some { settings with config := some value }
  | .output =>
      if value = "text".toList then some { settings with output := .plain }
      else if value = "json".toList then some { settings with output := .machine }
      else none
  | .leastSeverity =>
      ([Severity.info, .warning, .error].find? (fun severity => severity.name == value)).map
        fun severity => { settings with leastSeverity := severity }
  | .jobs => (word? value).map fun jobs => { settings with jobs }
  | .maxKilobytes => (word? value).map fun maxKilobytes => { settings with maxKilobytes }
  | .disabled =>
      some { settings with disabled := settings.disabled ++ Text.splitOnChar ',' value }

/-- The settings with a flag, which may be given once. -/
def raise? (settings : Settings) (flag : Flag) : Option Settings :=
  match flag with
  | .noColor => if settings.noColor then none else some { settings with noColor := true }
  | .listRules => if settings.listRules then none else some { settings with listRules := true }
  | .exitZero => if settings.exitZero then none else some { settings with exitZero := true }
  | .verbose => if settings.verbose then none else some { settings with verbose := true }

namespace Progress

/-- An option with its value. All but the list of codes may be given once. -/
def set? (progress : Progress) (parameter : Parameter) (value : Text) : Option Progress :=
  if parameter ≠ .disabled ∧ parameter ∈ progress.given then none
  else
    (progress.settings.assign? parameter value).map fun settings =>
      { settings, given := parameter :: progress.given }

/-- A flag. -/
def raise? (progress : Progress) (flag : Flag) : Option Progress :=
  (progress.settings.raise? flag).map fun settings => { progress with settings }

/-- A path, which may not be empty. -/
def addPath? (progress : Progress) (path : Text) : Option Progress :=
  if path.isEmpty then none
  else
    let settings := progress.settings
    some { progress with settings := { settings with paths := settings.paths ++ [path] } }

end Progress

/-- What an argument leaves behind: progress, and perhaps an option that waits for its value in
the next argument.
-/
structure Pending where
  progress : Progress
  parameter : Option Parameter

/-- The progress behind a step that may be refused because of an argument. -/
def orMisuse (argument : Text) (progress : Option Progress) : Except Stop Pending :=
  match progress with
  | some progress => .ok { progress, parameter := none }
  | none => .error (.misuse argument)

/-- An argument with a long name and perhaps a value behind an equals sign. -/
def readLong (progress : Progress) (argument : Text) : Except Stop Pending :=
  let (name, assigned) := (argument.drop 2).span (· != '=')
  match longMeaning? name, assigned with
  | some (.parameter parameter), [] => .ok { progress, parameter := some parameter }
  | some (.parameter parameter), _ :: value =>
      orMisuse argument (progress.set? parameter value)
  | some (.flag flag), [] => orMisuse argument (progress.raise? flag)
  | some (.stop stop), [] => .error stop
  | _, _ => .error (.misuse argument)

/-- The letters of an argument. Behind an option with a value the rest of the argument is that
value, perhaps behind an equals sign.
-/
def readShort (argument : Text) : Progress → Text → Except Stop Pending
  | progress, [] => .ok { progress, parameter := none }
  | progress, letter :: letters =>
      match shortMeaning? letter with
      | some (.parameter parameter) =>
          match letters with
          | [] => .ok { progress, parameter := some parameter }
          | '=' :: value => orMisuse argument (progress.set? parameter value)
          | value => orMisuse argument (progress.set? parameter value)
      | some (.flag flag) =>
          match progress.raise? flag with
          | some progress => readShort argument progress letters
          | none => .error (.misuse argument)
      | some (.stop stop) => .error stop
      | none => .error (.misuse argument)

/-- An argument looks like an option. A lone hyphen is a path. -/
def isOption (argument : Text) : Bool :=
  argument.head? == some '-' && 1 < argument.length

/-- One argument that is not the value of an option. -/
def readArgument (progress : Progress) (argument : Text) : Except Stop Pending :=
  if Text.startsWith argument "--" then readLong progress argument
  else if isOption argument then readShort argument progress argument.tail
  else orMisuse argument (progress.addPath? argument)

/-- (readPaths progress arguments) takes all arguments as paths. -/
def readPaths : Progress → List Text → Except Stop Progress
  | progress, [] => .ok progress
  | progress, argument :: arguments =>
      match progress.addPath? argument with
      | some progress => readPaths progress arguments
      | none => .error (.misuse argument)

/-- (readAll pending arguments) reads arguments from left to right. Behind two hyphens all are
paths.
-/
def readAll : Pending → List Text → Except Stop Progress
  | { progress, parameter := none }, [] => .ok progress
  | { parameter := some _, .. }, [] => .error (.misuse [])
  | { progress, parameter := some parameter }, value :: arguments =>
      if isOption value then .error (.misuse value)
      else
        match progress.set? parameter value with
        | some progress => readAll { progress, parameter := none } arguments
        | none => .error (.misuse value)
  | { progress, parameter := none }, argument :: arguments =>
      if argument = "--".toList then readPaths progress arguments
      else
        match readArgument progress argument with
        | .ok pending => readAll pending arguments
        | .error stop => .error stop

/-- The settings that arguments give. Without a path the current directory is scanned. -/
def ofArguments (arguments : List Text) : Except Stop Settings :=
  match readAll { progress := { settings := standard, given := [] }, parameter := none }
      arguments with
  | .ok progress =>
      let settings := progress.settings
      .ok (if settings.paths.isEmpty then { settings with paths := ["."] } else settings)
  | .error stop => .error stop

end Settings

end PageAudit
