import PageAudit.Command.Run
import Std.Data.HashMap

/-! The program: it looks at what its arguments lead to, runs on that, prints the outcome and
exits with its code. Only here are files read.
-/

namespace PageAudit

/-- What was found, by the paths under which it is asked for. -/
abbrev Found := Std.HashMap String Node

/-- The file system with what was found. -/
def Found.fileSystem (found : Found) : FileSystem := fun path =>
  found[String.ofList path]?

/-- An entry of the current directory, or of the root when the path starts there. -/
def entryAt (path : Text) : IO.FS.DirEntry :=
  { root := ".", fileName := String.ofList path }

/-- The text of the file at a path, when it can be read as UTF-8. -/
def readText? (path : Text) : IO (Option Text) := do
  match ← (IO.FS.readBinFile (entryAt path).path).toBaseIO with
  | .ok bytes => return (String.fromUTF8? bytes).map String.toList
  | .error _ => return none

/-- The names of the entries of the directory at a path. -/
def readNames (path : Text) : IO (List Text) := do
  match ← (entryAt path).path.readDir.toBaseIO with
  | .ok entries => return entries.toList.map (·.fileName.toList)
  | .error _ => return []

/-- (look limit path) finds what stands at a path and below it. The texts are read of files that
are scanned and no larger than the limit.
-/
partial def look (limit : Nat) (path : Text) : StateT Found IO (Option Node) := do
  let .ok metadata ← (entryAt path).path.metadata.toBaseIO | return none
  let size := metadata.byteSize.toNat
  let node ←
    match metadata.type with
    | .file =>
        let text ← if Path.isScanned path && size ≤ limit then readText? path else pure none
        pure (Node.file { size, text })
    | .dir =>
        let mut entries := []
        for name in ← readNames path do
          if !skippedDirectories.contains name then
            if let some below ← look limit (Path.join path name) then
              entries := (name, below) :: entries
        pure (.directory entries size)
    | _ => return none
  modify (·.insert (String.ofList path) node)
  return some node

/-- (lookForSettings path) finds the file at a path, and reads it whatever its size. -/
def lookForSettings (path : Text) : StateT Found IO Unit := do
  if let some text ← readText? path then
    let file := Node.file { size := Text.byteSize text, text := some text }
    modify (·.insert (String.ofList path) file)

/-- The files that a run may ask for: those at and below its paths, and those with the settings
of the project.
-/
def lookFor (settings : Settings) : IO FileSystem := do
  let search : StateT Found IO Unit := do
    for path in settings.paths do
      let _ ← look (settings.maxKilobytes * 1024) path
    let root := settings.projectRoot (← get).fileSystem
    for path in settings.config.toList ++ Project.candidates root do
      lookForSettings path
  let (_, found) ← search.run ∅
  return found.fileSystem

/-- The outcome of a run on the files of the machine, with the time that it took. -/
def runHere (isTerminal : Bool) (arguments : List Text) : IO Outcome := do
  match Settings.ofArguments arguments with
  | .error stop => return stop.outcome
  | .ok settings =>
      if settings.listRules then return ruleList (isTerminal && !settings.noColor)
      let start ← IO.monoMsNow
      let files ← lookFor settings
      let result ← IO.lazyPure fun _ => settings.report files
      let milliseconds := (← IO.monoMsNow) - start
      return settings.outcome isTerminal
        (result.map fun report => { report with milliseconds })

end PageAudit

/-- Runs on the given arguments. Colours are shown on a terminal unless they are unwanted. -/
def main (arguments : List String) : IO UInt32 := do
  let output ← IO.getStdout
  let isTerminal := (← output.isTty) && (← IO.getEnv "NO_COLOR").isNone
  let outcome ← PageAudit.runHere isTerminal (arguments.map String.toList)
  (← IO.getStderr).putStr (String.ofList outcome.remark)
  output.putStr (String.ofList outcome.output)
  output.flush
  return outcome.exitCode.toUInt32
