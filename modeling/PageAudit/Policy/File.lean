import PageAudit.Files.Tree
import PageAudit.Json.Reader
import PageAudit.Policy.Overlay
import PageAudit.Yaml.Value

/-! The file in which a project keeps its settings, in JSON or in YAML. -/

namespace PageAudit.Project

/-- Why a file with settings cannot be used: it cannot be read, it is malformed, or its
extension names no known format.
-/
inductive LoadError where
  | unreadable
  | json
  | yaml
  | unknownFormat (extension : Text)
deriving DecidableEq

/-- What is said about a file that cannot be used. The words of the system or of the reader that
refused it would follow the colon, and they are left out.
-/
def LoadError.message : LoadError → Text
  | .unreadable => "IO error: "
  | .json => "JSON parse error: "
  | .yaml => "YAML parse error: "
  | .unknownFormat extension => "Unknown policy file format: ".toList ++ extension

/-- The configuration in a text of the format that an extension names. -/
def configuration (extension text : Text) : Except LoadError Json.Value :=
  if extension = "json".toList then
    match Json.Value.ofText? text with
    | some value => .ok value
    | none => .error .json
  else if extension = "yaml".toList ∨ extension = "yml".toList then
    match Yaml.valueOfText? text with
    | some value => .ok value
    | none => .error .yaml
  else .error (.unknownFormat extension)

/-- The settings in the file at a path. The file is read before its extension is looked at. -/
def load (files : FileSystem) (path : Text) : Except LoadError Project :=
  match files.readText? path with
  | none => .error .unreadable
  | some text =>
      match configuration ((Path.extension? path).getD []) text with
      | .ok value => .ok { ofConfiguration value with source := some path }
      | .error cause => .error cause

/-- The names of files with settings, in the order in which they are looked for. -/
def fileNames : List Text :=
  [".seoscanrc.json", ".seoscanrc.yaml", ".seoscanrc.yml", "seoscan.json"]

/-- The paths where the settings of a project may be. -/
def candidates (root : Text) : List Text :=
  fileNames.map (Path.join root)

/-- The first file with settings in a directory. -/
def find? (files : FileSystem) (root : Text) : Option Text :=
  (candidates root).find? files.isFile

/-- The settings of the project in a directory. Without a usable file they are the standard
ones.
-/
def discover (files : FileSystem) (root : Text) : Project :=
  match find? files root with
  | some path =>
      match load files path with
      | .ok project => project
      | .error _ => standard
  | none => standard

end PageAudit.Project
