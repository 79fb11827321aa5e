import PageAudit.Command.Run
import PageAudit.Proofs.Policy.Overlay

/-! The configuration of a run: which file is used, and what is used of it.

What a file holds and which file is the one are said in terms of the files alone. The program that
looks for the file finds that one, takes the configuration that it holds, and goes on without any
when the file was not named and holds none.
-/

namespace PageAudit

theorem FileSystem.isFile_iff {files : FileSystem} {path : Text}
    : files.isFile path ↔ ∃ file, files path = some (.file file) := by
  unfold isFile file?
  split
  · next file found => exact iff_of_true rfl ⟨file, found⟩
  · next other =>
      exact iff_of_false Bool.false_ne_true fun ⟨file, found⟩ => other file found

theorem FileSystem.isDirectory_iff {files : FileSystem} {path : Text}
    : files.isDirectory path ↔ ∃ entries size, files path = some (.directory entries size) := by
  unfold isDirectory
  cases files path with
  | none => simp
  | some node => cases node <;> simp [Node.isDirectory]

theorem FileSystem.readText?_eq_some_iff {files : FileSystem} {path text : Text}
    : files.readText? path = some text
      ↔ ∃ file, files path = some (.file file) ∧ file.text = some text := by
  unfold readText? file?
  split
  · next file found => simp [found]
  · next other =>
      exact iff_of_false nofun fun ⟨file, found, _⟩ => other file found

namespace Project

open Json (Value)

variable {files : FileSystem} {path directory : Text} {value : Value}

-----------------------------------------------------------------------------------------
-- Files with a configuration
-----------------------------------------------------------------------------------------

/-- (Holds files path value) says that a file stands at a path and that its text is a configuration
in the format that its extension names.
-/
inductive Holds (files : FileSystem) (path : Text) (value : Value) : Prop where
  | json {file : File} {text : Text} (stands : files path = some (.file file))
    (read : file.text = some text) (format : Path.extension? path = some "json".toList)
    (parsed : Value.ofText? text = some value)
  | yaml {file : File} {text : Text} (stands : files path = some (.file file))
    (read : file.text = some text)
    (format : Path.extension? path ∈ [some "yaml".toList, some "yml".toList])
    (parsed : Yaml.valueOfText? text = some value)

theorem configuration_eq_ok_iff {extension text : Text}
    : configuration extension text = .ok value
      ↔ extension = "json".toList ∧ Value.ofText? text = some value
        ∨ (extension = "yaml".toList ∨ extension = "yml".toList)
          ∧ Yaml.valueOfText? text = some value := by
  unfold configuration
  by_cases json : extension = "json".toList
  · have other : ¬ (extension = "yaml".toList ∨ extension = "yml".toList) := by
      rw [json]
      decide
    simp only [if_pos json, and_iff_right json, other, false_and, or_false]
    cases Value.ofText? text <;> simp
  · simp only [json, false_and, false_or, if_false]
    by_cases yaml : extension = "yaml".toList ∨ extension = "yml".toList
    · simp only [if_pos yaml, and_iff_right yaml]
      cases Yaml.valueOfText? text <;> simp
    · simp only [yaml, false_and, if_false, reduceCtorEq]

theorem extension?_of_getD {extension : Text} (found : (Path.extension? path).getD [] = extension)
    (solid : extension ≠ [])
    : Path.extension? path = some extension := by
  cases named : Path.extension? path with
  | none =>
      rw [named] at found
      exact absurd found.symm solid
  | some other =>
      rw [named] at found
      exact congrArg some found

/-- A file holds what its text is read as. -/
theorem holds_iff
    : Holds files path value
      ↔ ∃ text,
          files.readText? path = some text
          ∧ configuration ((Path.extension? path).getD []) text = .ok value := by
  constructor
  · intro holds
    cases holds with
    | json stands read format parsed =>
        refine ⟨_, FileSystem.readText?_eq_some_iff.mpr ⟨_, stands, read⟩, ?_⟩
        exact configuration_eq_ok_iff.mpr (.inl ⟨by rw [format]; rfl, parsed⟩)
    | yaml stands read format parsed =>
        refine ⟨_, FileSystem.readText?_eq_some_iff.mpr ⟨_, stands, read⟩, ?_⟩
        refine configuration_eq_ok_iff.mpr (.inr ⟨?_, parsed⟩)
        rcases List.mem_pair.mp format with yaml | yml
        · exact .inl (by rw [yaml]; rfl)
        · exact .inr (by rw [yml]; rfl)
  · intro configured
    obtain ⟨text, read, configured⟩ := configured
    obtain ⟨file, stands, read⟩ := FileSystem.readText?_eq_some_iff.mp read
    rcases configuration_eq_ok_iff.mp configured with ⟨json, parsed⟩ | ⟨yaml | yml, parsed⟩
    · exact .json stands read (extension?_of_getD json (by decide)) parsed
    · have format := extension?_of_getD yaml (by decide)
      exact .yaml stands read (format ▸ .head _) parsed
    · have format := extension?_of_getD yml (by decide)
      exact .yaml stands read (format ▸ .tail _ (.head _)) parsed

/-- The settings that are loaded from a file are those of the configuration that it holds. -/
theorem load_eq_ok_iff {project : Project}
    : load files path = .ok project
      ↔ ∃ value, Holds files path value
          ∧ project = { ofConfiguration value with source := some path } := by
  simp only [holds_iff]
  unfold load
  cases files.readText? path with
  | none => simp
  | some text =>
      cases configured : configuration ((Path.extension? path).getD []) text with
      | error cause => simp [configured]
      | ok value =>
          simp only [configured, Except.ok.injEq, Option.some.injEq, exists_eq_left']
          exact eq_comm

-----------------------------------------------------------------------------------------
-- The file of a directory
-----------------------------------------------------------------------------------------

/-- (IsFirst files directory path) says that a path is the first one that leads to a file, among the
four where the settings of a directory may be.
-/
def IsFirst (files : FileSystem) (directory path : Text) : Prop :=
  ∃ earlier later,
    [Path.join directory ".seoscanrc.json", Path.join directory ".seoscanrc.yaml",
        Path.join directory ".seoscanrc.yml", Path.join directory "seoscan.json"]
      = earlier ++ path :: later
    ∧ (∃ file, files path = some (.file file))
    ∧ ∀ other ∈ earlier, ∀ file, files other ≠ some (.file file)

theorem find?_eq_some_iff : find? files directory = some path ↔ IsFirst files directory path := by
  rw [find?, List.find?_eq_some_iff_append, FileSystem.isFile_iff]
  have none (other : Text)
      : (!files.isFile other) = true ↔ ∀ file, files other ≠ some (.file file) := by
    rw [Bool.not_eq_true', ← Bool.not_eq_true, FileSystem.isFile_iff, not_exists]
  simp only [none]
  constructor
  · rintro ⟨stands, earlier, later, split, others⟩
    exact ⟨earlier, later, split, stands, others⟩
  · rintro ⟨earlier, later, split, stands, others⟩
    exact ⟨stands, earlier, later, split, others⟩

/-- The settings of a project with a configuration, or without one. -/
def configured (configuration : Option Value) : Project :=
  configuration.elim standard ofConfiguration

/-- (Suppresses configuration codes) says which codes a configuration suppresses: the strings that
it lists at `disabled` in its section `rules`, and none when there is no such list. Without a
configuration none is suppressed.
-/
def Suppresses : Option Value → List Text → Prop
  | some configuration, codes => Field.disabled.Resolves configuration codes
  | none, codes => codes = []

/-- The codes that a configuration suppresses are those of its settings. -/
theorem suppresses_iff {configuration : Option Value} {codes : List Text}
    : Suppresses configuration codes ↔ (configured configuration).disabled = codes := by
  cases configuration with
  | none => exact eq_comm
  | some configuration =>
      have texts : Field.disabled.type = .count → configuration.WordSized := nofun
      exact Field.resolves_iff texts

end Project

-----------------------------------------------------------------------------------------
-- The configuration of a run
-----------------------------------------------------------------------------------------

namespace Settings

open Json (Value)

/-- (settings.LooksIn files directory) says that the settings of the project are looked for in a
directory: the first path when it is one, else the directory around it, and the current one when
there is no other.
-/
inductive LooksIn (settings : Settings) (files : FileSystem) : Text → Prop where
  | itself {path : Text} {paths : List Text} (first : settings.paths = path :: paths)
    (stands : ∃ entries size, files path = some (.directory entries size))
    : LooksIn settings files path
  | around {path : Text} {paths : List Text} (first : settings.paths = path :: paths)
    (other : ∀ entries size, files path ≠ some (.directory entries size))
    (named : Path.parent path ≠ [])
    : LooksIn settings files (Path.parent path)
  | current {path : Text} {paths : List Text} (first : settings.paths = path :: paths)
    (other : ∀ entries size, files path ≠ some (.directory entries size))
    (nameless : Path.parent path = [])
    : LooksIn settings files "."
  | anywhere (nowhere : settings.paths = []) : LooksIn settings files "."

/-- (settings.Configures files configuration) says which configuration a run uses. It is that of the
file that is named. When none is named, it is that of the first file in the directory that is looked
in, and there is no configuration when that file holds none or when there is no such file.
-/
inductive Configures (settings : Settings) (files : FileSystem) : Option Value → Prop where
  | named {path : Text} {value : Value} (named : settings.config = some path)
    (holds : Project.Holds files path value)
    : Configures settings files (some value)
  | found {directory path : Text} {value : Value} (unnamed : settings.config = none)
    (looks : settings.LooksIn files directory) (first : Project.IsFirst files directory path)
    (holds : Project.Holds files path value)
    : Configures settings files (some value)
  | unusable {directory path : Text} (unnamed : settings.config = none)
    (looks : settings.LooksIn files directory) (first : Project.IsFirst files directory path)
    (broken : ∀ value, ¬ Project.Holds files path value)
    : Configures settings files none
  | absent {directory : Text} (unnamed : settings.config = none)
    (looks : settings.LooksIn files directory)
    (nowhere : ∀ path, ¬ Project.IsFirst files directory path)
    : Configures settings files none

variable {settings : Settings} {files : FileSystem}

/-- The directory that is looked in is the root of the project. -/
theorem looksIn_iff {directory : Text}
    : settings.LooksIn files directory ↔ settings.projectRoot files = directory := by
  have isOther {path : Text} (other : ∀ entries size, files path ≠ some (.directory entries size))
      : ¬ files.isDirectory path := by
    rw [FileSystem.isDirectory_iff]
    exact fun ⟨entries, size, stands⟩ => other entries size stands
  unfold projectRoot
  constructor
  · intro looks
    cases looks with
    | itself first stands =>
        rw [first]
        dsimp only
        rw [if_pos (FileSystem.isDirectory_iff.mpr stands)]
    | around first other named => simp [first, isOther other, named]
    | current first other nameless => simp [first, isOther other, nameless]
    | anywhere nowhere => rw [nowhere]
  · rintro rfl
    split
    · next nowhere => exact .anywhere nowhere
    · next path paths first =>
        split
        · next directory => exact .itself first (FileSystem.isDirectory_iff.mp directory)
        · next notDirectory =>
            have other (entries : List (Text × Node)) (size : Nat)
                : files path ≠ some (.directory entries size) :=
              fun stands => notDirectory (FileSystem.isDirectory_iff.mpr ⟨entries, size, stands⟩)
            dsimp only
            split
            · next nameless => exact .current first other (List.isEmpty_iff.mp nameless)
            · next named =>
                exact .around first other fun empty => named (List.isEmpty_iff.mpr empty)

/-- A run that uses a configuration has its settings, whichever file they come from. -/
theorem Configures.exists_project {configuration : Option Value}
    (configures : settings.Configures files configuration)
    : ∃ source,
        settings.project files = .ok { Project.configured configuration with source } := by
  -- Where no file is named, the settings are those that are discovered in the directory.
  have discovered {directory : Text} (unnamed : settings.config = none)
      (looks : settings.LooksIn files directory)
      : settings.project files = .ok (Project.discover files directory) := by
    rw [project, unnamed, looksIn_iff.mp looks]
  cases configures with
  | named given holds =>
      rw [project, given]
      exact ⟨_, Project.load_eq_ok_iff.mpr ⟨_, holds, rfl⟩⟩
  | found unnamed looks first holds =>
      have loads := Project.load_eq_ok_iff.mpr ⟨_, holds, rfl⟩
      rw [discovered unnamed looks, Project.discover, Project.find?_eq_some_iff.mpr first]
      dsimp only
      rw [loads]
      exact ⟨_, rfl⟩
  | @unusable directory path unnamed looks first broken =>
      rw [discovered unnamed looks, Project.discover, Project.find?_eq_some_iff.mpr first]
      dsimp only
      cases loads : Project.load files path with
      | error cause => exact ⟨_, rfl⟩
      | ok project =>
          obtain ⟨value, holds, -⟩ := Project.load_eq_ok_iff.mp loads
          exact absurd holds (broken value)
  | @absent directory unnamed looks nowhere =>
      have nothing : Project.find? files directory = none :=
        Option.eq_none_iff_forall_ne_some.mpr fun path found =>
          nowhere path (Project.find?_eq_some_iff.mp found)
      rw [discovered unnamed looks, Project.discover, nothing]
      exact ⟨_, rfl⟩

/-- A run uses a configuration or goes on without one, unless a file is named that holds none. -/
theorem exists_configures (settings : Settings) (files : FileSystem)
    : (∃ configuration, settings.Configures files configuration)
      ∨ ∃ path, settings.config = some path ∧ ∀ value, ¬ Project.Holds files path value := by
  cases given : settings.config with
  | some path =>
      by_cases holds : ∃ value, Project.Holds files path value
      · obtain ⟨value, holds⟩ := holds
        exact .inl ⟨_, .named given holds⟩
      · exact .inr ⟨path, rfl, not_exists.mp holds⟩
  | none =>
      have looks : settings.LooksIn files (settings.projectRoot files) := looksIn_iff.mpr rfl
      left
      by_cases first : ∃ path, Project.IsFirst files (settings.projectRoot files) path
      · obtain ⟨path, first⟩ := first
        by_cases holds : ∃ value, Project.Holds files path value
        · obtain ⟨value, holds⟩ := holds
          exact ⟨_, .found given looks first holds⟩
        · exact ⟨_, .unusable given looks first (not_exists.mp holds)⟩
      · exact ⟨_, .absent given looks (not_exists.mp first)⟩

/-- A named file that holds no configuration cannot be loaded. -/
theorem exists_load_error {path : Text} (given : settings.config = some path)
    (broken : ∀ value, ¬ Project.Holds files path value)
    : ∃ cause, settings.project files = .error cause := by
  rw [project, given]
  dsimp only
  cases loads : Project.load files path with
  | error cause => exact ⟨cause, rfl⟩
  | ok project =>
      obtain ⟨value, holds, -⟩ := Project.load_eq_ok_iff.mp loads
      exact absurd holds (broken value)

end Settings

end PageAudit
