import PageAudit.Files.Path

/-! Trees of files, and what a path leads to. -/

namespace PageAudit

/-- A file has a size in bytes. Its text is absent when it cannot be read as UTF-8. -/
structure File where
  size : Nat
  text : Option Text

/-- A node of a tree is a file, or a directory with named entries and a size of its own. -/
inductive Node where
  | file (file : File)
  | directory (entries : List (Text × Node)) (size : Nat := 0)

/-- A file system tells what stands at a path. -/
abbrev FileSystem := Text → Option Node

namespace Node

/-- The size of a node in bytes. That of a directory is up to the system that keeps it. -/
def size : Node → Nat
  | .file content => content.size
  | .directory _ size => size

/-- The text of a node. A directory cannot be read. -/
def text? : Node → Option Text
  | .file content => content.text
  | .directory _ _ => none

/-- The entry of a name in a directory. -/
def entry? (name : Text) : Node → Option Node
  | .file _ => none
  | .directory entries _ => entries.lookup name

/-- The node is a directory. -/
def isDirectory : Node → Bool
  | .file _ => false
  | .directory _ _ => true

/-- The entries of a directory with a node at a name, in place of the one that was there. -/
def putEntry (name : Text) (node : Node) : List (Text × Node) → List (Text × Node)
  | [] => [(name, node)]
  | (other, old) :: entries =>
      if other = name then (name, node) :: entries
      else (other, old) :: putEntry name node entries

/-- (put node names tree) is the tree with a node below the directories of the given names, which
are made where they are missing.
-/
def put (node : Node) : List Text → Node → Node
  | [], _ => node
  | name :: names, tree =>
      let (entries, size) :=
        match tree with
        | .directory entries size => (entries, size)
        | .file _ => ([], 0)
      let below := (entries.lookup name).getD (.directory [])
      .directory (putEntry name (put node names below) entries) size

/-- (follow? above node parts) goes on from a node, which lies below the directories `above`, the
innermost first. An empty part and `.` stay in a directory, and `..` leaves it.
-/
def follow? : List Node → Node → List Text → Option Node
  | _, node, [] => some node
  | above, node, part :: parts =>
      if ¬ node.isDirectory then none
      else if part = [] ∨ part = ['.'] then follow? above node parts
      else if part = ['.', '.'] then
        match above with
        | [] => none
        | parent :: above => follow? above parent parts
      else
        match node.entry? part with
        | some below => follow? (node :: above) below parts
        | none => none

/-- The file system of a tree, in which paths start at its root. -/
def fileSystem (root : Node) : FileSystem := fun path =>
  match path with
  | [] => none
  | first :: _ => if first = '/' then none else follow? [] root (Text.splitOnChar '/' path)

end Node

namespace FileSystem

/-- The file at a path. -/
def file? (files : FileSystem) (path : Text) : Option File :=
  match files path with
  | some (.file file) => some file
  | _ => none

/-- A path leads to a file. -/
def isFile (files : FileSystem) (path : Text) : Bool :=
  (files.file? path).isSome

/-- A path leads to a directory. -/
def isDirectory (files : FileSystem) (path : Text) : Bool :=
  (files path).any Node.isDirectory

/-- The text of the file at a path, when there is one that can be read. -/
def readText? (files : FileSystem) (path : Text) : Option Text :=
  (files.file? path).bind (·.text)

end FileSystem

end PageAudit
