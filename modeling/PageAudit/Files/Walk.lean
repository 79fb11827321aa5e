import PageAudit.Files.Tree
import PageAudit.Text.Order

/-! The files that are scanned below a path. Directories are walked in the order of the names
of their entries, each at its place, and some are never entered.
-/

namespace PageAudit

/-- The directories that hold what others wrote or what a build made. -/
def skippedDirectories : List Text :=
  ["node_modules", ".git", "target", "dist", "build", ".next"]

/-- Two names are in order unless the second one comes before the first. -/
def nameOrder (left right : Text) : Bool :=
  !Text.isBefore right left

namespace Node

mutual

/-- The paths of the files with a scanned extension at and below a node, which stands at a
given path.
-/
def scannedBelow (path : Text) : Node → List Text
  | .file _ => if Path.isScanned path then [path] else []
  | .directory entries _ =>
      ((scannedInEntries path entries).mergeSort
        (fun left right => nameOrder left.1 right.1)).flatMap (·.2)

/-- The names of the entries of a directory, each with the paths of the scanned files there. A
directory that is never entered has none.
-/
def scannedInEntries (path : Text) : List (Text × Node) → List (Text × List Text)
  | [] => []
  | (name, node) :: entries =>
      let below :=
        if node.isDirectory && skippedDirectories.contains name then []
        else scannedBelow (Path.join path name) node
      (name, below) :: scannedInEntries path entries

end

end Node

/-- The files that are scanned for a path: the path itself or what lies below it. -/
def FileSystem.scannedAt (files : FileSystem) (path : Text) : List Text :=
  match files path with
  | some node => node.scannedBelow path
  | none => []

/-- The files that are scanned for some paths, in order. -/
def FileSystem.collect (files : FileSystem) (paths : List Text) : List Text :=
  paths.flatMap files.scannedAt

end PageAudit
