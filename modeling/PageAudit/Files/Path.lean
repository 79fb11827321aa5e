import PageAudit.Text.Basic

/-! Paths are texts whose parts are separated by slashes. They are kept as they were written,
since reports show them so.
-/

namespace PageAudit.Path

/-- The last part of a path, when it names something. Empty parts and `.` add nothing to a
path, and `..` names nothing.
-/
def fileName? (path : Text) : Option Text :=
  let parts := (Text.splitOnChar '/' path).filter (fun part => part ≠ [] ∧ part ≠ ['.'])
  parts.getLast?.filter (fun part => part ≠ ['.', '.'])

/-- What follows the last point in the last part of a path. A point at its start begins no
extension.
-/
def extension? (path : Text) : Option Text :=
  (fileName? path).bind fun name =>
    let (ending, stem) := name.reverse.span (· != '.')
    if stem.length ≤ 1 then none else some ending.reverse

/-- A path, in reverse, without the slashes and the parts `.` at its end. A path of slashes
alone leads to the root.
-/
def dropEmptyEnd : Text → Text
  | '/' :: path => if path.isEmpty then ['/'] else dropEmptyEnd path
  | '.' :: '/' :: path => dropEmptyEnd ('/' :: path)
  | path => path

/-- The path without its last part. It is empty when there is only one. -/
def parent (path : Text) : Text :=
  let shorter := (dropEmptyEnd path.reverse).dropWhile (· != '/')
  (dropEmptyEnd shorter).reverse

/-- The path of an entry of a directory. -/
def join (directory name : Text) : Text :=
  if directory = [] ∨ Text.endsWith directory ['/'] then directory ++ name
  else directory ++ '/' :: name

/-- The extensions of the files that are scanned. -/
def scannedExtensions : List Text :=
  ["html", "htm", "jsx", "tsx", "js", "ts", "mjs", "vue", "svelte", "astro"]

/-- The extensions of components, whose heads are usually filled in when the page runs. -/
def componentExtensions : List Text :=
  ["jsx", "tsx", "vue", "svelte", "astro"]

/-- A path has one of the given extensions, in any case. -/
def hasExtensionIn (extensions : List Text) (path : Text) : Bool :=
  (extension? path).any (fun extension => extensions.contains (Text.lower extension))

/-- A path names a file of a kind that is scanned. -/
def isScanned (path : Text) : Bool :=
  hasExtensionIn scannedExtensions path

/-- A path names a file with a component. -/
def isComponent (path : Text) : Bool :=
  hasExtensionIn componentExtensions path

end PageAudit.Path
