import Mathlib
import PageAudit.Proofs.Batch.Turns
import PageAudit.Proofs.Files.Walk

/-! What a batch collects for its paths, and that none of it is refused for its kind. -/

namespace PageAudit

namespace FileSystem

/-- (Listing path stands listed) says what is scanned for a path by what stands there: the path
itself when it is a file of a scanned kind, what a walk shows when it is a directory, and
otherwise nothing.
-/
inductive Listing (path : Text) : Option Node → List Text → Prop where
  | scanned (file : File) (kind : Path.isScanned path = true)
    : Listing path (some (.file file)) [path]
  | otherKind (file : File) (kind : Path.isScanned path = false)
    : Listing path (some (.file file)) []
  | nothing : Listing path none []
  | directory {entries : List (Text × Node)} {size : Nat} {listed : List Text}
    (shows : ∀ place,
      place ∈ listed
        ↔ ∃ names, place = Path.descend path names
            ∧ (Node.directory entries size).Shows path names)
    (once : listed.Nodup)
    (ordered : listed.Pairwise (Path.ComesBefore path))
    : Listing path (some (.directory entries size)) listed

/-- (Lists files path listed) says what is scanned for a path of a file system. -/
def Lists (files : FileSystem) (path : Text) (listed : List Text) : Prop :=
  Listing path (files path) listed

variable {files : FileSystem} {path : Text} {listed : List Text}

/-- What is scanned for a path is determined by what stands there: two lists with the same places,
each of them once, are the same when both are in the order of one walk.
-/
theorem Listing.unique {stands : Option Node} {others : List Text}
    (lists : Listing path stands listed) (alsoLists : Listing path stands others)
    : listed = others := by
  cases lists with
  | scanned file kind =>
      cases alsoLists with
      | scanned => rfl
      | otherKind _ otherwise => exact absurd (kind.symm.trans otherwise) nofun
  | otherKind file kind =>
      cases alsoLists with
      | scanned _ otherwise => exact absurd (kind.symm.trans otherwise) nofun
      | otherKind => rfl
  | nothing =>
      cases alsoLists with
      | nothing => rfl
  | directory shows once ordered =>
      cases alsoLists with
      | directory alsoShows alsoOnce alsoOrdered =>
          have samePlaces (place : Text) : place ∈ listed ↔ place ∈ others :=
            (shows place).trans (alsoShows place).symm
          have perm : listed.Perm others :=
            (List.perm_ext_iff_of_nodup once alsoOnce).mpr samePlaces
          exact perm.eq_of_pairwise
            (fun _ _ _ _ before after => absurd after before.asymm) ordered alsoOrdered

/-- The files below a path that leads to a tree are those of a walk. -/
theorem lists_scannedAt (trees : ∀ node, files path = some node → node.IsTree)
    : files.Lists path (files.scannedAt path) := by
  unfold Lists scannedAt
  cases stands : files path with
  | none => exact .nothing
  | some node =>
      have tree := trees node stands
      cases node with
      | file file =>
          change Listing path (some (.file file)) (if Path.isScanned path then [path] else [])
          cases kind : Path.isScanned path with
          | true => exact .scanned file kind
          | false => exact .otherKind file kind
      | directory entries size =>
          have ordered := Node.pairwise_scannedBelow tree path
          exact .directory (fun _ => Node.mem_scannedBelow_iff tree)
            (ordered.imp fun before => before.ne) ordered

/-- Each place that a walk lists is a file of a scanned kind. -/
theorem of_mem_scannedAt {root : Node} (tree : root.IsTree) {place : Text}
    (listed : place ∈ FileSystem.scannedAt root.fileSystem path)
    : FileSystem.isFile root.fileSystem place ∧ Path.isScanned place := by
  unfold scannedAt at listed
  cases stands : root.fileSystem path with
  | none =>
      rw [stands] at listed
      exact absurd listed List.not_mem_nil
  | some node =>
      rw [stands] at listed
      have below := Node.isTree_of_fileSystem tree stands
      obtain ⟨names, rfl, ⟨file, leads⟩, kind, -⟩ := (Node.mem_scannedBelow_iff below).mp listed
      have found := leads.fileSystem_descend tree stands
      exact ⟨by simp [isFile, file?, found], kind⟩

/-- No file behind a directory that is never entered is listed, wherever that directory lies. -/
theorem not_mem_scannedAt_of_skipped {node : Node} {names : List Text} {file : File}
    (tree : node.IsTree) (stands : files path = some node) (leads : node.HasFile names file)
    {name : Text} (through : name ∈ names.dropLast) (skipped : name ∈ skippedDirectories)
    : Path.descend path names ∉ files.scannedAt path := by
  intro listed
  have below : Path.descend path names ∈ node.scannedBelow path := by
    rw [scannedAt, stands] at listed
    exact listed
  obtain ⟨others, same, ⟨other, alsoLeads⟩, -, entered⟩ := (Node.mem_scannedBelow_iff tree).mp below
  obtain rfl : names = others :=
    Path.descend_injective (leads.isName tree) (alsoLeads.isName tree) same
  exact entered name through skipped

end FileSystem

namespace Batch

/-- A file of a scanned kind is never refused for its kind. -/
theorem scanFile_ne_unsupported (batch : Batch) {path : Text} (kind : Path.isScanned path)
    (isCancelled : Bool)
    : batch.scanFile isCancelled path ≠ .error .unsupported := by
  intro refused
  have becomes := batch.becomes_scanFile isCancelled path
  rw [refused] at becomes
  cases becomes with
  | unsupported otherKind => exact absurd (kind.symm.trans otherKind) nofun

/-- On a tree a batch collects, path by path, what is scanned for each path, and this says what it
collects. All of it are files, none of them lies behind a directory that is never entered, and
whenever the batch is cancelled, none of them is refused for its kind.
-/
theorem collect_lists (batch : Batch) {root : Node} (tree : root.IsTree)
    (stands : batch.files = root.fileSystem) (paths : List Text)
    : (∀ listed,
        listed = batch.files.collect paths
          ↔ ∃ parts, List.Forall₂ batch.files.Lists paths parts ∧ listed = parts.flatten)
      ∧ (∀ place ∈ batch.files.collect paths, batch.files.isFile place)
      ∧ (∀ path node names file,
          batch.files path = some node → node.HasFile names file →
            ∀ name ∈ names.dropLast, name ∈ skippedDirectories →
              Path.descend path names ∉ batch.files.scannedAt path)
      ∧ ∀ turns, turns.map (·.1) = batch.files.collect paths →
          .error .unsupported ∉ batch.outcomes turns := by
  have trees (path : Text) (node : Node) (leads : batch.files path = some node) : node.IsTree :=
    Node.isTree_of_fileSystem tree (stands ▸ leads)
  have lists (path : Text) : batch.files.Lists path (batch.files.scannedAt path) :=
    FileSystem.lists_scannedAt (trees path)
  have scanned {place : Text} (collected : place ∈ batch.files.collect paths)
      : batch.files.isFile place ∧ Path.isScanned place := by
    obtain ⟨path, -, listed⟩ := List.mem_flatMap.mp collected
    rw [stands] at listed ⊢
    exact FileSystem.of_mem_scannedAt tree listed
  refine ⟨fun listed => ⟨?_, ?_⟩, fun place collected => (scanned collected).1, ?_, ?_⟩
  · rintro rfl
    refine ⟨paths.map batch.files.scannedAt, ?_, List.flatMap_def⟩
    exact List.forall₂_map_right_iff.mpr (List.forall₂_same.mpr fun path _ => lists path)
  · -- What each path lists is determined, so the parts are those that are collected.
    rintro ⟨parts, each, rfl⟩
    have same : parts = paths.map batch.files.scannedAt := by
      rw [← List.forall₂_eq_eq_eq, List.forall₂_map_right_iff]
      exact each.flip.imp fun _ _ listing => listing.unique (lists _)
    rw [same]
    rfl
  · intro path node names file leads file name through skipped
    exact FileSystem.not_mem_scannedAt_of_skipped (trees path node leads) leads file through skipped
  · intro turns collected refused
    obtain ⟨turn, listed, outcome⟩ := List.mem_map.mp refused
    have member : turn.1 ∈ batch.files.collect paths :=
      collected ▸ List.mem_map_of_mem listed
    exact batch.scanFile_ne_unsupported (scanned member).2 turn.2 outcome

/-- A directory of built files, with another one in it. -/
def builtFiles : Node :=
  .directory [
    ("page.html", .file { size := 5, text := none }),
    ("build", .directory [("old.html", .file { size := 1, text := none })])]

/-- A site with pages, a component and built files. The name of its directory comes before that of a
page, and the path of the component comes behind the path of that page.
-/
def site : Node :=
  .directory [
    ("page.html", .file { size := 5, text := none }),
    ("notes.txt", .file { size := 3, text := none }),
    ("dist", builtFiles),
    ("app.html", .file { size := 4, text := none }),
    ("app", .directory [("x.vue", .file { size := 2, text := none }), ("target", builtFiles)])]

/-- The batch that scans that site. -/
def siteBatch : Batch :=
  { auditor := .ofPolicy .standard
    options := { maxBytes := 8, leastSeverity := .info, disabled := [] }
    files := site.fileSystem }

/-- The paths given to that batch: the whole site, its built files, a file of another kind, a page,
and a file that is missing.
-/
def sitePaths : List Text :=
  [".", "dist", "notes.txt", "page.html", "old.html"]

/-- What that batch scans. -/
def siteFiles : List Text :=
  ["./app/x.vue", "./app.html", "./page.html", "dist/page.html", "page.html"]

theorem isTree_site : site.IsTree := by
  have built : builtFiles.IsTree := by
    refine .directory _ (by decide) (by decide) ?_
    refine List.forall_mem_cons.mpr ⟨.file _, List.forall_mem_singleton.mpr ?_⟩
    exact .directory _ (by decide) (by decide) (List.forall_mem_singleton.mpr (.file _))
  refine .directory _ (by decide) (by decide) ?_
  simp only [List.forall_mem_cons]
  refine ⟨.file _, .file _, built, .file _, ?_, List.forall_mem_nil _⟩
  refine .directory _ (by decide) (by decide) ?_
  exact List.forall_mem_cons.mpr ⟨.file _, List.forall_mem_singleton.mpr built⟩

/-- The built files of the site are walked when they are given, and not on the way through it. -/
theorem collect_sitePaths : site.fileSystem.collect sitePaths = siteFiles := by
  have app : skippedDirectories.contains "app".toList = false := by decide
  have dist : skippedDirectories.contains "dist".toList = true := by decide
  have build : skippedDirectories.contains "build".toList = true := by decide
  have target : skippedDirectories.contains "target".toList = true := by decide
  have otherKind : Path.isScanned "notes.txt".toList = false := by decide +kernel
  have alsoOther : Path.isScanned (Path.join ".".toList "notes.txt".toList) = false := by
    decide +kernel
  have whole : site.fileSystem ".".toList = some site := by cbv
  have built : site.fileSystem "dist".toList = some builtFiles := by cbv
  have notes : site.fileSystem "notes.txt".toList = some (.file { size := 3, text := none }) := by
    cbv
  have page : site.fileSystem "page.html".toList = some (.file { size := 5, text := none }) := by
    cbv
  have missing : site.fileSystem "old.html".toList = none := by cbv
  simp only [FileSystem.collect, FileSystem.scannedAt, sitePaths, List.flatMap_cons,
    List.flatMap_nil, whole, built, notes, page, missing]
  simp only [site, builtFiles, Node.scannedBelow, Node.scannedInEntries, Node.isDirectory, app,
    dist, build, target, otherKind, alsoOther, Bool.true_and, Bool.false_and, if_true, if_false,
    Bool.false_eq_true]
  cbv

/-- Witness: the collected files are those that the paths stand for. -/
theorem collect_lists_site
    : site.IsTree
      ∧ siteBatch.files = site.fileSystem
      ∧ ∃ parts,
          List.Forall₂ siteBatch.files.Lists sitePaths parts
          ∧ siteFiles = parts.flatten :=
  have lists := (siteBatch.collect_lists isTree_site rfl sitePaths).1 siteFiles
  ⟨isTree_site, rfl, lists.mp collect_sitePaths.symm⟩

end Batch

end PageAudit
