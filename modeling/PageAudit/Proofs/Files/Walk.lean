import Mathlib.Data.List.Forall2
import PageAudit.Files.Walk
import PageAudit.Proofs.Files.Tree
import PageAudit.Proofs.Text.Order

/-! The files that are scanned for a path: all of the scanned kinds below it that no skipped
directory hides, once each and in the order in which a walk by the bytes of the names comes to
them.
-/

namespace PageAudit

-----------------------------------------------------------------------------------------
-- The order of names
-----------------------------------------------------------------------------------------

/-- Of two names each is in order behind the other or before it. -/
theorem nameOrder_total (left right : Text) : nameOrder left right || nameOrder right left := by
  cases after : Text.isBefore right left with
  | false => simp [nameOrder, after]
  | true =>
      have notBefore : Text.isBefore left right = false := by
        refine Bool.eq_false_iff.mpr fun before => ?_
        have cycle := Text.isBefore_trans after before
        exact absurd cycle (Bool.eq_false_iff.mp (Text.isBefore_self right))
      simp [nameOrder, notBefore]

/-- Different names that are in order have their bytes in order. -/
theorem bytes_lt_of_nameOrder {left right : Text} (ordered : nameOrder left right)
    (differ : left ≠ right)
    : Text.bytes left < Text.bytes right := by
  have notAfter : Text.isBefore right left = false := by simpa [nameOrder] using ordered
  exact Text.isBefore_iff_bytes_lt.mp (Text.isBefore_of_ne differ.symm notAfter)

theorem nameOrder_trans {first second third : Text} (front : nameOrder first second)
    (back : nameOrder second third)
    : nameOrder first third := by
  rcases eq_or_ne first second with rfl | differ
  · exact back
  · have before := Text.isBefore_iff_bytes_lt.mpr (bytes_lt_of_nameOrder front differ)
    cases after : Text.isBefore third first with
    | false => simp [nameOrder, after]
    | true =>
        have crosses := Text.isBefore_trans after before
        simp [nameOrder, crosses] at back

namespace Path

/-- (ComesBefore path first second) says that a walk from a path comes to one place below it
before it comes to another: at the first difference between the names that lead there, the bytes
of the name are smaller.
-/
def ComesBefore (path first second : Text) : Prop :=
  ∃ names others,
    first = descend path names
    ∧ second = descend path others
    ∧ (∀ name ∈ names, IsName name)
    ∧ (∀ name ∈ others, IsName name)
    ∧ List.Lex (fun name other => Text.bytes name < Text.bytes other) names others

/-- Of two places a walk comes to only one before the other. -/
theorem ComesBefore.asymm {path first second : Text} (before : ComesBefore path first second)
    : ¬ ComesBefore path second first := by
  obtain ⟨names, others, rfl, rfl, areNames, alsoNames, less⟩ := before
  rintro ⟨again, alsoAgain, second, first, againNames, alsoAgainNames, more⟩
  obtain rfl : others = again := descend_injective alsoNames againNames second
  obtain rfl : names = alsoAgain := descend_injective areNames alsoAgainNames first
  exact List.lex_asymm (fun forth back => List.lt_asymm forth back) less more

/-- No walk comes to a place before it comes there. -/
theorem ComesBefore.ne {path first second : Text} (before : ComesBefore path first second)
    : first ≠ second := by
  rintro rfl
  exact before.asymm before

end Path

-----------------------------------------------------------------------------------------
-- Walks
-----------------------------------------------------------------------------------------

namespace Node

/-- (Shows path node names) says that names lead from a node at a path down to a file of a scanned
kind, and that no directory among them is one that is never entered. The node itself may have any
name.
-/
def Shows (path : Text) (node : Node) (names : List Text) : Prop :=
  (∃ file, node.HasFile names file)
  ∧ Path.isScanned (Path.descend path names)
  ∧ ∀ name ∈ names.dropLast, name ∉ skippedDirectories

/-- The scanned files at an entry of a directory at a path. -/
def scannedAtEntry (path : Text) (entry : Text × Node) : List Text :=
  if entry.2.isDirectory && skippedDirectories.contains entry.1 then []
  else entry.2.scannedBelow (Path.join path entry.1)

theorem scannedInEntries_eq_map (path : Text) (entries : List (Text × Node))
    : scannedInEntries path entries
      = entries.map fun entry => (entry.1, scannedAtEntry path entry) := by
  induction entries with
  | nil => rfl
  | cons entry entries ih =>
      rw [scannedInEntries, ih, List.map_cons]
      rfl

/-- A directory is walked entry by entry, in the order of their names. -/
theorem scannedBelow_directory (path : Text) (entries : List (Text × Node)) (size : Nat)
    : (Node.directory entries size).scannedBelow path
      = (entries.mergeSort fun left right => nameOrder left.1 right.1).flatMap
          (scannedAtEntry path) := by
  let byName (left right : Text × Node) : Bool := nameOrder left.1 right.1
  have sorted := List.map_mergeSort (r := byName) (l := entries)
    (f := fun entry => (entry.1, scannedAtEntry path entry))
    (s := fun left right => nameOrder left.1 right.1) fun _ _ _ _ => rfl
  rw [scannedBelow, scannedInEntries_eq_map, ← sorted, List.flatMap_map]

/-- Behind an entry a file is shown when the entry leads to it and is not a directory that is never
entered.
-/
theorem shows_cons_iff {path : Text} {entries : List (Text × Node)} {size : Nat} {name : Text}
    {names : List Text}
    : (Node.directory entries size).Shows path (name :: names)
      ↔ ∃ node, (name, node) ∈ entries
          ∧ (node.isDirectory && skippedDirectories.contains name) = false
          ∧ node.Shows (Path.join path name) names := by
  constructor
  · rintro ⟨⟨file, leads⟩, kind, entered⟩
    cases leads with
    | entry listed leads =>
        refine ⟨_, listed, ?_, ⟨file, leads⟩, kind, fun other member => entered other ?_⟩
        · cases leads with
          | self => rfl
          | entry => simpa [isDirectory] using entered name (by simp)
        · cases names with
          | nil => exact absurd member List.not_mem_nil
          | cons => exact .tail _ member
  · rintro ⟨node, listed, entered, ⟨file, leads⟩, kind, others⟩
    refine ⟨⟨file, .entry listed leads⟩, kind, fun other member => ?_⟩
    cases leads with
    | self => exact absurd member List.not_mem_nil
    | entry listed leads =>
        rcases List.mem_cons.mp member with rfl | member
        · simpa [isDirectory] using entered
        · exact others other member

theorem not_shows_nil {path : Text} {entries : List (Text × Node)} {size : Nat}
    : ¬ (Node.directory entries size).Shows path [] :=
  fun ⟨⟨_, leads⟩, _⟩ => nomatch leads

/-- What a walk from a node lists is what the node shows, by induction over the tree. -/
theorem mem_scannedBelow_iff {node : Node} (tree : node.IsTree) {path place : Text}
    : place ∈ node.scannedBelow path
      ↔ ∃ names, place = Path.descend path names ∧ node.Shows path names := by
  induction tree generalizing path with
  | file file =>
      constructor
      · intro member
        rw [scannedBelow] at member
        split at member
        · next kind =>
            rw [List.mem_singleton.mp member]
            exact ⟨[], rfl, ⟨file, .self file⟩, kind, nofun⟩
        · exact absurd member List.not_mem_nil
      · rintro ⟨names, rfl, ⟨_, leads⟩, kind, -⟩
        cases leads with
        | self =>
            change Path.isScanned path = true at kind
            rw [scannedBelow, if_pos kind]
            exact List.mem_singleton_self _
  | directory size distinct named below ih =>
      rw [scannedBelow_directory, List.mem_flatMap]
      constructor
      · rintro ⟨entry, listed, member⟩
        rw [List.mem_mergeSort] at listed
        unfold scannedAtEntry at member
        split at member
        · exact absurd member List.not_mem_nil
        · next entered =>
            obtain ⟨names, rfl, shows⟩ := (ih entry listed).mp member
            exact ⟨entry.1 :: names, rfl,
              shows_cons_iff.mpr ⟨entry.2, listed, Bool.eq_false_iff.mpr entered, shows⟩⟩
      · rintro ⟨names, rfl, shows⟩
        cases names with
        | nil => exact absurd shows not_shows_nil
        | cons name names =>
            obtain ⟨node, listed, entered, shows⟩ := shows_cons_iff.mp shows
            refine ⟨(name, node), List.mem_mergeSort.mpr listed, ?_⟩
            rw [scannedAtEntry, entered]
            exact (ih _ listed).mpr ⟨names, rfl, shows⟩

/-- A walk lists places in the order in which it comes to them, by induction over the tree: within
an entry all places share its name, and entries are in the order of their names.
-/
theorem pairwise_scannedBelow {node : Node} (tree : node.IsTree) (path : Text)
    : (node.scannedBelow path).Pairwise (Path.ComesBefore path) := by
  induction tree generalizing path with
  | file file =>
      rw [scannedBelow]
      split
      · exact List.pairwise_singleton _ _
      · exact .nil
  | @directory entries size distinct named below ih =>
      have within (entry : Text × Node) (listed : entry ∈ entries)
          : (scannedAtEntry path entry).Pairwise (Path.ComesBefore path) := by
        unfold scannedAtEntry
        split
        · exact .nil
        · refine (ih entry listed (Path.join path entry.1)).imp ?_
          rintro _ _ ⟨names, others, rfl, rfl, areNames, alsoNames, less⟩
          have isName := named entry listed
          exact ⟨entry.1 :: names, entry.1 :: others, rfl, rfl,
            List.forall_mem_cons.mpr ⟨isName, areNames⟩,
            List.forall_mem_cons.mpr ⟨isName, alsoNames⟩, .cons less⟩
      have stands (entry : Text × Node) (listed : entry ∈ entries) (place : Text)
          (member : place ∈ scannedAtEntry path entry)
          : ∃ names, place = Path.descend path (entry.1 :: names)
            ∧ ∀ name ∈ entry.1 :: names, Path.IsName name := by
        unfold scannedAtEntry at member
        split at member
        · exact absurd member List.not_mem_nil
        · obtain ⟨names, rfl, ⟨file, leads⟩, -⟩ :=
            (mem_scannedBelow_iff (below entry listed)).mp member
          exact ⟨names, rfl, List.forall_mem_cons.mpr
            ⟨named entry listed, leads.isName (below entry listed)⟩⟩
      let byName (left right : Text × Node) : Bool := nameOrder left.1 right.1
      have listed {entry : Text × Node} (member : entry ∈ entries.mergeSort byName)
          : entry ∈ entries :=
        List.mem_mergeSort.mp member
      have trans (first second third : Text × Node)
          : byName first second → byName second third → byName first third :=
        nameOrder_trans
      have total (left right : Text × Node) : byName left right || byName right left :=
        nameOrder_total left.1 right.1
      have ordered : (entries.mergeSort byName).Pairwise fun left right => byName left right :=
        List.pairwise_mergeSort trans total entries
      -- The order of names is not strict. It becomes so since no two entries share a name.
      have different : (entries.mergeSort byName).Pairwise fun left right => left.1 ≠ right.1 :=
        List.pairwise_map.mp (((List.mergeSort_perm entries byName).map _).nodup_iff.mpr distinct)
      rw [scannedBelow_directory, List.pairwise_flatMap]
      refine ⟨fun entry member => within entry (listed member), ?_⟩
      refine (ordered.and different).imp_of_mem ?_
      rintro left right leftMember rightMember ⟨order, differ⟩ first firstMember second secondMember
      obtain ⟨names, rfl, areNames⟩ := stands left (listed leftMember) first firstMember
      obtain ⟨others, rfl, alsoNames⟩ := stands right (listed rightMember) second secondMember
      exact ⟨left.1 :: names, right.1 :: others, rfl, rfl, areNames, alsoNames,
        .rel (bytes_lt_of_nameOrder order differ)⟩

end Node

end PageAudit
