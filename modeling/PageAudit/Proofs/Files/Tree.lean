import Mathlib.Data.List.Nodup
import PageAudit.Files.Tree
import PageAudit.Proofs.Files.Path

/-! What lies below a node of a tree, by the names that lead there and by its path.

Paths may also stay in a directory or leave it, so following one keeps the directories above. What
lies below a node is found in the file system under the path of the node and the names behind it.
-/

namespace PageAudit

namespace Node

/-- (IsTree node) says that a disk may hold a node: the entries of each directory have names of
which no two are the same.
-/
inductive IsTree : Node → Prop where
  | file (file : File) : IsTree (.file file)
  | directory {entries : List (Text × Node)} (size : Nat)
    (distinct : (entries.map (·.1)).Nodup)
    (named : ∀ entry ∈ entries, Path.IsName entry.1)
    (below : ∀ entry ∈ entries, IsTree entry.2)
    : IsTree (.directory entries size)

/-- (HasFile node names file) says that the names lead from a node down to a file. -/
inductive HasFile : Node → List Text → File → Prop where
  | self (file : File) : HasFile (.file file) [] file
  | entry {entries : List (Text × Node)} {size : Nat} {name : Text} {node : Node}
    {names : List Text} {file : File} (listed : (name, node) ∈ entries)
    (leads : HasFile node names file)
    : HasFile (.directory entries size) (name :: names) file

variable {node found : Node} {names : List Text} {file : File}

/-- In a tree all names are names of entries. -/
theorem HasFile.isName (leads : node.HasFile names file) (tree : node.IsTree)
    : ∀ name ∈ names, Path.IsName name := by
  induction leads with
  | self => exact nofun
  | entry listed _ ih =>
      cases tree with
      | directory _ _ named below =>
          exact List.forall_mem_cons.mpr ⟨named _ listed, ih (below _ listed)⟩

theorem mem_of_lookup {entries : List (Text × Node)} {size : Nat} {name : Text}
    (found : Node.entry? name (.directory entries size) = some node)
    : (name, node) ∈ entries := by
  obtain ⟨front, back, rfl, -⟩ := List.lookup_eq_some_iff.mp found
  exact List.mem_append_right front List.mem_cons_self

/-- Of entries with different names, the one of a name is found by it. -/
theorem lookup_of_mem {entries : List (Text × Node)} {size : Nat} {name : Text}
    (distinct : (entries.map (·.1)).Nodup) (entry : (name, node) ∈ entries)
    : Node.entry? name (.directory entries size) = some node := by
  change entries.lookup name = some node
  induction entries with
  | nil => exact absurd entry List.not_mem_nil
  | cons first others ih =>
      obtain ⟨other, above⟩ := first
      rw [List.map_cons, List.nodup_cons] at distinct
      cases entry with
      | head => exact List.lookup_cons_self
      | tail _ entry =>
          have differs : (name == other) = false := by
            refine beq_eq_false_iff_ne.mpr fun same => distinct.1 ?_
            exact List.mem_map.mpr ⟨_, entry, same⟩
          rw [List.lookup_cons, differs]
          exact ih distinct.2 entry

-----------------------------------------------------------------------------------------
-- Following a path
-----------------------------------------------------------------------------------------

/-- One name of an entry leads to that entry. -/
theorem follow?_cons {entries : List (Text × Node)} {size : Nat} {name : Text}
    (isName : Path.IsName name) (above : List Node) (names : List Text)
    : follow? above (.directory entries size) (name :: names)
      = Option.bind ( Node.entry? name (.directory entries size)) fun below =>
          follow? (.directory entries size :: above) below names := by
  obtain ⟨nonempty, -, notSelf, notParent⟩ := isName
  simp only [follow?, isDirectory, nonempty, notSelf, notParent, or_self, not_true, if_false]
  cases Node.entry? name (.directory entries size) <;> rfl

/-- The names that lead to a file lead to it in each directory around it. -/
theorem HasFile.follow? (leads : node.HasFile names file) (tree : node.IsTree)
    (above : List Node)
    : follow? above node names = some (.file file) := by
  induction leads generalizing above with
  | self => rfl
  | entry listed _ ih =>
      cases tree with
      | directory size distinct named below =>
          rw [follow?_cons (named _ listed), lookup_of_mem distinct listed, Option.bind_some]
          exact ih (below _ listed) _

/-- A path that leads somewhere first leads to a tree, and its other parts go on from there. The
induction is over the parts in front.
-/
theorem follow?_append {above : List Node} {parts more : List Text} (tree : node.IsTree)
    (trees : ∀ around ∈ above, around.IsTree)
    (leads : Node.follow? above node (parts ++ more) = some found)
    : ∃ middle around,
        Node.follow? above node parts = some middle
        ∧ middle.IsTree
        ∧ ∀ others,
            Node.follow? above node (parts ++ others) = Node.follow? around middle others := by
  fun_induction Node.follow? above node parts with
  | case1 above node => exact ⟨node, above, rfl, tree, fun _ => rfl⟩
  | case2 above node part parts noDirectory => simp [Node.follow?, noDirectory] at leads
  | case3 above node part parts directory stays ih =>
      have step (rest : List Text)
          : Node.follow? above node (part :: rest) = Node.follow? above node rest := by
        simp [Node.follow?, directory, stays]
      obtain ⟨middle, around, first, isTree, behind⟩ := ih tree trees ((step _).symm.trans leads)
      exact ⟨middle, around, first, isTree, fun others => (step _).trans (behind others)⟩
  | case4 node parts directory moves => simp [Node.follow?, directory] at leads
  | case5 node parts directory parent above moves ih =>
      obtain ⟨outer, rest⟩ := List.forall_mem_cons.mp trees
      have step (rest : List Text)
          : Node.follow? (parent :: above) node (['.', '.'] :: rest)
            = Node.follow? above parent rest := by
        simp [Node.follow?, directory]
      obtain ⟨middle, around, first, isTree, behind⟩ := ih outer rest ((step _).symm.trans leads)
      exact ⟨middle, around, first, isTree, fun others => (step _).trans (behind others)⟩
  | case6 above node part parts directory moves enters below entry ih =>
      have inner : below.IsTree := by
        cases tree with
        | file => exact absurd entry nofun
        | directory _ _ _ below => exact below _ (mem_of_lookup entry)
      have step (rest : List Text)
          : Node.follow? above node (part :: rest) = Node.follow? (node :: above) below rest := by
        simp [Node.follow?, directory, moves, enters, entry]
      obtain ⟨middle, around, first, isTree, behind⟩ :=
        ih inner (List.forall_mem_cons.mpr ⟨tree, trees⟩) ((step _).symm.trans leads)
      exact ⟨middle, around, first, isTree, fun others => (step _).trans (behind others)⟩
  | case7 above node part parts directory moves enters missing =>
      simp [Node.follow?, directory, moves, enters, missing] at leads

variable {root : Node} {path : Text}

/-- A path of a file system is followed from the root on, part by part. -/
theorem fileSystem_eq_some_iff
    : root.fileSystem path = some found
      ↔ path ≠ [] ∧ path.head? ≠ some '/'
        ∧ Node.follow? [] root (Text.splitOnChar '/' path) = some found := by
  cases path with
  | nil => simp [fileSystem]
  | cons first rest => by_cases slash : first = '/' <;> simp [fileSystem, slash]

/-- An empty part leads nowhere else. -/
theorem eq_of_follow?_empty {above : List Node} (leads : Node.follow? above node [[]] = some found)
    : node = found := by
  by_cases directory : node.isDirectory
  · simpa [Node.follow?, directory] using leads
  · simp [Node.follow?, directory] at leads

/-- A slash at the end of a path changes nothing about where it leads. -/
theorem follow?_parts (tree : root.IsTree)
    (leads : Node.follow? [] root (Text.splitOnChar '/' path) = some found)
    : Node.follow? [] root (Path.parts path) = some found := by
  unfold Path.parts
  split
  · next separated =>
      rcases separated with rfl | ends
      · exact congrArg some (eq_of_follow?_empty leads)
      · obtain ⟨front, rfl⟩ := Text.endsWith_iff.mp ends
        have cut : Text.splitOnChar '/' (front ++ ['/']) = Text.splitOnChar '/' front ++ [[]] :=
          Text.splitOnChar_append '/' front []
        rw [cut] at leads ⊢
        obtain ⟨middle, around, first, -, behind⟩ :=
          follow?_append tree (List.forall_mem_nil _) leads
        rw [behind] at leads
        rw [List.dropLast_concat, first, eq_of_follow?_empty leads]
  · exact leads

/-- What a path leads to in a tree is a tree. -/
theorem isTree_of_fileSystem (tree : root.IsTree) (leads : root.fileSystem path = some found)
    : found.IsTree := by
  obtain ⟨-, -, follows⟩ := fileSystem_eq_some_iff.mp leads
  have whole : Node.follow? [] root (Text.splitOnChar '/' path ++ []) = some found := by
    rw [List.append_nil]
    exact follows
  obtain ⟨middle, around, first, isTree, -⟩ :=
    follow?_append tree (List.forall_mem_nil _) whole
  rw [follows] at first
  exact Option.some.inj first ▸ isTree

/-- A file below a node stands in the file system at the path that goes down to it. -/
theorem HasFile.fileSystem_descend (leads : node.HasFile names file) (tree : root.IsTree)
    (stands : root.fileSystem path = some node)
    : root.fileSystem (Path.descend path names) = some (.file file) := by
  cases names with
  | nil =>
      cases leads
      exact stands
  | cons name names =>
      have isTree := isTree_of_fileSystem tree stands
      have areNames := leads.isName isTree
      obtain ⟨nonempty, noSlash, follows⟩ := fileSystem_eq_some_iff.mp stands
      obtain ⟨rest, below⟩ := Path.prefix_descend path (name :: names)
      -- The path may leave directories again, so the names are followed from where it has led and
      -- not from the root.
      have cut := Path.splitOnChar_descend path areNames (List.cons_ne_nil _ _)
      have parts : Node.follow? [] root (Path.parts path ++ []) = some node := by
        rw [List.append_nil]
        exact follow?_parts tree follows
      obtain ⟨middle, around, first, -, behind⟩ :=
        follow?_append tree (List.forall_mem_nil _) parts
      rw [List.append_nil, first] at parts
      obtain rfl : middle = node := Option.some.inj parts
      refine fileSystem_eq_some_iff.mpr ⟨?_, ?_, ?_⟩
      · simp [← below, nonempty]
      · rw [← below, List.head?_append_of_ne_nil _ nonempty]
        exact noSlash
      · rw [cut, behind]
        exact leads.follow? isTree around

end Node

end PageAudit
