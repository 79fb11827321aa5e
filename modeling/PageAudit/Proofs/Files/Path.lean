import PageAudit.Files.Path

/-! Going down from a path through the names of entries.

A path is cut at its slashes, and an entry adds its name behind the parts of its directory. So a
path below a directory tells through which names it leads.
-/

namespace PageAudit

namespace Text

variable (separator : Char)

theorem splitOnChar_cons (char : Char) (text : Text)
    : splitOnChar separator (char :: text)
      = if char = separator then [] :: splitOnChar separator text
        else match splitOnChar separator text with
          | [] => [[char]]
          | part :: others => (char :: part) :: others :=
  rfl

theorem splitOnChar_ne_nil (text : Text) : splitOnChar separator text ≠ [] := by
  cases text with
  | nil => exact List.cons_ne_nil _ _
  | cons char text =>
      rw [splitOnChar_cons]
      split
      · exact List.cons_ne_nil _ _
      · split <;> exact List.cons_ne_nil _ _

/-- A text without the separator is one part. -/
theorem splitOnChar_eq_singleton {separator : Char} {text : Text} (free : separator ∉ text)
    : splitOnChar separator text = [text] := by
  induction text with
  | nil => rfl
  | cons char text ih =>
      rw [List.mem_cons, not_or] at free
      obtain ⟨differs, rest⟩ := free
      rw [splitOnChar_cons, if_neg (Ne.symm differs), ih rest]

/-- A text is cut at each separator, whatever stands in front of it and behind it. -/
theorem splitOnChar_append (front back : Text)
    : splitOnChar separator (front ++ separator :: back)
      = splitOnChar separator front ++ splitOnChar separator back := by
  induction front with
  | nil => rw [List.nil_append, splitOnChar_cons, if_pos rfl]; rfl
  | cons char front ih =>
      rw [List.cons_append, splitOnChar_cons, splitOnChar_cons, ih]
      split
      · rfl
      · cases parts : splitOnChar separator front with
        | nil => exact absurd parts (splitOnChar_ne_nil separator front)
        | cons part others => rfl

theorem endsWith_iff {text ending : Text} : endsWith text ending ↔ ending <:+ text :=
  List.isSuffixOf_iff_suffix

end Text

namespace Path

/-- A name of an entry: it is not empty, it has no slash, and it is none of the two names by which
each directory calls itself and the one around it.
-/
def IsName (name : Text) : Prop :=
  name ≠ [] ∧ '/' ∉ name ∧ name ≠ ['.'] ∧ name ≠ ['.', '.']

instance (name : Text) : Decidable (IsName name) :=
  inferInstanceAs (Decidable (_ ∧ _))

/-- The path that leads from a directory through entries with the given names. -/
def descend (path : Text) (names : List Text) : Text :=
  names.foldl join path

/-- The parts of a path behind which the name of an entry is put. A slash at the end of the path
already separates them from it.
-/
def parts (path : Text) : List Text :=
  if path = [] ∨ Text.endsWith path ['/'] then (Text.splitOnChar '/' path).dropLast
  else Text.splitOnChar '/' path

variable {path name : Text} {names others : List Text}

theorem join_ne_nil (isName : IsName name) : join path name ≠ [] := by
  unfold join
  split <;> simp [isName.1]

/-- The path of an entry ends as its name does, and so not with a slash. -/
theorem not_endsWith_join (isName : IsName name)
    : Text.endsWith (join path name) ['/'] = false := by
  obtain ⟨nonempty, free, -⟩ := isName
  have ends (text : Text) : Text.endsWith (text ++ name) ['/'] = false := by
    refine Bool.eq_false_iff.mpr fun slash => free ?_
    obtain ⟨front, split⟩ := Text.endsWith_iff.mp slash
    have last := congrArg List.getLast? split
    rw [List.getLast?_append, List.getLast?_append, List.getLast?_eq_some_getLast nonempty] at last
    have slashEnds : '/' = name.getLast nonempty := Option.some.inj last
    exact slashEnds ▸ List.getLast_mem nonempty
  unfold join
  split
  · exact ends path
  · simpa using ends (path ++ ['/'])

theorem splitOnChar_join (isName : IsName name)
    : Text.splitOnChar '/' (join path name) = parts path ++ [name] := by
  have single : Text.splitOnChar '/' name = [name] :=
    Text.splitOnChar_eq_singleton isName.2.1
  unfold join parts
  split
  · next separated =>
      rcases separated with rfl | ends
      · exact single
      · obtain ⟨front, rfl⟩ := Text.endsWith_iff.mp ends
        have cut : Text.splitOnChar '/' (front ++ ['/']) = Text.splitOnChar '/' front ++ [[]] :=
          Text.splitOnChar_append '/' front []
        rw [List.append_assoc, List.singleton_append, Text.splitOnChar_append, single, cut,
          List.dropLast_concat]
  · rw [Text.splitOnChar_append, single]

/-- The path of an entry has the parts of its directory and the name of the entry. -/
theorem parts_join (isName : IsName name) : parts (join path name) = parts path ++ [name] := by
  rw [parts, if_neg, splitOnChar_join isName]
  simp [join_ne_nil isName, not_endsWith_join isName]

/-- A path below a directory has the names that lead to it as its further parts, by induction over
the names.
-/
theorem parts_descend (path : Text) (areNames : ∀ name ∈ names, IsName name)
    : parts (descend path names) = parts path ++ names := by
  induction names generalizing path with
  | nil => rw [descend, List.foldl_nil, List.append_nil]
  | cons name names ih =>
      have first : IsName name := areNames name List.mem_cons_self
      have below := ih (join path name) fun other member => areNames other (.tail _ member)
      rw [parts_join first, List.append_assoc, List.singleton_append] at below
      exact below

theorem splitOnChar_descend (path : Text) (areNames : ∀ name ∈ names, IsName name)
    (nonempty : names ≠ [])
    : Text.splitOnChar '/' (descend path names) = parts path ++ names := by
  obtain ⟨front, last, split⟩ := (List.eq_nil_or_concat names).resolve_left nonempty
  obtain rfl : names = front ++ [last] := split.trans List.concat_eq_append
  have around := parts_descend path fun name member =>
    areNames name (List.mem_append_left _ member)
  have single : descend path (front ++ [last]) = join (descend path front) last := by
    rw [descend, List.foldl_append]
    rfl
  rw [single, splitOnChar_join (areNames last List.mem_concat_self), around, List.append_assoc]

/-- Going down adds to a path. -/
theorem prefix_descend (path : Text) (names : List Text) : path <+: descend path names := by
  induction names generalizing path with
  | nil => exact List.prefix_rfl
  | cons name names ih =>
      have first : path <+: join path name := by
        unfold join
        split <;> exact List.prefix_append _ _
      exact first.trans (ih (join path name))

/-- Different names lead to different paths. -/
theorem descend_injective (areNames : ∀ name ∈ names, IsName name)
    (alsoNames : ∀ name ∈ others, IsName name) (same : descend path names = descend path others)
    : names = others := by
  have parts := congrArg parts same
  rw [parts_descend path areNames, parts_descend path alsoNames] at parts
  exact List.append_cancel_left parts

end Path

end PageAudit
