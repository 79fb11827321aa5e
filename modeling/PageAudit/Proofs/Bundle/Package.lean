import Mathlib.Data.List.Basic
import PageAudit.Bundle.Import
import PageAudit.Proofs.Text.Trim

/-! Which package a specifier names: the part in front of its first slash or, behind a scope, the
two parts in front of the second one. Specifiers that lead to a file or into the platform name none.
A package names itself, and so does every path within it.
-/

namespace PageAudit.Import

variable {specifier package : Text}

/-- A specifier that names no package: an empty one, a path, or a module of the platform. -/
def Unpackaged (specifier : Text) : Prop :=
  specifier = []
  ∨ specifier.head? = some '.'
  ∨ specifier.head? = some '/'
  ∨ "node:".toList <+: specifier

/-- (Names specifier package) says that a specifier consists of its package and, perhaps, a path
within it. A scope alone is a package when nothing stands behind it.
-/
inductive Names : Text → Text → Prop where
  | plain {name path : Text} (unscoped : name.head? ≠ some '@') (whole : '/' ∉ name)
    (behind : ∀ char ∈ path.head?, char = '/')
    : Names (name ++ path) name
  | scopeAlone {scope : Text} (whole : '/' ∉ scope) : Names ('@' :: scope) ('@' :: scope)
  | inScope {scope name path : Text} (scopeWhole : '/' ∉ scope) (whole : '/' ∉ name)
    (behind : ∀ char ∈ path.head?, char = '/')
    : Names ('@' :: scope ++ '/' :: (name ++ path)) ('@' :: scope ++ '/' :: name)

-----------------------------------------------------------------------------------------
-- Reading the package of a specifier
-----------------------------------------------------------------------------------------

/-- A part of a specifier goes up to the next slash. -/
theorem span_slash_iff {text part rest : Text}
    : text.span (· != '/') = (part, rest)
      ↔ text = part ++ rest ∧ '/' ∉ part ∧ ∀ char ∈ rest.head?, char = '/' := by
  have apart : (∀ char ∈ part, ¬ char = '/') ↔ '/' ∉ part :=
    ⟨fun each member => each '/' member rfl, fun none char member same => none (same ▸ member)⟩
  rw [Text.span_eq_iff]
  simp only [bne_iff_ne, ne_eq, bne_eq_false_iff_eq, apart]

theorem takeWhile_slash {part rest : Text} (whole : '/' ∉ part)
    (behind : ∀ char ∈ rest.head?, char = '/')
    : (part ++ rest).takeWhile (· != '/') = part := by
  have run := span_slash_iff.mpr ⟨rfl, whole, behind⟩
  rw [List.span_eq_takeWhile_dropWhile] at run
  exact (Prod.mk.inj run).1

theorem unpackaged_cons_iff {first : Char} {rest : Text}
    : Unpackaged (first :: rest)
      ↔ first = '.' ∨ first = '/' ∨ Text.startsWith (first :: rest) "node:" := by
  simp [Unpackaged, Text.startsWith]

/-- What stands behind a package is no specifier of its own. -/
theorem unpackaged_of_behind {path : Text} (behind : ∀ char ∈ path.head?, char = '/')
    : Unpackaged path := by
  cases path with
  | nil => exact .inl rfl
  | cons slash path => exact .inr (.inr (.inl (congrArg some (behind slash rfl))))

theorem packageOf?_eq_none (trimmed : Unpackaged (Text.trim specifier))
    : packageOf? specifier = none := by
  unfold packageOf?
  cases text : Text.trim specifier with
  | nil => rfl
  | cons first rest => exact if_pos (unpackaged_cons_iff.mp (text ▸ trimmed))

/-- Behind a scope the package has a second part. -/
theorem packageOf?_scoped {scope deeper : Text}
    (trimmed : Text.trim specifier = '@' :: scope ++ '/' :: deeper) (whole : '/' ∉ scope)
    : packageOf? specifier = some ('@' :: scope ++ '/' :: deeper.takeWhile (· != '/')) := by
  have run : ('@' :: (scope ++ '/' :: deeper)).span (· != '/') = ('@' :: scope, '/' :: deeper) :=
    span_slash_iff.mpr ⟨rfl, by simp [whole], by simp⟩
  have packaged
      : ¬ ('@' = '.' ∨ '@' = '/' ∨ Text.startsWith ('@' :: (scope ++ '/' :: deeper)) "node:") := by
    simp [Text.startsWith]
  rw [packageOf?, trimmed, List.cons_append]
  dsimp only
  rw [if_neg packaged, run]
  rfl

/-- Without a scope, or with nothing behind it, the package is the first part. -/
theorem packageOf?_plain {part path : Text} (trimmed : Text.trim specifier = part ++ path)
    (packaged : ¬ Unpackaged (part ++ path)) (whole : '/' ∉ part)
    (behind : ∀ char ∈ path.head?, char = '/') (single : part.head? ≠ some '@' ∨ path = [])
    : packageOf? specifier = some part := by
  have run : (part ++ path).span (· != '/') = (part, path) :=
    span_slash_iff.mpr ⟨rfl, whole, behind⟩
  rw [packageOf?, trimmed]
  cases part with
  | nil => exact absurd (unpackaged_of_behind behind) packaged
  | cons first rest =>
      rw [List.cons_append] at packaged run ⊢
      dsimp only
      rw [if_neg (packaged ∘ unpackaged_cons_iff.mpr), run]
      split
      · next second =>
          obtain rfl : path = _ :: _ := second
          rcases single with unscoped | none
          · exact absurd rfl unscoped
          · cases none
      · rfl

theorem packageOf?_of_names (packaged : ¬ Unpackaged (Text.trim specifier))
    (names : Names (Text.trim specifier) package)
    : packageOf? specifier = some package := by
  generalize trimmed : Text.trim specifier = text at packaged names
  cases names with
  | plain unscoped whole behind =>
      exact packageOf?_plain trimmed packaged whole behind (.inl unscoped)
  | @scopeAlone scope whole =>
      have part : '/' ∉ '@' :: scope := by simp [whole]
      rw [← List.append_nil ('@' :: scope)] at trimmed packaged
      exact packageOf?_plain trimmed packaged part (by simp) (.inr rfl)
  | inScope scopeWhole whole behind =>
      rw [packageOf?_scoped trimmed scopeWhole, takeWhile_slash whole behind]

/-- Every text can be cut into a package and a path. -/
theorem exists_names (text : Text) : ∃ package, Names text package := by
  cases run : text.span (· != '/') with
  | mk part rest =>
      obtain ⟨rfl, whole, behind⟩ := span_slash_iff.mp run
      by_cases atSign : part.head? = some '@'
      · obtain ⟨scope, rfl⟩ := List.head?_eq_some_iff.mp atSign
        have scopeWhole : '/' ∉ scope := fun member => whole (.tail _ member)
        cases rest with
        | nil =>
            rw [List.append_nil]
            exact ⟨_, .scopeAlone scopeWhole⟩
        | cons slash deeper =>
            obtain rfl : slash = '/' := behind slash rfl
            cases run : deeper.span (· != '/') with
            | mk name path =>
                obtain ⟨rfl, nameWhole, pathBehind⟩ := span_slash_iff.mp run
                exact ⟨_, .inScope scopeWhole nameWhole pathBehind⟩
      · exact ⟨part, .plain atSign whole behind⟩

/-- What is read off a specifier is the package that it names, and every other specifier leads to
no package.
-/
theorem packageOf?_eq_some_iff
    : packageOf? specifier = some package
      ↔ ¬ Unpackaged (Text.trim specifier) ∧ Names (Text.trim specifier) package := by
  refine ⟨fun found => ?_, fun ⟨packaged, names⟩ => packageOf?_of_names packaged names⟩
  have packaged : ¬ Unpackaged (Text.trim specifier) := by
    intro trimmed
    rw [packageOf?_eq_none trimmed] at found
    cases found
  obtain ⟨named, names⟩ := exists_names (Text.trim specifier)
  rw [packageOf?_of_names packaged names] at found
  obtain rfl := Option.some.inj found
  exact ⟨packaged, names⟩

-----------------------------------------------------------------------------------------
-- The parts of packages
-----------------------------------------------------------------------------------------

/-- (Fronts package specifier) says that a package is the front of a specifier, up to its end or a
slash. It has one part, or two when the first one is a scope.
-/
structure Fronts (package specifier : Text) : Prop where
  nonempty : package ≠ []
  path : ∃ path, specifier = package ++ path ∧ ∀ char ∈ path.head?, char = '/'
  parts : package.count '/' ≤ 1
  scope : '/' ∈ package → package.head? = some '@'

theorem Names.exists_path (names : Names specifier package)
    : ∃ path, specifier = package ++ path ∧ ∀ char ∈ path.head?, char = '/' := by
  cases names with
  | plain _ _ behind => exact ⟨_, rfl, behind⟩
  | scopeAlone => exact ⟨[], (List.append_nil _).symm, by simp⟩
  | inScope _ _ behind => exact ⟨_, by simp, behind⟩

theorem Names.count_slash_le (names : Names specifier package) : package.count '/' ≤ 1 := by
  cases names with
  | plain _ whole => simp [List.count_eq_zero.mpr whole]
  | scopeAlone whole => simp [List.count_eq_zero.mpr whole]
  | inScope scopeWhole whole =>
      simp [List.count_eq_zero.mpr scopeWhole, List.count_eq_zero.mpr whole]

theorem Names.head?_of_slash (names : Names specifier package) (parted : '/' ∈ package)
    : package.head? = some '@' := by
  cases names with
  | plain _ whole => exact absurd parted whole
  | scopeAlone => rfl
  | inScope => rfl

theorem Names.fronts (names : Names specifier package) (packaged : ¬ Unpackaged specifier)
    : Fronts package specifier where
  nonempty := by
    rintro rfl
    obtain ⟨path, rfl, behind⟩ := names.exists_path
    exact packaged (unpackaged_of_behind behind)
  path := names.exists_path
  parts := names.count_slash_le
  scope := names.head?_of_slash

-----------------------------------------------------------------------------------------
-- Paths within a package
-----------------------------------------------------------------------------------------

section

variable (solid : ∀ char ∈ specifier, Text.isBlank char = false)

include solid

theorem packageOf?_eq_some_iff_of_solid
    : packageOf? specifier = some package
      ↔ ¬ Unpackaged specifier ∧ Names specifier package := by
  rw [packageOf?_eq_some_iff, Text.trim_of_solid solid]

theorem packageOf?_eq_none_iff_of_solid : packageOf? specifier = none ↔ Unpackaged specifier := by
  constructor
  · intro none
    by_contra packaged
    obtain ⟨package, names⟩ := exists_names specifier
    rw [(packageOf?_eq_some_iff_of_solid solid).mpr ⟨packaged, names⟩] at none
    cases none
  · intro unpackaged
    rw [← Text.trim_of_solid solid] at unpackaged
    exact packageOf?_eq_none unpackaged

end

theorem Names.isPrefix (names : Names specifier package) : package <+: specifier := by
  obtain ⟨path, rfl, -⟩ := names.exists_path
  exact List.prefix_append package path

/-- A package is a specifier of itself. -/
theorem Names.self (names : Names specifier package) : Names package package := by
  have nothing : ∀ char ∈ ([] : Text).head?, char = '/' := by simp
  cases names with
  | plain unscoped whole _ =>
      have alone := Names.plain unscoped whole nothing
      rwa [List.append_nil] at alone
  | scopeAlone whole => exact .scopeAlone whole
  | inScope scopeWhole whole _ =>
      have alone := Names.inScope scopeWhole whole nothing
      rwa [List.append_nil] at alone

/-- A path within a package leads to that package, unless the package is a scope alone. -/
theorem Names.within (names : Names specifier package)
    (complete : specifier.head? ≠ some '@' ∨ '/' ∈ package) (path : Text)
    : Names (package ++ '/' :: path) package := by
  have slash : ∀ char ∈ ('/' :: path).head?, char = '/' := by simp
  cases names with
  | plain unscoped whole _ => exact .plain unscoped whole slash
  | scopeAlone whole =>
      rcases complete with unscoped | parted
      · exact absurd rfl unscoped
      · exact absurd parted (by simp [whole])
  | @inScope scope name _ scopeWhole whole _ =>
      have deeper := Names.inScope scopeWhole whole slash
      rwa [List.append_assoc, List.cons_append]

/-- A package behind a scope that has no slash is the scope alone, and a path behind it begins with
the name that it lacks.
-/
theorem Names.not_within_scope (names : Names specifier package)
    (atSign : specifier.head? = some '@') (undivided : '/' ∉ package)
    : ¬ Names (package ++ ['/']) package := by
  intro within
  have first : package.head? = some '@' := by
    obtain ⟨path, rfl, behind⟩ := names.exists_path
    cases package with
    | nil => exact absurd (behind '@' atSign) (by decide)
    | cons first rest => exact atSign
  obtain ⟨scope, rfl⟩ := List.head?_eq_some_iff.mp first
  generalize whole : '@' :: scope ++ ['/'] = text at within
  generalize same : '@' :: scope = front at within
  cases within with
  | plain unscoped _ _ => exact unscoped (same ▸ rfl)
  | scopeAlone _ => simp [← same] at whole
  | inScope _ _ _ => exact undivided (by simp [same])

/-- What a front of a specifier leads to, the specifier leads to as well. -/
theorem Unpackaged.of_isPrefix (unpackaged : Unpackaged package) (nonempty : package ≠ [])
    (front : package <+: specifier)
    : Unpackaged specifier := by
  have first : specifier.head? = package.head? := by
    obtain ⟨path, rfl⟩ := front
    exact List.head?_append_of_ne_nil package nonempty
  rcases unpackaged with rfl | relative | absolute | platform
  · exact absurd rfl nonempty
  · exact .inr (.inl (first.trans relative))
  · exact .inr (.inr (.inl (first.trans absolute)))
  · exact .inr (.inr (.inr (platform.trans front)))

/-- A path behind a package makes it neither a path of its own nor a module of the platform, since
no slash stands in the mark of the platform.
-/
theorem Unpackaged.of_append {path : Text} (unpackaged : Unpackaged (package ++ '/' :: path))
    (nonempty : package ≠ [])
    : Unpackaged package := by
  have first : (package ++ '/' :: path).head? = package.head? :=
    List.head?_append_of_ne_nil package nonempty
  rcases unpackaged with none | relative | absolute | platform
  · exact absurd (List.append_eq_nil_iff.mp none).1 nonempty
  · exact .inr (.inl (first.symm.trans relative))
  · exact .inr (.inr (.inl (first.symm.trans absolute)))
  · refine .inr (.inr (.inr ?_))
    obtain ⟨behind, split⟩ := platform
    rcases List.append_eq_append_iff.mp split with ⟨more, whole, -⟩ | ⟨more, mark, slash⟩
    · exact ⟨more, whole.symm⟩
    · cases more with
      | nil => exact ⟨[], by rw [mark, List.append_nil, List.append_nil]⟩
      | cons char more =>
          obtain rfl : '/' = char := (List.cons.inj slash).1
          have within : '/' ∈ "node:".toList := by simp [mark]
          exact absurd within (by decide)

/-- A specifier without blanks names no package exactly when it is empty, a path or a module of the
platform. Otherwise its package is the front of it and names itself, and all paths within the
package name the same one. Only behind a scope alone a path names another package.
-/
theorem packageOf?_paths (solid : ∀ char ∈ specifier, Text.isBlank char = false)
    : (packageOf? specifier = none ↔ Unpackaged specifier)
      ∧ ∀ package,
          packageOf? specifier = some package
          → package <+: specifier
            ∧ packageOf? package = some package
            ∧ (specifier.head? ≠ some '@' ∨ '/' ∈ package
              ↔ ∀ path,
                  (∀ char ∈ path, Text.isBlank char = false)
                  → packageOf? (package ++ '/' :: path) = some package) := by
  refine ⟨packageOf?_eq_none_iff_of_solid solid, fun package found => ?_⟩
  obtain ⟨packaged, names⟩ := (packageOf?_eq_some_iff_of_solid solid).mp found
  have front := names.isPrefix
  have nonempty := (names.fronts packaged).nonempty
  have solidPackage : ∀ char ∈ package, Text.isBlank char = false :=
    fun char member => solid char (front.subset member)
  have packagedItself : ¬ Unpackaged package :=
    fun unpackaged => packaged (unpackaged.of_isPrefix nonempty front)
  -- a path without blanks behind the package is a specifier without blanks
  have deeper {path : Text} (solidPath : ∀ char ∈ path, Text.isBlank char = false)
      : packageOf? (package ++ '/' :: path) = some package
        ↔ Names (package ++ '/' :: path) package := by
    have slash : Text.isBlank '/' = false := by decide
    have solidWhole : ∀ char ∈ package ++ '/' :: path, Text.isBlank char = false :=
      List.forall_mem_append.mpr ⟨solidPackage, List.forall_mem_cons.mpr ⟨slash, solidPath⟩⟩
    rw [packageOf?_eq_some_iff_of_solid solidWhole]
    exact and_iff_right fun unpackaged => packagedItself (unpackaged.of_append nonempty)
  refine ⟨front, (packageOf?_eq_some_iff_of_solid solidPackage).mpr ⟨packagedItself, names.self⟩,
    ?_, ?_⟩
  · intro complete path solidPath
    exact (deeper solidPath).mpr (names.within complete path)
  · intro same
    by_contra incomplete
    obtain ⟨atSign, undivided⟩ := not_or.mp incomplete
    have within := (deeper (by simp)).mp (same [] (by simp))
    exact names.not_within_scope (not_not.mp atSign) undivided within

/-- A path with an empty part, and one that ends with a slash, lead to the package in a scope. -/
theorem packageOf?_paths_scoped
    : let specifier : Text := "@b/c/d"
      let package : Text := "@b/c"
      (∀ char ∈ specifier, Text.isBlank char = false)
      ∧ packageOf? specifier = some package
      ∧ '/' ∈ package
      ∧ package <+: specifier
      ∧ packageOf? package = some package
      ∧ packageOf? "@b/c//e/" = some package := by
  intro specifier package
  have solidOf {text : Text} (visible : text.all (!Text.isBlank ·))
      : ∀ char ∈ text, Text.isBlank char = false := by
    simpa using visible
  have solid := solidOf (by decide : specifier.all (!Text.isBlank ·))
  have solidPath := solidOf (by decide : "/e/".toList.all (!Text.isBlank ·))
  have found : packageOf? specifier = some package := by decide
  have parted : '/' ∈ package := by decide
  obtain ⟨front, itself, paths⟩ := (packageOf?_paths solid).2 package found
  exact ⟨solid, found, parted, front, itself, paths.mp (.inr parted) "/e/" solidPath⟩

end PageAudit.Import
