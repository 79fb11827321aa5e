import PageAudit.Proofs.Bundle.Import
import PageAudit.Proofs.Decimal.Binary64
import PageAudit.Proofs.Rule.Connection
import PageAudit.Proofs.Text.Line
import PageAudit.Proofs.Web.Origin
import PageAudit.Rule.Registry

/-! What documents can bring into messages. The messages of most rules stand on one line whatever
the document holds: they show numbers, known names, origins, and packages. A message may have a
line break only where it shows the reference of a script, or the alternative that a table has for
a package.
-/

namespace PageAudit

open Text (OneLine oneLine_append oneLine_ofNat oneLine_literal)

namespace Finding

/-- The messages of findings stand on one line each. -/
def Unbroken (findings : List Finding) : Prop :=
  ∀ finding ∈ findings, OneLine finding.message

@[simp] theorem unbroken_nil : Unbroken [] := by
  simp [Unbroken]

@[simp] theorem unbroken_singleton {finding : Finding}
    : Unbroken [finding] ↔ OneLine finding.message := by
  simp [Unbroken]

@[simp] theorem unbroken_append {first second : List Finding}
    : Unbroken (first ++ second) ↔ Unbroken first ∧ Unbroken second := by
  simp [Unbroken, or_imp, forall_and]

theorem unbroken_ite {condition : Prop} [Decidable condition] {first second : List Finding}
    (whenTrue : Unbroken first) (otherwise : Unbroken second)
    : Unbroken (if condition then first else second) := by
  split
  · exact whenTrue
  · exact otherwise

theorem unbroken_flatMap {α : Type} {items : List α} {about : α → List Finding}
    : Unbroken (items.flatMap about) ↔ ∀ item ∈ items, Unbroken (about item) :=
  List.forall_mem_flatMap

theorem unbroken_map {α : Type} {items : List α} {about : α → Finding}
    : Unbroken (items.map about) ↔ ∀ item ∈ items, OneLine (about item).message := by
  simp [Unbroken]

end Finding

namespace Rule

open Finding

/-- The messages of a rule stand on one line about every page. -/
def Unbroken (rule : Rule) : Prop :=
  ∀ page : Page, Finding.Unbroken (rule.evaluate page)

-----------------------------------------------------------------------------------------
-- Metadata
-----------------------------------------------------------------------------------------

theorem titleLength_unbroken (policy : Policy) (title : TitleElement)
    : Finding.Unbroken (titleLength policy title) := by
  refine unbroken_ite unbroken_nil (unbroken_ite (unbroken_singleton.mpr ?_) unbroken_nil)
  simp only [oneLine_append, oneLine_ofNat, and_true]
  and_intros <;> exact oneLine_literal (by decide)

theorem title_unbroken : title.Unbroken := by
  intro page
  unfold title
  dsimp only
  split
  · exact titleLength_unbroken _ _
  · exact unbroken_ite (unbroken_singleton.mpr (oneLine_literal (by decide))) unbroken_nil

theorem descriptionLength_unbroken (policy : Policy) (tag : Tag)
    : Finding.Unbroken (descriptionLength policy tag) := by
  refine unbroken_ite unbroken_nil (unbroken_ite (unbroken_singleton.mpr ?_) unbroken_nil)
  simp only [oneLine_append, oneLine_ofNat, and_true]
  and_intros <;> exact oneLine_literal (by decide)

theorem metaDescription_unbroken : metaDescription.Unbroken := by
  intro page
  unfold metaDescription
  dsimp only
  split
  · exact descriptionLength_unbroken _ _
  · exact unbroken_ite (unbroken_singleton.mpr (oneLine_literal (by decide))) unbroken_nil

theorem canonical_unbroken : canonical.Unbroken :=
  fun _ => unbroken_ite (unbroken_singleton.mpr (oneLine_literal (by decide))) unbroken_nil

theorem structuredDataMissing_unbroken {page : Page} {pageType : Text}
    (line : OneLine (Text.lower pageType)) (code : Text) (words : List Text)
    : Finding.Unbroken (structuredDataMissing page pageType code words).toList := by
  intro finding reported
  have found := Option.mem_toList.mp reported
  unfold structuredDataMissing at found
  split at found
  · obtain ⟨span, -, rfl⟩ := Option.map_eq_some_iff.mp found
    simp only [oneLine_append, line, and_true]
    and_intros <;> exact oneLine_literal (by decide)
  · cases found

theorem structuredData_unbroken : structuredData.Unbroken := by
  intro page
  refine unbroken_ite unbroken_nil (unbroken_append.mpr ⟨?_, ?_⟩)
  · exact structuredDataMissing_unbroken (by decide) _ _
  · exact structuredDataMissing_unbroken (by decide) _ _

theorem openGraph_unbroken : openGraph.Unbroken := by
  intro page
  refine unbroken_ite (unbroken_singleton.mpr ?_) unbroken_nil
  have each : ∀ property ∈ previewProperties, OneLine property := by decide
  refine oneLine_append.mpr
    ⟨oneLine_literal (by decide), Text.oneLine_join (by decide) fun property member => ?_⟩
  exact each property (List.mem_filter.mp member).1

theorem charsetOrder_unbroken (page : Page) (head : Head)
    : Finding.Unbroken (charsetOrder page head) := by
  unfold charsetOrder
  split
  · refine unbroken_ite (unbroken_singleton.mpr ?_) unbroken_nil
    simp only [oneLine_append, oneLine_ofNat, and_true]
    and_intros <;> exact oneLine_literal (by decide)
  · exact unbroken_nil

theorem titleAfter_unbroken {page : Page} {head : Head} {other : Option Nat} {code message : Text}
    (line : OneLine message)
    : Finding.Unbroken (titleAfter page head other code message) := by
  unfold titleAfter
  split
  · exact unbroken_ite (unbroken_singleton.mpr line) unbroken_nil
  · exact unbroken_nil

theorem headOrder_unbroken : headOrder.Unbroken := by
  intro page
  unfold headOrder
  dsimp only
  split
  · refine unbroken_append.mpr ⟨unbroken_append.mpr ⟨charsetOrder_unbroken _ _, ?_⟩, ?_⟩
    · exact titleAfter_unbroken (oneLine_literal (by decide))
    · exact titleAfter_unbroken (oneLine_literal (by decide))
  · exact unbroken_nil

-----------------------------------------------------------------------------------------
-- Loading
-----------------------------------------------------------------------------------------

/-- The message about a script shows its reference as it is written. -/
theorem unbroken_blockingScripts_iff {page : Page}
    : Finding.Unbroken (blockingScripts.evaluate page)
      ↔ ∀ tag ∈ page.tags, blocksRendering tag → OneLine ((tag.attribute? "src").getD []) := by
  have message (source : Text)
      : OneLine ("Script '".toList ++ source ++ "' blocks rendering".toList) ↔ OneLine source := by
    have before : OneLine "Script '".toList := oneLine_literal (by decide)
    have behind : OneLine "' blocks rendering".toList := oneLine_literal (by decide)
    simp only [oneLine_append, before, behind, true_and, and_true]
  refine unbroken_map.trans ?_
  simp only [message, List.mem_filter, and_imp]

theorem externalScripts_unbroken : externalScripts.Unbroken := by
  intro page
  unfold externalScripts
  dsimp only
  split
  · simp only [unbroken_singleton, oneLine_append, oneLine_ofNat, and_true]
    and_intros <;> exact oneLine_literal (by decide)
  · exact unbroken_nil

theorem imageAttributes_unbroken : imageAttributes.Unbroken := by
  intro page
  refine unbroken_flatMap.mpr fun tag _ => ?_
  refine unbroken_append.mpr ⟨unbroken_append.mpr ⟨?_, ?_⟩, ?_⟩
  all_goals
    exact unbroken_ite unbroken_nil (unbroken_singleton.mpr (oneLine_literal (by decide)))

/-- The components that show images have known names. -/
theorem imageComponent_unbroken : imageComponent.Unbroken := by
  intro page
  refine unbroken_flatMap.mpr fun tag listed => ?_
  have known : OneLine ('<' :: tag.name) := by
    have named := (List.mem_filter.mp listed).2
    simp only [isImageComponent, Bool.and_eq_true] at named
    have each : ∀ name ∈ imageComponents, OneLine ('<' :: name) := by decide
    exact each _ (List.contains_iff_mem.mp named.2)
  have line {rest : List Char} (none : '\n' ∉ rest)
      : OneLine ('<' :: tag.name ++ (String.ofList rest).toList) :=
    oneLine_append.mpr ⟨known, oneLine_literal none⟩
  refine unbroken_append.mpr ⟨unbroken_ite unbroken_nil ?_, unbroken_ite ?_ unbroken_nil⟩
  all_goals exact unbroken_singleton.mpr (line (by decide))

theorem inlineImageSize_unbroken : inlineImageSize.Unbroken := by
  intro page finding reported
  obtain ⟨tag, -, reported⟩ := List.mem_filterMap.mp reported
  obtain ⟨source, -, reported⟩ := Option.bind_eq_some_iff.mp reported
  obtain ⟨size, -, reported⟩ := Option.bind_eq_some_iff.mp reported
  dsimp only at reported
  split at reported
  · obtain rfl := Option.some.inj reported
    simp only [oneLine_append, oneLine_ofNat, and_true]
    and_intros <;> exact oneLine_literal (by decide)
  · cases reported

theorem fontLoading_unbroken : fontLoading.Unbroken := by
  intro page
  refine unbroken_append.mpr ⟨unbroken_ite ?_ unbroken_nil, ?_⟩
  · exact unbroken_map.mpr fun _ _ => oneLine_literal (by decide)
  · unfold excessPreloads
    dsimp only
    split
    · simp only [unbroken_singleton, oneLine_append, oneLine_ofNat, true_and, and_true]
      and_intros <;> exact oneLine_literal (by decide)
    · exact unbroken_nil

/-- The message about connections shows origins, and no origin has a line break. -/
theorem resourceHints_unbroken : resourceHints.Unbroken := by
  intro page
  refine unbroken_ite unbroken_nil ?_
  split
  · exact unbroken_nil
  · next anchor origin others collected =>
      have appear := appear_distinct Web.externalOrigin? page.tags
      rw [collected] at appear
      refine unbroken_singleton.mpr (oneLine_append.mpr
        ⟨oneLine_literal (by decide), Text.oneLine_join (by decide) fun listed member => ?_⟩)
      obtain ⟨tag, -, loads⟩ := (appear.mem_iff listed).mp (List.mem_of_mem_take member)
      cases loads with
      | script _ _ _ found => exact Web.oneLine_externalOrigin? found
      | stylesheet _ _ _ found => exact Web.oneLine_externalOrigin? found

-----------------------------------------------------------------------------------------
-- Budgets
-----------------------------------------------------------------------------------------

/-- Megabytes are shown in digits around a point. -/
theorem oneLine_fixed (places : Nat) (number : Binary64) : OneLine (number.fixed places) :=
  fun member => absurd (Binary64.of_mem_fixed member) (by decide)

theorem oneLine_sizeText (bytes : Nat) : OneLine (sizeText bytes) := by
  unfold sizeText
  split
  · exact oneLine_append.mpr ⟨oneLine_fixed _ _, oneLine_literal (by decide)⟩
  · exact oneLine_append.mpr ⟨Text.oneLine_ofNat _, oneLine_literal (by decide)⟩

theorem htmlSize_unbroken : htmlSize.Unbroken := by
  intro page
  have ceiling : OneLine renderCeiling := by decide
  refine unbroken_append.mpr ⟨unbroken_ite ?_ (unbroken_ite ?_ (unbroken_ite ?_ unbroken_nil)),
    unbroken_ite ?_ unbroken_nil⟩
  all_goals
    simp only [unbroken_singleton, oneLine_append, oneLine_sizeText, ceiling, and_true]
    and_intros <;> exact oneLine_literal (by decide)

theorem elementsOver_unbroken (page : Page) (limit : Nat) (code : Text) (severity : Severity)
    (help : Option Text)
    : Finding.Unbroken (elementsOver page limit code severity help) := by
  refine unbroken_ite (unbroken_singleton.mpr ?_) unbroken_nil
  simp only [oneLine_append, oneLine_ofNat, true_and, and_true]
  and_intros <;> exact oneLine_literal (by decide)

theorem levelsOver_unbroken (page : Page) (limit : Nat) (code : Text) (severity : Severity)
    (help : Option Text)
    : Finding.Unbroken (levelsOver page limit code severity help) := by
  refine unbroken_ite (unbroken_singleton.mpr ?_) unbroken_nil
  simp only [oneLine_append, oneLine_ofNat, and_true]
  and_intros <;> exact oneLine_literal (by decide)

theorem domSize_unbroken : domSize.Unbroken :=
  fun _ => unbroken_append.mpr
    ⟨elementsOver_unbroken _ _ _ _ _, elementsOver_unbroken _ _ _ _ _⟩

theorem domDepth_unbroken : domDepth.Unbroken :=
  fun _ => unbroken_append.mpr ⟨levelsOver_unbroken _ _ _ _ _, levelsOver_unbroken _ _ _ _ _⟩

-----------------------------------------------------------------------------------------
-- Bundles
-----------------------------------------------------------------------------------------

/-- The table is asked for the package of an import, and no package has blanks. -/
theorem oneLine_package {page : Page} {heavy : Import × Dependency}
    (listed : heavy ∈ heavyOnes page)
    : OneLine heavy.2.package := by
  obtain ⟨found, read, known⟩ := List.mem_filterMap.mp listed
  obtain ⟨entry, same, rfl⟩ := Option.map_eq_some_iff.mp known
  have package : entry.package = found.package := by simpa using List.find?_some same
  intro member
  rw [package] at member
  exact absurd (Import.solid_of_mem_readAll read _ member) (by decide)

/-- The message about a heavy import shows its package, and the alternative as the table has it. -/
theorem oneLine_heavyFinding_iff {found : Import} {entry : Dependency}
    (package : OneLine entry.package)
    : OneLine (heavyFinding found entry).message
      ↔ ∀ alternative ∈ entry.alternative, OneLine alternative := by
  have front : OneLine ('\'' :: entry.package ++ "' adds about ".toList
      ++ Text.ofNat entry.kilobytes ++ "KB".toList) := by
    simp only [oneLine_append, Text.oneLine_cons, package, oneLine_ofNat, and_true]
    exact ⟨⟨by decide, oneLine_literal (by decide)⟩, oneLine_literal (by decide)⟩
  refine oneLine_append.trans ((and_iff_right front).trans ?_)
  cases entry.alternative with
  | none => simp
  | some alternative =>
      have consider : OneLine "; consider ".toList := oneLine_literal (by decide)
      simp only [oneLine_append, consider, true_and, Option.mem_some_iff, forall_eq']

theorem weightOver_unbroken (total limit : Nat) (code : Text) (severity : Severity)
    (help : Option Text)
    : Finding.Unbroken (weightOver total limit code severity help) := by
  refine unbroken_ite (unbroken_singleton.mpr ?_) unbroken_nil
  simp only [oneLine_append, oneLine_ofNat, and_true]
  and_intros <;> exact oneLine_literal (by decide)

theorem unbroken_heavyImports_iff {page : Page}
    : Finding.Unbroken (heavyImports.evaluate page)
      ↔ ∀ heavy ∈ heavyOnes page, ∀ alternative ∈ heavy.2.alternative, OneLine alternative := by
  have weights := fun total limit code severity help =>
    weightOver_unbroken total limit code severity help
  have split : heavyImports.evaluate page
      = (heavyOnes page).map (fun heavy => heavyFinding heavy.1 heavy.2)
        ++ weightOver (totalWeight (heavyOnes page)) 500 "BUNDLE_SIZE_LARGE" .warning
          (some "Code-split heavy packages or replace them with lighter ones".toList)
        ++ weightOver (totalWeight (heavyOnes page)) 1000 "BUNDLE_SIZE_EXCESSIVE" .error none :=
    rfl
  rw [split, unbroken_append, unbroken_append, unbroken_map]
  constructor
  · intro each heavy listed
    exact (oneLine_heavyFinding_iff (oneLine_package listed)).mp (each.1.1 heavy listed)
  · intro each
    refine ⟨⟨fun heavy listed => ?_, weights _ _ _ _ _⟩, weights _ _ _ _ _⟩
    exact (oneLine_heavyFinding_iff (oneLine_package listed)).mpr (each heavy listed)

-----------------------------------------------------------------------------------------
-- The registry
-----------------------------------------------------------------------------------------

/-- All messages about a page stand on one line exactly when those do that show references of
scripts and alternatives of packages.
-/
theorem unbroken_evaluate_all_iff {page : Page}
    : (∀ rule ∈ all, Finding.Unbroken (rule.evaluate page))
      ↔ (∀ tag ∈ page.tags, blocksRendering tag → OneLine ((tag.attribute? "src").getD []))
        ∧ ∀ heavy ∈ heavyOnes page, ∀ alternative ∈ heavy.2.alternative, OneLine alternative := by
  rw [← unbroken_blockingScripts_iff, ← unbroken_heavyImports_iff]
  simp only [all, List.forall_mem_cons, title_unbroken page, metaDescription_unbroken page,
    canonical_unbroken page, structuredData_unbroken page, openGraph_unbroken page,
    headOrder_unbroken page, externalScripts_unbroken page, imageAttributes_unbroken page,
    imageComponent_unbroken page, inlineImageSize_unbroken page, fontLoading_unbroken page,
    resourceHints_unbroken page, htmlSize_unbroken page, domSize_unbroken page,
    domDepth_unbroken page, List.not_mem_nil, false_implies, implies_true, true_and, and_true]

end Rule

end PageAudit
