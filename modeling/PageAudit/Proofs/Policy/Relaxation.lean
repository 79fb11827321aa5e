import Mathlib.Data.List.Flatten
import PageAudit.Proofs.Audit.Codes
import PageAudit.Proofs.Policy.Reading

/-! A relaxed policy takes findings away. It adds none, and the rest keep their order. -/

namespace PageAudit

/-- A policy relaxes another one when its limits allow at least as much and each of its demands is a
demand of the other one. The smaller limits need not lie below the greater ones.
-/
structure Policy.Relaxes (relaxed strict : Policy) : Prop where
  titleMin : relaxed.titleMin ≤ strict.titleMin
  titleMax : strict.titleMax ≤ relaxed.titleMax
  descriptionMin : relaxed.descriptionMin ≤ strict.descriptionMin
  descriptionMax : strict.descriptionMax ≤ relaxed.descriptionMax
  requireCanonical : relaxed.requireCanonical → strict.requireCanonical
  structuredTypes : relaxed.structuredTypes.items ⊆ strict.structuredTypes.items
  maxExternalScripts : strict.maxExternalScripts ≤ relaxed.maxExternalScripts
  imageBudgetKb : strict.imageBudgetKb ≤ relaxed.imageBudgetKb
  requireFontSwap : relaxed.requireFontSwap → strict.requireFontSwap
  headMarkers : strict.headMarkers ⊆ relaxed.headMarkers

-----------------------------------------------------------------------------------------
-- Findings whose codes are among those of other findings
-----------------------------------------------------------------------------------------

namespace Finding

/-- The codes of some findings are among the codes of others, in the same order. -/
def CodesWithin (fewer more : List Finding) : Prop :=
  (fewer.map (·.code)).Sublist (more.map (·.code))

theorem CodesWithin.refl (findings : List Finding) : CodesWithin findings findings :=
  List.Sublist.refl _

theorem CodesWithin.nil (findings : List Finding) : CodesWithin [] findings :=
  List.nil_sublist _

theorem CodesWithin.singleton {kept made : Finding} (same : kept.code = made.code)
    : CodesWithin [kept] [made] := by
  rw [CodesWithin, List.map_singleton, List.map_singleton, same]

theorem CodesWithin.append {fewer more fewerBehind moreBehind : List Finding}
    (front : CodesWithin fewer more) (behind : CodesWithin fewerBehind moreBehind)
    : CodesWithin (fewer ++ fewerBehind) (more ++ moreBehind) := by
  rw [CodesWithin, List.map_append, List.map_append]
  exact List.Sublist.append front behind

theorem CodesWithin.flatMap {α : Type} {items : List α} {fewer more : α → List Finding}
    (each : ∀ item ∈ items, CodesWithin (fewer item) (more item))
    : CodesWithin (items.flatMap fewer) (items.flatMap more) := by
  rw [CodesWithin, List.map_flatMap, List.map_flatMap]
  exact List.Sublist.flatMap_right items each

/-- What is reported on some condition may be reported on a weaker one. -/
theorem CodesWithin.ite {condition weaker : Prop} [Decidable condition] [Decidable weaker]
    {fewer more : List Finding} (weaken : condition → weaker) (within : CodesWithin fewer more)
    : CodesWithin (if condition then fewer else []) (if weaker then more else []) := by
  split
  · next holds =>
      rw [if_pos (weaken holds)]
      exact within
  · exact .nil _

theorem CodesWithin.settleAll {fewer more : List Finding} (within : CodesWithin fewer more)
    (text : Text)
    : CodesWithin (settleAll text fewer) (settleAll text more) := by
  rw [CodesWithin, settleAll_eq, settleAll_eq, List.map_map, List.map_map]
  exact within

end Finding

-----------------------------------------------------------------------------------------
-- What the rules report under a relaxed policy
-----------------------------------------------------------------------------------------

open Finding (CodesWithin)

namespace Rule

/-- A rule follows relaxation when a page under a relaxed policy makes it report no other codes. -/
def FollowsRelaxation (rule : Rule) : Prop :=
  ∀ (page : Page) {relaxed strict : Policy},
    relaxed.Relaxes strict
    → CodesWithin (rule.evaluate (page.under relaxed)) (rule.evaluate (page.under strict))

theorem IgnoresPolicy.followsRelaxation {rule : Rule} (ignores : rule.IgnoresPolicy)
    : rule.FollowsRelaxation := by
  intro page relaxed strict _
  rw [ignores page relaxed strict]
  exact .refl _

variable {relaxed strict : Policy} (page : Page)

theorem titleLength_codesWithin (relaxes : relaxed.Relaxes strict) (title : TitleElement)
    : CodesWithin (titleLength relaxed title) (titleLength strict title) := by
  unfold titleLength
  dsimp only
  split
  · exact .refl _
  · refine .ite ?_ (.singleton rfl)
    rintro (short | long)
    · exact .inl (Nat.lt_of_lt_of_le short relaxes.titleMin)
    · exact .inr (Nat.lt_of_le_of_lt relaxes.titleMax long)

theorem holdsMarker_of_subset {few many : List Text} {text : Text} (subset : few ⊆ many)
    (holds : holdsMarker few text)
    : holdsMarker many text := by
  obtain ⟨marker, member, found⟩ := List.any_eq_true.mp holds
  exact List.any_eq_true.mpr ⟨marker, subset member, found⟩

theorem titleMissing_codesWithin (relaxes : relaxed.Relaxes strict)
    : CodesWithin (titleMissing (page.under relaxed)) (titleMissing (page.under strict)) := by
  refine .ite ?_ (.refl _)
  intro missing
  simp only [Bool.and_eq_true, Bool.not_eq_true'] at missing ⊢
  obtain ⟨⟨head, unmanaged⟩, page⟩ := missing
  refine ⟨⟨head, Bool.eq_false_iff.mpr fun managed => ?_⟩, page⟩
  exact Bool.eq_false_iff.mp unmanaged (holdsMarker_of_subset relaxes.headMarkers managed)

theorem title_followsRelaxation : title.FollowsRelaxation := by
  intro page relaxed strict relaxes
  unfold title
  dsimp only
  rw [titleElement?_under, titleElement?_under]
  cases titleElement? page with
  | some title => exact titleLength_codesWithin relaxes title
  | none => exact titleMissing_codesWithin page relaxes

theorem descriptionLength_codesWithin (relaxes : relaxed.Relaxes strict) (tag : Tag)
    : CodesWithin (descriptionLength relaxed tag) (descriptionLength strict tag) := by
  unfold descriptionLength
  dsimp only
  split
  · exact .refl _
  · refine .ite ?_ (.singleton rfl)
    rintro (short | long)
    · exact .inl (Nat.lt_of_lt_of_le short relaxes.descriptionMin)
    · exact .inr (Nat.lt_of_le_of_lt relaxes.descriptionMax long)

theorem metaDescription_followsRelaxation : metaDescription.FollowsRelaxation := by
  intro page relaxed strict relaxes
  unfold metaDescription
  dsimp only
  rw [descriptionTag?_under, descriptionTag?_under]
  cases descriptionTag? page with
  | some tag => exact descriptionLength_codesWithin relaxes tag
  | none => exact .refl _

theorem canonical_followsRelaxation : canonical.FollowsRelaxation := by
  intro page relaxed strict relaxes
  refine .ite ?_ (.refl _)
  intro missing
  rw [Bool.and_eq_true] at missing ⊢
  exact ⟨relaxes.requireCanonical missing.1, missing.2⟩

theorem requiresStructuredData_of_relaxes (relaxes : relaxed.Relaxes strict) {pageType : Text}
    (required : relaxed.requiresStructuredData pageType)
    : strict.requiresStructuredData pageType :=
  List.contains_iff_mem.mpr (relaxes.structuredTypes (List.contains_iff_mem.mp required))

theorem structuredDataMissing_codesWithin (relaxes : relaxed.Relaxes strict)
    (pageType code : Text) (words : List Text)
    : CodesWithin (structuredDataMissing (page.under relaxed) pageType code words).toList
        (structuredDataMissing (page.under strict) pageType code words).toList := by
  unfold structuredDataMissing
  rw [apply_ite Option.toList, apply_ite Option.toList]
  exact .ite (requiresStructuredData_of_relaxes relaxes) (.refl _)

theorem structuredData_followsRelaxation : structuredData.FollowsRelaxation := by
  intro page relaxed strict relaxes
  unfold structuredData
  dsimp only
  rw [Page.opening_under, Page.opening_under]
  split
  · exact .nil _
  · exact .append (structuredDataMissing_codesWithin page relaxes ..)
      (structuredDataMissing_codesWithin page relaxes ..)

theorem externalScripts_followsRelaxation : externalScripts.FollowsRelaxation := by
  intro page relaxed strict relaxes
  unfold externalScripts
  dsimp only
  rw [Page.tags_under, Page.tags_under, Page.policy_under, Page.policy_under]
  split
  · next script beyond =>
      obtain ⟨many, -⟩ := List.getElem?_eq_some_iff.mp beyond
      rw [List.getElem?_eq_getElem (Nat.lt_of_le_of_lt relaxes.maxExternalScripts many)]
      exact .singleton rfl
  · exact .nil _

theorem inlineImageFinding?_codesWithin (relaxes : relaxed.Relaxes strict) (tag : Tag)
    : CodesWithin (inlineImageFinding? relaxed.imageBudgetKb tag).toList
        (inlineImageFinding? strict.imageBudgetKb tag).toList := by
  unfold inlineImageFinding?
  cases tag.attribute? "src" with
  | none => exact .refl _
  | some source =>
      rw [Option.bind_some, Option.bind_some]
      cases dataSize? source with
      | none => exact .refl _
      | some bytes =>
          rw [Option.bind_some, Option.bind_some, apply_ite Option.toList, apply_ite Option.toList]
          exact .ite (Nat.lt_of_le_of_lt relaxes.imageBudgetKb) (.singleton rfl)

theorem inlineImageSize_followsRelaxation : inlineImageSize.FollowsRelaxation := by
  intro page relaxed strict relaxes
  unfold inlineImageSize
  dsimp only
  rw [List.filterMap_eq_flatMap_toList, List.filterMap_eq_flatMap_toList]
  exact .flatMap fun tag _ => inlineImageFinding?_codesWithin relaxes tag

theorem fontLoading_followsRelaxation : fontLoading.FollowsRelaxation := by
  intro page relaxed strict relaxes
  exact .append (.ite relaxes.requireFontSwap (.refl _)) (.refl _)

/-- Every rule follows relaxation. -/
theorem followsRelaxation_of_mem_all : ∀ rule ∈ all, rule.FollowsRelaxation :=
  forall_mem_all_of_readers (fun _ => IgnoresPolicy.followsRelaxation)
    ⟨title_followsRelaxation, metaDescription_followsRelaxation, canonical_followsRelaxation,
      structuredData_followsRelaxation, externalScripts_followsRelaxation,
      inlineImageSize_followsRelaxation, fontLoading_followsRelaxation⟩

end Rule

namespace Auditor

/-- The codes that an audit reports under a relaxed policy are a subsequence of those that it
reports under the strict one.
-/
theorem audit_full_sublist_of_relaxes {relaxed strict : Policy} (relaxes : relaxed.Relaxes strict)
    (tables : Tables) (fileName text : Text)
    : (((full relaxed tables).audit fileName text).map (·.code)).Sublist
        (((full strict tables).audit fileName text).map (·.code)) := by
  rw [audit_eq_flatMap, audit_eq_flatMap]
  refine CodesWithin.flatMap fun rule member => CodesWithin.settleAll ?_ text
  exact Rule.followsRelaxation_of_mem_all rule member (Page.ofText strict tables fileName text)
    relaxes

/-- A policy that demands no canonical link and allows for greater images relaxes the standard one.
An empty document then has no finding left.
-/
theorem audit_full_sublist_of_relaxes_lenient
    : let lenient := { Policy.standard with requireCanonical := false, imageBudgetKb := 500 }
      lenient.Relaxes .standard
      ∧ (((full lenient .standard).audit "page.html" []).map (·.code)).Sublist
          (((full .standard .standard).audit "page.html" []).map (·.code))
      ∧ (full lenient .standard).audit "page.html" [] = []
      ∧ (full .standard .standard).audit "page.html" [] ≠ [] := by
  intro lenient
  have relaxes : lenient.Relaxes .standard :=
    { titleMin := le_rfl
      titleMax := le_rfl
      descriptionMin := le_rfl
      descriptionMax := le_rfl
      requireCanonical := nofun
      structuredTypes := List.Subset.refl _
      maxExternalScripts := le_rfl
      imageBudgetKb := by decide
      requireFontSwap := id
      headMarkers := List.Subset.refl _ }
  refine ⟨relaxes, audit_full_sublist_of_relaxes relaxes .standard "page.html" [], ?_, ?_⟩
  · decide +kernel
  · decide +kernel

end Auditor

end PageAudit
