import Mathlib.Data.List.Nodup
import PageAudit.Rule.Registry

/-! The catalogue of codes. A code stands for one severity and one category wherever it is reported,
and it belongs to the one rule that declares it.
-/

namespace PageAudit

/-- The stable codes of a category, each with the severity of its findings. -/
def catalogue : Category → List (Text × Severity)
  | .seo =>
      [("SEO_TITLE_LENGTH", .warning), ("SEO_TITLE_MISSING", .warning),
        ("SEO_META_DESCRIPTION_LENGTH", .warning), ("SEO_META_DESCRIPTION_MISSING", .warning),
        ("SEO_CANONICAL_MISSING", .warning), ("SEO_JSONLD_PRODUCT_MISSING", .info),
        ("SEO_JSONLD_ARTICLE_MISSING", .info), ("SEO_OPEN_GRAPH_MISSING", .info),
        ("SEO_HEAD_CHARSET_ORDER", .warning), ("SEO_HEAD_TITLE_AFTER_STYLESHEET", .info),
        ("SEO_HEAD_TITLE_AFTER_SCRIPT", .info)]
  | .performance =>
      [("PERF_BLOCKING_SCRIPT", .warning), ("PERF_THIRD_PARTY_SCRIPTS", .warning),
        ("PERF_IMG_MISSING_ALT", .warning), ("PERF_IMG_MISSING_DIMENSIONS", .warning),
        ("PERF_IMG_MISSING_LOADING", .info), ("PERF_IMAGE_COMPONENT_SIZES", .warning),
        ("PERF_IMAGE_COMPONENT_PRIORITY", .info), ("PERF_INLINE_IMAGE_SIZE", .warning),
        ("PERF_FONT_DISPLAY_SWAP", .warning), ("PERF_FONT_PRELOAD_EXCESS", .info),
        ("PERF_PRECONNECT_MISSING", .info)]
  | .renderBudget =>
      [("RENDER_HTML_SIZE_LARGE", .warning), ("RENDER_HTML_SIZE_EXCESSIVE", .error),
        ("RENDER_HTML_SIZE_LIMIT", .warning), ("RENDER_HTML_SIZE_CRITICAL", .error),
        ("RENDER_DOM_SIZE_LARGE", .info), ("RENDER_DOM_SIZE_EXCESSIVE", .error),
        ("RENDER_DOM_DEPTH_DEEP", .info), ("RENDER_DOM_DEPTH_EXCESSIVE", .error)]
  | .bundle =>
      [("BUNDLE_HEAVY_DEPENDENCY", .info), ("BUNDLE_SIZE_LARGE", .warning),
        ("BUNDLE_SIZE_EXCESSIVE", .error)]

/-- A code with the severity and the category of the findings that carry it. -/
structure Kind where
  code : Text
  severity : Severity
  category : Category

namespace Kind

/-- All kinds of the catalogue. -/
def all : List Kind :=
  [Category.seo, .performance, .renderBudget, .bundle].flatMap fun category =>
    (catalogue category).map fun (code, severity) => { code, severity, category }

theorem mem_all {kind : Kind}
    : kind ∈ all ↔ (kind.code, kind.severity) ∈ catalogue kind.category := by
  constructor
  · intro member
    obtain ⟨category, -, member⟩ := List.mem_flatMap.mp member
    obtain ⟨⟨code, severity⟩, listed, rfl⟩ := List.mem_map.mp member
    exact listed
  · intro listed
    refine List.mem_flatMap.mpr ⟨kind.category, ?_, List.mem_map.mpr ⟨_, listed, rfl⟩⟩
    cases kind.category <;> simp

/-- No code is listed twice, not even in another case. -/
theorem nodup_lower_code : (all.map (fun kind => Text.lower kind.code)).Nodup := by
  decide +kernel

/-- A listed code fixes the rest of its kind. -/
theorem eq_of_code_eq {kind other : Kind} (listed : kind ∈ all) (otherListed : other ∈ all)
    (same : kind.code = other.code)
    : kind = other :=
  List.inj_on_of_nodup_map nodup_lower_code listed otherListed (by rw [same])

end Kind

/-- The code, the severity and the category of a finding. -/
def Finding.kind (finding : Finding) : Kind :=
  { code := finding.code, severity := finding.severity, category := finding.category }

namespace Rule

/-- A rule may report a kind of the catalogue when it declares the code and has the category. -/
structure Declares (rule : Rule) (kind : Kind) : Prop where
  code : kind.code ∈ rule.codes
  category : kind.category = rule.category
  listed : (kind.code, kind.severity) ∈ catalogue kind.category

/-- A rule keeps to the catalogue when it declares whatever it reports about any page. -/
def KeepsToCatalogue (rule : Rule) : Prop :=
  ∀ page : Page, ∀ finding ∈ rule.evaluate page, rule.Declares finding.kind

variable {page : Page}

-----------------------------------------------------------------------------------------
-- Metadata
-----------------------------------------------------------------------------------------

theorem kind_of_mem_titleLength {policy : Policy} {title : TitleElement} {finding : Finding}
    (reported : finding ∈ titleLength policy title)
    : finding.kind = { code := "SEO_TITLE_LENGTH", severity := .warning, category := .seo } := by
  simp only [titleLength, List.mem_ite_nil_left, List.mem_ite_nil_right, List.mem_singleton]
    at reported
  obtain ⟨-, -, rfl⟩ := reported
  rfl

theorem kind_of_mem_titleMissing {finding : Finding} (reported : finding ∈ titleMissing page)
    : finding.kind = { code := "SEO_TITLE_MISSING", severity := .warning, category := .seo } := by
  simp only [titleMissing, List.mem_ite_nil_right, List.mem_singleton] at reported
  obtain ⟨-, rfl⟩ := reported
  rfl

theorem title_keepsToCatalogue : title.KeepsToCatalogue := by
  intro page finding reported
  unfold title at reported
  dsimp only at reported
  split at reported
  · rw [kind_of_mem_titleLength reported]
    exact ⟨.head _, rfl, by simp only [catalogue, List.mem_cons, true_or]⟩
  · rw [kind_of_mem_titleMissing reported]
    exact ⟨.tail _ (.head _), rfl, by simp only [catalogue, List.mem_cons, true_or, or_true]⟩

theorem kind_of_mem_descriptionLength {policy : Policy} {tag : Tag} {finding : Finding}
    (reported : finding ∈ descriptionLength policy tag)
    : finding.kind
      = { code := "SEO_META_DESCRIPTION_LENGTH", severity := .warning, category := .seo } := by
  simp only [descriptionLength, List.mem_ite_nil_left, List.mem_ite_nil_right, List.mem_singleton]
    at reported
  obtain ⟨-, -, rfl⟩ := reported
  rfl

theorem metaDescription_keepsToCatalogue : metaDescription.KeepsToCatalogue := by
  intro page finding reported
  unfold metaDescription at reported
  dsimp only at reported
  split at reported
  · rw [kind_of_mem_descriptionLength reported]
    exact ⟨.head _, rfl, by simp only [catalogue, List.mem_cons, true_or, or_true]⟩
  · rw [List.mem_ite_nil_right, List.mem_singleton] at reported
    obtain ⟨-, rfl⟩ := reported
    dsimp only [Finding.kind]
    exact ⟨.tail _ (.head _), rfl, by simp only [catalogue, List.mem_cons, true_or, or_true]⟩

theorem kind_of_mem_canonical {finding : Finding} (reported : finding ∈ canonical.evaluate page)
    : finding.kind
      = { code := "SEO_CANONICAL_MISSING", severity := .warning, category := .seo } := by
  obtain ⟨-, only⟩ := List.mem_ite_nil_right.mp reported
  rw [List.mem_singleton.mp only]
  rfl

theorem canonical_keepsToCatalogue : canonical.KeepsToCatalogue := by
  intro page finding reported
  rw [kind_of_mem_canonical reported]
  exact ⟨.head _, rfl, by simp only [catalogue, List.mem_cons, true_or, or_true]⟩

theorem kind_of_structuredDataMissing {pageType code : Text} {words : List Text}
    {finding : Finding} (reported : structuredDataMissing page pageType code words = some finding)
    : finding.kind = { code, severity := .info, category := .seo } := by
  unfold structuredDataMissing at reported
  split at reported
  · obtain ⟨span, -, rfl⟩ := Option.map_eq_some_iff.mp reported
    rfl
  · cases reported

theorem structuredData_keepsToCatalogue : structuredData.KeepsToCatalogue := by
  intro page finding reported
  obtain ⟨-, reported⟩ := List.mem_ite_nil_left.mp reported
  rcases List.mem_append.mp reported with product | article
  · rw [kind_of_structuredDataMissing (Option.mem_toList.mp product)]
    exact ⟨.head _, rfl, by simp only [catalogue, List.mem_cons, true_or, or_true]⟩
  · rw [kind_of_structuredDataMissing (Option.mem_toList.mp article)]
    exact ⟨.tail _ (.head _), rfl, by simp only [catalogue, List.mem_cons, true_or, or_true]⟩

theorem openGraph_keepsToCatalogue : openGraph.KeepsToCatalogue := by
  intro page finding reported
  obtain ⟨-, only⟩ := List.mem_ite_nil_right.mp reported
  rw [List.mem_singleton.mp only]
  dsimp only [Finding.kind]
  exact ⟨.head _, rfl, by simp only [catalogue, List.mem_cons, true_or, or_true]⟩

theorem kind_of_mem_titleAfter {head : Head} {other : Option Nat} {code message : Text}
    {finding : Finding} (reported : finding ∈ titleAfter page head other code message)
    : finding.kind = { code, severity := .info, category := .seo } := by
  unfold titleAfter at reported
  split at reported
  · rw [List.mem_ite_nil_right, List.mem_singleton] at reported
    obtain ⟨-, rfl⟩ := reported
    rfl
  · cases reported

theorem kind_of_mem_charsetOrder {head : Head} {finding : Finding}
    (reported : finding ∈ charsetOrder page head)
    : finding.kind
      = { code := "SEO_HEAD_CHARSET_ORDER", severity := .warning, category := .seo } := by
  unfold charsetOrder at reported
  split at reported
  · rw [List.mem_ite_nil_right, List.mem_singleton] at reported
    obtain ⟨-, rfl⟩ := reported
    rfl
  · cases reported

theorem headOrder_keepsToCatalogue : headOrder.KeepsToCatalogue := by
  intro page finding reported
  unfold headOrder at reported
  dsimp only at reported
  split at reported
  · simp only [List.mem_append] at reported
    rcases reported with (charset | stylesheet) | script
    · rw [kind_of_mem_charsetOrder charset]
      exact ⟨.head _, rfl, by simp only [catalogue, List.mem_cons, true_or, or_true]⟩
    · rw [kind_of_mem_titleAfter stylesheet]
      exact ⟨.tail _ (.head _), rfl, by simp only [catalogue, List.mem_cons, true_or, or_true]⟩
    · rw [kind_of_mem_titleAfter script]
      exact ⟨.tail _ (.tail _ (.head _)), rfl,
        by simp only [catalogue, List.mem_cons, true_or, or_true]⟩
  · cases reported

-----------------------------------------------------------------------------------------
-- Loading
-----------------------------------------------------------------------------------------

theorem blockingScripts_keepsToCatalogue : blockingScripts.KeepsToCatalogue := by
  intro page finding reported
  obtain ⟨tag, -, rfl⟩ := List.mem_map.mp reported
  dsimp only [Finding.kind]
  exact ⟨.head _, rfl, by simp only [catalogue, List.mem_cons, true_or]⟩

theorem kind_of_mem_externalScripts {finding : Finding}
    (reported : finding ∈ externalScripts.evaluate page)
    : finding.kind
      = { code := "PERF_THIRD_PARTY_SCRIPTS", severity := .warning,
          category := .performance } := by
  unfold externalScripts at reported
  dsimp only at reported
  split at reported
  · rw [List.mem_singleton] at reported
    subst reported
    rfl
  · cases reported

theorem externalScripts_keepsToCatalogue : externalScripts.KeepsToCatalogue := by
  intro page finding reported
  rw [kind_of_mem_externalScripts reported]
  exact ⟨.head _, rfl, by simp only [catalogue, List.mem_cons, true_or, or_true]⟩

theorem imageAttributes_keepsToCatalogue : imageAttributes.KeepsToCatalogue := by
  intro page finding reported
  obtain ⟨tag, -, reported⟩ := List.mem_flatMap.mp reported
  simp only [imageFindings, List.mem_append, List.mem_ite_nil_left, List.mem_singleton] at reported
  rcases reported with (⟨-, rfl⟩ | ⟨-, rfl⟩) | ⟨-, rfl⟩ <;> dsimp only [Finding.kind]
  · exact ⟨.head _, rfl, by simp only [catalogue, List.mem_cons, true_or, or_true]⟩
  · exact ⟨.tail _ (.head _), rfl, by simp only [catalogue, List.mem_cons, true_or, or_true]⟩
  · exact ⟨.tail _ (.tail _ (.head _)), rfl,
      by simp only [catalogue, List.mem_cons, true_or, or_true]⟩

theorem imageComponent_keepsToCatalogue : imageComponent.KeepsToCatalogue := by
  intro page finding reported
  obtain ⟨tag, -, reported⟩ := List.mem_flatMap.mp reported
  simp only [imageComponentFindings, List.mem_append, List.mem_ite_nil_left,
    List.mem_ite_nil_right, List.mem_singleton] at reported
  rcases reported with ⟨-, rfl⟩ | ⟨-, rfl⟩ <;> dsimp only [Finding.kind]
  · exact ⟨.head _, rfl, by simp only [catalogue, List.mem_cons, true_or, or_true]⟩
  · exact ⟨.tail _ (.head _), rfl, by simp only [catalogue, List.mem_cons, true_or, or_true]⟩

theorem kind_of_inlineImageFinding? {budget : Nat} {tag : Tag} {finding : Finding}
    (reported : inlineImageFinding? budget tag = some finding)
    : finding.kind
      = { code := "PERF_INLINE_IMAGE_SIZE", severity := .warning, category := .performance } := by
  obtain ⟨source, -, reported⟩ := Option.bind_eq_some_iff.mp reported
  obtain ⟨size, -, reported⟩ := Option.bind_eq_some_iff.mp reported
  dsimp only at reported
  split at reported
  · obtain rfl := Option.some.inj reported
    rfl
  · cases reported

theorem kind_of_mem_inlineImageSize {finding : Finding}
    (reported : finding ∈ inlineImageSize.evaluate page)
    : finding.kind
      = { code := "PERF_INLINE_IMAGE_SIZE", severity := .warning, category := .performance } := by
  obtain ⟨tag, -, reported⟩ := List.mem_filterMap.mp reported
  exact kind_of_inlineImageFinding? reported

theorem inlineImageSize_keepsToCatalogue : inlineImageSize.KeepsToCatalogue := by
  intro page finding reported
  rw [kind_of_mem_inlineImageSize reported]
  exact ⟨.head _, rfl, by simp only [catalogue, List.mem_cons, true_or, or_true]⟩

theorem kind_of_mem_hiddenText {finding : Finding} (reported : finding ∈ hiddenText page)
    : finding.kind
      = { code := "PERF_FONT_DISPLAY_SWAP", severity := .warning, category := .performance } := by
  obtain ⟨block, -, rfl⟩ := List.mem_map.mp reported
  rfl

theorem kind_of_mem_excessPreloads {finding : Finding} (reported : finding ∈ excessPreloads page)
    : finding.kind
      = { code := "PERF_FONT_PRELOAD_EXCESS", severity := .info, category := .performance } := by
  unfold excessPreloads at reported
  dsimp only at reported
  split at reported
  · rw [List.mem_singleton] at reported
    subst reported
    rfl
  · cases reported

theorem fontLoading_keepsToCatalogue : fontLoading.KeepsToCatalogue := by
  intro page finding reported
  rcases List.mem_append.mp reported with display | preload
  · rw [kind_of_mem_hiddenText (List.mem_ite_nil_right.mp display).2]
    exact ⟨.head _, rfl, by simp only [catalogue, List.mem_cons, true_or, or_true]⟩
  · rw [kind_of_mem_excessPreloads preload]
    exact ⟨.tail _ (.head _), rfl, by simp only [catalogue, List.mem_cons, true_or, or_true]⟩

theorem resourceHints_keepsToCatalogue : resourceHints.KeepsToCatalogue := by
  intro page finding reported
  obtain ⟨-, reported⟩ := List.mem_ite_nil_left.mp reported
  split at reported
  · cases reported
  · rw [List.mem_singleton.mp reported]
    dsimp only [Finding.kind]
    exact ⟨.head _, rfl, by simp only [catalogue, List.mem_cons, true_or, or_true]⟩

-----------------------------------------------------------------------------------------
-- Budgets and bundles
-----------------------------------------------------------------------------------------

theorem kind_of_mem_sizeBand {bytes : Nat} {finding : Finding} (reported : finding ∈ sizeBand bytes)
    : finding.kind
        = { code := "RENDER_HTML_SIZE_LIMIT", severity := .warning, category := .renderBudget }
      ∨ finding.kind
        = { code := "RENDER_HTML_SIZE_EXCESSIVE", severity := .error, category := .renderBudget }
      ∨ finding.kind
        = { code := "RENDER_HTML_SIZE_LARGE", severity := .warning,
            category := .renderBudget } := by
  unfold sizeBand at reported
  split at reported
  · rw [List.mem_singleton.mp reported]
    exact .inl rfl
  · split at reported
    · rw [List.mem_singleton.mp reported]
      exact .inr (.inl rfl)
    · obtain ⟨-, only⟩ := List.mem_ite_nil_right.mp reported
      rw [List.mem_singleton.mp only]
      exact .inr (.inr rfl)

theorem kind_of_mem_sizeCritical {bytes : Nat} {finding : Finding}
    (reported : finding ∈ sizeCritical bytes)
    : finding.kind
      = { code := "RENDER_HTML_SIZE_CRITICAL", severity := .error,
          category := .renderBudget } := by
  obtain ⟨-, only⟩ := List.mem_ite_nil_right.mp reported
  rw [List.mem_singleton.mp only]
  rfl

theorem htmlSize_keepsToCatalogue : htmlSize.KeepsToCatalogue := by
  intro page finding reported
  rcases List.mem_append.mp reported with band | critical
  · rcases kind_of_mem_sizeBand band with limit | excessive | large
    · rw [limit]
      exact ⟨.tail _ (.tail _ (.head _)), rfl,
        by simp only [catalogue, List.mem_cons, true_or, or_true]⟩
    · rw [excessive]
      exact ⟨.tail _ (.head _), rfl, by simp only [catalogue, List.mem_cons, true_or, or_true]⟩
    · rw [large]
      exact ⟨.head _, rfl, by simp only [catalogue, List.mem_cons, true_or]⟩
  · rw [kind_of_mem_sizeCritical critical]
    exact ⟨.tail _ (.tail _ (.tail _ (.head _))), rfl,
      by simp only [catalogue, List.mem_cons, true_or, or_true]⟩

section

variable {limit : Nat} {code : Text} {severity : Severity} {help : Option Text} {finding : Finding}

theorem kind_of_mem_elementsOver (reported : finding ∈ elementsOver page limit code severity help)
    : finding.kind = { code, severity, category := .renderBudget } := by
  rw [elementsOver, List.mem_ite_nil_right, List.mem_singleton] at reported
  obtain ⟨-, rfl⟩ := reported
  rfl

theorem kind_of_mem_levelsOver (reported : finding ∈ levelsOver page limit code severity help)
    : finding.kind = { code, severity, category := .renderBudget } := by
  rw [levelsOver, List.mem_ite_nil_right, List.mem_singleton] at reported
  obtain ⟨-, rfl⟩ := reported
  rfl

theorem kind_of_mem_weightOver {total : Nat}
    (reported : finding ∈ weightOver total limit code severity help)
    : finding.kind = { code, severity, category := .bundle } := by
  rw [weightOver, List.mem_ite_nil_right, List.mem_singleton] at reported
  obtain ⟨-, rfl⟩ := reported
  rfl

end

theorem domSize_keepsToCatalogue : domSize.KeepsToCatalogue := by
  intro page finding reported
  rcases List.mem_append.mp reported with large | excessive
  · rw [kind_of_mem_elementsOver large]
    exact ⟨.head _, rfl, by simp only [catalogue, List.mem_cons, true_or, or_true]⟩
  · rw [kind_of_mem_elementsOver excessive]
    exact ⟨.tail _ (.head _), rfl, by simp only [catalogue, List.mem_cons, true_or, or_true]⟩

theorem domDepth_keepsToCatalogue : domDepth.KeepsToCatalogue := by
  intro page finding reported
  rcases List.mem_append.mp reported with deep | excessive
  · rw [kind_of_mem_levelsOver deep]
    exact ⟨.head _, rfl, by simp only [catalogue, List.mem_cons, true_or, or_true]⟩
  · rw [kind_of_mem_levelsOver excessive]
    exact ⟨.tail _ (.head _), rfl, by simp only [catalogue, List.mem_cons, true_or, or_true]⟩

theorem heavyImports_keepsToCatalogue : heavyImports.KeepsToCatalogue := by
  intro page finding reported
  rcases List.mem_append.mp reported with reported | excessive
  · rcases List.mem_append.mp reported with heavy | large
    · obtain ⟨entry, -, rfl⟩ := List.mem_map.mp heavy
      dsimp only [Finding.kind, heavyFinding]
      exact ⟨.head _, rfl, by simp only [catalogue, List.mem_cons, true_or]⟩
    · rw [kind_of_mem_weightOver large]
      exact ⟨.tail _ (.head _), rfl, by simp only [catalogue, List.mem_cons, true_or, or_true]⟩
  · rw [kind_of_mem_weightOver excessive]
    exact ⟨.tail _ (.tail _ (.head _)), rfl,
      by simp only [catalogue, List.mem_cons, true_or, or_true]⟩

-----------------------------------------------------------------------------------------
-- The registry
-----------------------------------------------------------------------------------------

/-- All rules keep to the catalogue, each one by the findings that its check can build. -/
theorem keepsToCatalogue_of_mem_all {rule : Rule} (member : rule ∈ all)
    : rule.KeepsToCatalogue := by
  have each : List.Forall KeepsToCatalogue all :=
    ⟨title_keepsToCatalogue, metaDescription_keepsToCatalogue, canonical_keepsToCatalogue,
      structuredData_keepsToCatalogue, openGraph_keepsToCatalogue, headOrder_keepsToCatalogue,
      blockingScripts_keepsToCatalogue, externalScripts_keepsToCatalogue,
      imageAttributes_keepsToCatalogue, imageComponent_keepsToCatalogue,
      inlineImageSize_keepsToCatalogue, fontLoading_keepsToCatalogue,
      resourceHints_keepsToCatalogue, htmlSize_keepsToCatalogue, domSize_keepsToCatalogue,
      domDepth_keepsToCatalogue, heavyImports_keepsToCatalogue⟩
  exact List.forall_iff_forall_mem.mp each rule member

/-- The rules declare the codes of the catalogue, in the same order. -/
theorem codes_all : all.flatMap (·.codes) = Kind.all.map (·.code) := by
  simp only [all, Kind.all, catalogue, List.flatMap_cons, List.flatMap_nil, List.map_cons,
    List.map_nil, List.cons_append, List.nil_append]
  exact Eq.refl _

/-- No two of the rules declare the same code, not even in another case. -/
theorem pairwise_disjoint_codes
    : all.Pairwise
        (fun first second => ∀ code ∈ second.codes, first.reports code = false) := by
  have distinct : (all.flatMap (fun rule => rule.codes.map Text.lower)).Nodup := by
    rw [← List.map_flatMap, codes_all, List.map_map]
    exact Kind.nodup_lower_code
  refine (List.nodup_flatMap.mp distinct).2.imp fun {first second} disjoint code declared => ?_
  rw [reports, List.any_eq_false]
  intro other otherDeclared same
  rw [Text.sameLetters, beq_iff_eq] at same
  have inSecond : Text.lower code ∈ second.codes.map Text.lower := List.mem_map_of_mem declared
  exact disjoint (List.mem_map_of_mem otherDeclared) (same ▸ inSecond)

/-- A code that a rule declares leads back to that rule, in any case. Witness: the rules in front of
it declare no such code.
-/
theorem findByCode?_of_mem_codes {rule : Rule} {code spelling : Text} (member : rule ∈ all)
    (declared : code ∈ rule.codes) (same : Text.sameLetters spelling code)
    : findByCode? all spelling = some rule := by
  have spelled (other : Rule) : other.reports spelling = other.reports code := by
    rw [Text.sameLetters, beq_iff_eq] at same
    simp only [reports, Text.sameLetters, same]
  obtain ⟨front, behind, split⟩ := List.append_of_mem member
  have disjoint := pairwise_disjoint_codes
  rw [split, List.pairwise_append] at disjoint
  rw [findByCode?, List.find?_eq_some_iff_append]
  refine ⟨?_, front, behind, split, fun other earlier => ?_⟩
  · rw [spelled]
    exact List.any_eq_true.mpr ⟨code, declared, by rw [Text.sameLetters, beq_self_eq_true]⟩
  · rw [spelled, disjoint.2.2 other earlier rule List.mem_cons_self code declared]
    rfl

end Rule

end PageAudit
