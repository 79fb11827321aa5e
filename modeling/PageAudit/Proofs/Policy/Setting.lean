import PageAudit.Proofs.Audit.Codes
import PageAudit.Proofs.Policy.Reading

/-! The settings of a policy do not interfere. Each one has a say in the findings with its own codes
and in no others.
-/

namespace PageAudit

/-- The settings of a policy. The two limits of a length are one setting. -/
inductive Setting
  | titleLength
  | descriptionLength
  | canonicalLink
  | structuredTypes
  | headMarkers
  | externalScripts
  | imageBudget
  | fontSwap

namespace Setting

/-- The codes of the findings that a setting decides about. -/
def codes : Setting → List Text
  | .titleLength => ["SEO_TITLE_LENGTH"]
  | .descriptionLength => ["SEO_META_DESCRIPTION_LENGTH"]
  | .canonicalLink => ["SEO_CANONICAL_MISSING"]
  | .structuredTypes => ["SEO_JSONLD_PRODUCT_MISSING", "SEO_JSONLD_ARTICLE_MISSING"]
  | .headMarkers => ["SEO_TITLE_MISSING"]
  | .externalScripts => ["PERF_THIRD_PARTY_SCRIPTS"]
  | .imageBudget => ["PERF_INLINE_IMAGE_SIZE"]
  | .fontSwap => ["PERF_FONT_DISPLAY_SWAP"]

/-- (setting.Agrees first second) says that two policies have the same values for a setting. -/
def Agrees : Setting → Policy → Policy → Prop
  | .titleLength, first, second =>
      first.titleMin = second.titleMin ∧ first.titleMax = second.titleMax
  | .descriptionLength, first, second =>
      first.descriptionMin = second.descriptionMin
      ∧ first.descriptionMax = second.descriptionMax
  | .canonicalLink, first, second => first.requireCanonical = second.requireCanonical
  | .structuredTypes, first, second => first.structuredTypes = second.structuredTypes
  | .headMarkers, first, second => first.headMarkers = second.headMarkers
  | .externalScripts, first, second => first.maxExternalScripts = second.maxExternalScripts
  | .imageBudget, first, second => first.imageBudgetKb = second.imageBudgetKb
  | .fontSwap, first, second => first.requireFontSwap = second.requireFontSwap

/-- The settings make up the policy. -/
theorem forall_agrees_iff {first second : Policy}
    : (∀ setting : Setting, setting.Agrees first second) ↔ first = second := by
  constructor
  · intro agrees
    obtain ⟨titleMin, titleMax⟩ := agrees .titleLength
    obtain ⟨descriptionMin, descriptionMax⟩ := agrees .descriptionLength
    cases first
    cases second
    congr
    · exact agrees .canonicalLink
    · exact agrees .structuredTypes
    · exact agrees .externalScripts
    · exact agrees .imageBudget
    · exact agrees .fontSwap
    · exact agrees .headMarkers
  · rintro rfl setting
    cases setting <;> simp only [Agrees, and_self]

/-- Two policies differ in no setting but the given one. -/
def OnlyDiffers (setting : Setting) (first second : Policy) : Prop :=
  ∀ other : Setting, other ≠ setting → other.Agrees first second

-----------------------------------------------------------------------------------------
-- Findings without the codes of a setting
-----------------------------------------------------------------------------------------

/-- The findings that have none of the codes of a setting. -/
def without (setting : Setting) (findings : List Finding) : List Finding :=
  findings.filter (fun finding => !setting.codes.contains finding.code)

variable {setting : Setting}

@[simp]
theorem without_append (front behind : List Finding)
    : setting.without (front ++ behind) = setting.without front ++ setting.without behind :=
  List.filter_append ..

theorem without_flatMap {α : Type} (items : List α) (findings : α → List Finding)
    : setting.without (items.flatMap findings)
      = items.flatMap fun item => setting.without (findings item) :=
  List.filter_flatMap ..

theorem without_eq_nil {findings : List Finding}
    (own : ∀ finding ∈ findings, finding.code ∈ setting.codes)
    : setting.without findings = [] := by
  refine List.filter_eq_nil_iff.mpr fun finding member => ?_
  simp [own finding member]

/-- Settling keeps the codes. -/
theorem without_settleAll (text : Text) (findings : List Finding)
    : setting.without (Finding.settleAll text findings)
      = Finding.settleAll text (setting.without findings) := by
  rw [Finding.settleAll_eq, Finding.settleAll_eq, without, List.filter_map]
  rfl

-----------------------------------------------------------------------------------------
-- Checks that only one setting has a say in
-----------------------------------------------------------------------------------------

/-- A setting governs a check that reports codes of the setting alone and reads nothing else of the
policy.
-/
structure Governs (setting : Setting) (check : Page → List Finding) : Prop where
  codes : ∀ page, ∀ finding ∈ check page, finding.code ∈ setting.codes
  reads
    : ∀ (page : Page) {first second : Policy},
        setting.Agrees first second → check (page.under first) = check (page.under second)

theorem Governs.of_kind {check : Page → List Finding} {kind : Kind}
    (own : kind.code ∈ setting.codes)
    (kinds : ∀ page, ∀ finding ∈ check page, finding.kind = kind)
    (reads
      : ∀ (page : Page) {first second : Policy},
          setting.Agrees first second → check (page.under first) = check (page.under second))
    : setting.Governs check where
  codes page finding reported := by
    have code : finding.code = kind.code := congrArg Kind.code (kinds page finding reported)
    rw [code]
    exact own
  reads := reads

/-- A setting that changes makes no difference to a check beside the codes of that setting. -/
def Confined (check : Page → List Finding) : Prop :=
  ∀ (page : Page) {setting : Setting} {first second : Policy},
    setting.OnlyDiffers first second
    → setting.without (check (page.under first)) = setting.without (check (page.under second))

/-- Either the setting that changes governs the check and all of its findings go, or the check reads
nothing of what changes.
-/
theorem Governs.confined {check : Page → List Finding} (governs : setting.Governs check)
    : Confined check := by
  intro page changed first second differs
  by_cases own : setting = changed
  · subst own
    rw [without_eq_nil (governs.codes _), without_eq_nil (governs.codes _)]
  · rw [governs.reads page (differs setting own)]

theorem Confined.append {front behind : Page → List Finding} (frontConfined : Confined front)
    (behindConfined : Confined behind)
    : Confined fun page => front page ++ behind page := by
  intro page changed first second differs
  rw [without_append, without_append, frontConfined page differs, behindConfined page differs]

end Setting

open Setting (Confined)

namespace Rule

theorem IgnoresPolicy.confined {rule : Rule} (ignores : rule.IgnoresPolicy)
    : Confined rule.evaluate := by
  intro page changed first second _
  rw [ignores page first second]

theorem titleLength_governed (title : TitleElement)
    : Setting.titleLength.Governs fun page => titleLength page.policy title := by
  refine .of_kind (.head _) (fun _ _ => kind_of_mem_titleLength) ?_
  rintro page first second ⟨min, max⟩
  unfold titleLength
  dsimp only
  rw [Page.policy_under, Page.policy_under, min, max]

theorem titleMissing_governed : Setting.headMarkers.Governs titleMissing := by
  refine .of_kind (.head _) (fun _ _ => kind_of_mem_titleMissing) ?_
  intro page first second same
  -- the check reads the mark of a managed head, and the markers only through that mark
  show titleMissing { page with shape := { page.shape with
      headManaged := holdsMarker first.headMarkers page.text } } = _
  rw [same]
  rfl

theorem title_confined : Confined title.evaluate := by
  intro page changed first second differs
  unfold title
  dsimp only
  rw [titleElement?_under, titleElement?_under]
  cases titleElement? page with
  | some title => exact (titleLength_governed title).confined page differs
  | none => exact titleMissing_governed.confined page differs

theorem descriptionLength_governed (tag : Tag)
    : Setting.descriptionLength.Governs fun page => descriptionLength page.policy tag := by
  refine .of_kind (.head _) (fun _ _ => kind_of_mem_descriptionLength) ?_
  rintro page first second ⟨min, max⟩
  unfold descriptionLength
  dsimp only
  rw [Page.policy_under, Page.policy_under, min, max]

theorem metaDescription_confined : Confined metaDescription.evaluate := by
  intro page changed first second differs
  unfold metaDescription
  dsimp only
  rw [descriptionTag?_under, descriptionTag?_under]
  cases descriptionTag? page with
  | some tag => exact (descriptionLength_governed tag).confined page differs
  | none => rfl

theorem canonical_governed : Setting.canonicalLink.Governs canonical.evaluate := by
  refine .of_kind (.head _) (fun _ _ => kind_of_mem_canonical) ?_
  intro page first second same
  unfold canonical
  dsimp only
  rw [Page.policy_under, Page.policy_under, Page.opening_under, Page.opening_under, same]

theorem structuredDataMissing_governed (pageType : Text) (words : List Text) {code : Text}
    (own : code ∈ Setting.structuredTypes.codes)
    : Setting.structuredTypes.Governs fun page =>
        (structuredDataMissing page pageType code words).toList := by
  refine .of_kind own (fun _ _ => kind_of_structuredDataMissing ∘ Option.mem_toList.mp) ?_
  intro page first second same
  unfold structuredDataMissing Policy.requiresStructuredData
  rw [Page.policy_under, Page.policy_under, hint?_under, hint?_under, same]

theorem structuredData_confined : Confined structuredData.evaluate := by
  intro page changed first second differs
  unfold structuredData
  dsimp only
  rw [Page.opening_under, Page.opening_under]
  split
  · rfl
  · exact Confined.append (structuredDataMissing_governed _ _ (.head _)).confined
      (structuredDataMissing_governed _ _ (.tail _ (.head _))).confined page differs

theorem externalScripts_governed
    : Setting.externalScripts.Governs externalScripts.evaluate := by
  refine .of_kind (.head _) (fun _ _ => kind_of_mem_externalScripts) ?_
  intro page first second same
  unfold externalScripts
  dsimp only
  rw [Page.policy_under, Page.policy_under, Page.tags_under, Page.tags_under, same]

theorem inlineImageSize_governed : Setting.imageBudget.Governs inlineImageSize.evaluate := by
  refine .of_kind (.head _) (fun _ _ => kind_of_mem_inlineImageSize) ?_
  intro page first second same
  unfold inlineImageSize
  dsimp only
  rw [Page.policy_under, Page.policy_under, Page.tags_under, Page.tags_under, same]

theorem hiddenText_governed
    : Setting.fontSwap.Governs fun page =>
        if page.policy.requireFontSwap then hiddenText page else [] := by
  have kinds (page : Page)
      : ∀ finding ∈ if page.policy.requireFontSwap then hiddenText page else [],
          finding.kind
          = { code := "PERF_FONT_DISPLAY_SWAP", severity := .warning, category := .performance } :=
    fun _ reported => kind_of_mem_hiddenText (List.mem_ite_nil_right.mp reported).2
  refine .of_kind (.head _) kinds ?_
  intro page first second same
  rw [Page.policy_under, Page.policy_under, same]
  rfl

theorem fontLoading_confined : Confined fontLoading.evaluate :=
  hiddenText_governed.confined.append fun _ _ _ _ _ => rfl

/-- Whatever setting changes, every rule confines it to the codes of that setting. -/
theorem confined_of_mem_all : ∀ rule ∈ all, Confined rule.evaluate :=
  forall_mem_all_of_readers (fun _ => IgnoresPolicy.confined)
    ⟨title_confined, metaDescription_confined, canonical_governed.confined,
      structuredData_confined, externalScripts_governed.confined,
      inlineImageSize_governed.confined, fontLoading_confined⟩

end Rule

namespace Auditor

/-- Two policies that differ in one setting make an audit report the same findings in the same order
beside those with the codes of the setting.
-/
theorem audit_full_without_setting {setting : Setting} {first second : Policy}
    (differs : setting.OnlyDiffers first second) (tables : Tables) (fileName text : Text)
    : setting.without ((full first tables).audit fileName text)
      = setting.without ((full second tables).audit fileName text) := by
  rw [audit_eq_flatMap, audit_eq_flatMap, Setting.without_flatMap, Setting.without_flatMap]
  refine List.flatMap_congr fun rule member => ?_
  rw [Setting.without_settleAll, Setting.without_settleAll]
  congr 1
  exact Rule.confined_of_mem_all rule member (Page.ofText first tables fileName text) differs

/-- Without markers the standard policy finds more in a head that a library manages, but no more
than the missing title.
-/
theorem audit_full_without_markers
    : let unmarked := { Policy.standard with headMarkers := [] }
      let text : Text := "<head>useHead(</head>"
      Setting.headMarkers.OnlyDiffers .standard unmarked
      ∧ Setting.headMarkers.without ((full .standard .standard).audit "page.html" text)
        = Setting.headMarkers.without ((full unmarked .standard).audit "page.html" text)
      ∧ (full .standard .standard).audit "page.html" text
        ≠ (full unmarked .standard).audit "page.html" text := by
  intro unmarked text
  have differs : Setting.headMarkers.OnlyDiffers .standard unmarked := by
    intro other others
    cases other with
    | headMarkers => exact absurd rfl others
    | titleLength | descriptionLength => exact ⟨rfl, rfl⟩
    | canonicalLink | structuredTypes | externalScripts | imageBudget | fontSwap => exact rfl
  refine ⟨differs, audit_full_without_setting differs .standard "page.html" text, ?_⟩
  decide +kernel

end Auditor

end PageAudit
