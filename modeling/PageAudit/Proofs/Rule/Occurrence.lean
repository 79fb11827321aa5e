import Mathlib.Data.List.Basic
import PageAudit.Proofs.Markup.Head
import PageAudit.Proofs.Rule.Catalogue

/-! How often rules report their codes, and which codes go together. Limits add up, so that a page
beyond the higher one is also reported for the lower one, while other codes exclude each other.
-/

namespace PageAudit

/-- The codes of findings about single scripts, images, font rules and imports. A document may get
each of them several times.
-/
def repeatable : List Text :=
  ["PERF_BLOCKING_SCRIPT", "PERF_IMG_MISSING_ALT", "PERF_IMG_MISSING_DIMENSIONS",
    "PERF_IMG_MISSING_LOADING", "PERF_IMAGE_COMPONENT_SIZES", "PERF_IMAGE_COMPONENT_PRIORITY",
    "PERF_INLINE_IMAGE_SIZE", "PERF_FONT_DISPLAY_SWAP", "BUNDLE_HEAVY_DEPENDENCY"]

-----------------------------------------------------------------------------------------
-- Findings that follow a list of codes
-----------------------------------------------------------------------------------------

namespace Finding

/-- (FollowsCodes codes findings) says that the findings have codes of the list in its order, each
no more often than it is listed. Repeatable codes may stand anywhere among them.
-/
def FollowsCodes (codes : List Text) (findings : List Finding) : Prop :=
  ((findings.map (·.code)).filter (!repeatable.contains ·)).Sublist codes

variable {codes : List Text}

theorem followsCodes_nil : FollowsCodes codes [] :=
  List.nil_sublist _

theorem followsCodes_singleton {finding : Finding} (listed : finding.code ∈ codes)
    : FollowsCodes codes [finding] := by
  have single : [finding.code].Sublist codes := List.singleton_sublist.mpr listed
  exact List.filter_sublist.trans single

theorem followsCodes_of_repeatable {findings : List Finding}
    (each : ∀ finding ∈ findings, finding.code ∈ repeatable)
    : FollowsCodes codes findings := by
  have none : (findings.map (·.code)).filter (!repeatable.contains ·) = [] := by
    refine List.filter_eq_nil_iff.mpr fun code member => ?_
    obtain ⟨finding, reported, rfl⟩ := List.mem_map.mp member
    simp [each finding reported]
  rw [FollowsCodes, none]
  exact List.nil_sublist _

theorem followsCodes_ite {condition : Prop} [Decidable condition] {first second : List Finding}
    (whenTrue : FollowsCodes codes first) (otherwise : FollowsCodes codes second)
    : FollowsCodes codes (if condition then first else second) := by
  split
  · exact whenTrue
  · exact otherwise

theorem followsCodes_toList {finding? : Option Finding}
    (listed : ∀ finding ∈ finding?, finding.code ∈ codes)
    : FollowsCodes codes finding?.toList := by
  cases finding? with
  | none => exact followsCodes_nil
  | some finding => exact followsCodes_singleton (listed finding rfl)

theorem FollowsCodes.append {first second : List Finding} {more : List Text}
    (front : FollowsCodes codes first) (behind : FollowsCodes more second)
    : FollowsCodes (codes ++ more) (first ++ second) := by
  rw [FollowsCodes, List.map_append, List.filter_append]
  exact List.Sublist.append front behind

theorem FollowsCodes.flatMap {α : Type} {items : List α} {codes : α → List Text}
    {findings : α → List Finding} (each : ∀ item ∈ items, FollowsCodes (codes item) (findings item))
    : FollowsCodes (items.flatMap codes) (items.flatMap findings) := by
  induction items with
  | nil => exact followsCodes_nil
  | cons item items ih =>
      have first := each item List.mem_cons_self
      have others := ih fun other member => each other (.tail _ member)
      exact first.append others

/-- A code that is not repeatable and listed once is reported at most once. -/
theorem FollowsCodes.count_le_one {findings : List Finding} {code : Text}
    (follows : FollowsCodes codes findings) (once : codes.Nodup) (single : code ∉ repeatable)
    : (findings.map (·.code)).count code ≤ 1 := by
  calc (findings.map (·.code)).count code
      = ((findings.map (·.code)).filter (!repeatable.contains ·)).count code := by
        rw [List.count_filter (by simp [single])]
    _ ≤ codes.count code := follows.count_le code
    _ ≤ 1 := List.nodup_iff_count_le_one.mp once code

end Finding

open Finding

namespace Rule

/-- A rule follows its codes when it reports those that are not repeatable in the order in which it
declares them, each at most once.
-/
def FollowsOwnCodes (rule : Rule) : Prop :=
  ∀ page : Page, FollowsCodes rule.codes (rule.evaluate page)

/-- A rule that declares nothing but repeatable codes follows them. -/
theorem KeepsToCatalogue.followsOwnCodes {rule : Rule} (keeps : rule.KeepsToCatalogue)
    (each : ∀ code ∈ rule.codes, code ∈ repeatable)
    : rule.FollowsOwnCodes := by
  intro page
  refine followsCodes_of_repeatable fun finding reported => ?_
  exact each finding.code (keeps page finding reported).code

theorem title_followsOwnCodes : title.FollowsOwnCodes := by
  intro page
  unfold title
  dsimp only
  split
  · exact followsCodes_ite followsCodes_nil
      (followsCodes_ite (followsCodes_singleton (.head _)) followsCodes_nil)
  · exact followsCodes_ite (followsCodes_singleton (.tail _ (.head _))) followsCodes_nil

theorem metaDescription_followsOwnCodes : metaDescription.FollowsOwnCodes := by
  intro page
  unfold metaDescription
  dsimp only
  split
  · exact followsCodes_ite followsCodes_nil
      (followsCodes_ite (followsCodes_singleton (.head _)) followsCodes_nil)
  · exact followsCodes_ite (followsCodes_singleton (.tail _ (.head _))) followsCodes_nil

theorem canonical_followsOwnCodes : canonical.FollowsOwnCodes :=
  fun _ => followsCodes_ite (followsCodes_singleton (.head _)) followsCodes_nil

theorem structuredDataMissing_followsCodes (page : Page) (pageType code : Text) (words : List Text)
    : FollowsCodes [code] (structuredDataMissing page pageType code words).toList := by
  refine followsCodes_toList fun finding reported => ?_
  have same : finding.code = code := congrArg Kind.code (kind_of_structuredDataMissing reported)
  rw [same]
  exact List.mem_singleton_self code

theorem structuredData_followsOwnCodes : structuredData.FollowsOwnCodes := by
  intro page
  refine followsCodes_ite followsCodes_nil ?_
  exact (structuredDataMissing_followsCodes page ..).append
    (structuredDataMissing_followsCodes page ..)

theorem openGraph_followsOwnCodes : openGraph.FollowsOwnCodes :=
  fun _ => followsCodes_ite (followsCodes_singleton (.head _)) followsCodes_nil

theorem charsetOrder_followsCodes (page : Page) (head : Head)
    : FollowsCodes ["SEO_HEAD_CHARSET_ORDER"] (charsetOrder page head) := by
  unfold charsetOrder
  split
  · exact followsCodes_ite (followsCodes_singleton (.head _)) followsCodes_nil
  · exact followsCodes_nil

theorem titleAfter_followsCodes (page : Page) (head : Head) (other : Option Nat)
    (code message : Text)
    : FollowsCodes [code] (titleAfter page head other code message) := by
  unfold titleAfter
  split
  · exact followsCodes_ite (followsCodes_singleton (.head _)) followsCodes_nil
  · exact followsCodes_nil

theorem headOrder_followsOwnCodes : headOrder.FollowsOwnCodes := by
  intro page
  unfold headOrder
  dsimp only
  split
  · next head _ =>
      have charset := charsetOrder_followsCodes page head
      have stylesheet := titleAfter_followsCodes page head head.stylesheet
        "SEO_HEAD_TITLE_AFTER_STYLESHEET" "<title> appears after a stylesheet link; move it above"
      have script := titleAfter_followsCodes page head head.script
        "SEO_HEAD_TITLE_AFTER_SCRIPT" "<title> appears after a script tag; move it above"
      exact (charset.append stylesheet).append script
  · exact followsCodes_nil

theorem externalScripts_followsOwnCodes : externalScripts.FollowsOwnCodes := by
  intro page
  unfold externalScripts
  dsimp only
  split
  · exact followsCodes_singleton (.head _)
  · exact followsCodes_nil

theorem fontLoading_followsOwnCodes : fontLoading.FollowsOwnCodes := by
  intro page
  have display : FollowsCodes ["PERF_FONT_DISPLAY_SWAP"]
      (if page.policy.requireFontSwap then hiddenText page else []) := by
    refine followsCodes_of_repeatable fun finding reported => ?_
    have kind := kind_of_mem_hiddenText (List.mem_ite_nil_right.mp reported).2
    have code : finding.code = "PERF_FONT_DISPLAY_SWAP".toList := congrArg Kind.code kind
    rw [code]
    decide
  have preloads : FollowsCodes ["PERF_FONT_PRELOAD_EXCESS"] (excessPreloads page) := by
    unfold excessPreloads
    dsimp only
    split
    · exact followsCodes_singleton (.head _)
    · exact followsCodes_nil
  exact display.append preloads

theorem resourceHints_followsOwnCodes : resourceHints.FollowsOwnCodes := by
  intro page
  refine followsCodes_ite followsCodes_nil ?_
  split
  · exact followsCodes_nil
  · exact followsCodes_singleton (.head _)

theorem htmlSize_followsOwnCodes : htmlSize.FollowsOwnCodes := by
  intro page
  have band : FollowsCodes
      ["RENDER_HTML_SIZE_LARGE", "RENDER_HTML_SIZE_EXCESSIVE", "RENDER_HTML_SIZE_LIMIT"]
      (sizeBand page.shape.bytes) := by
    refine followsCodes_ite (followsCodes_singleton (.tail _ (.tail _ (.head _)))) ?_
    refine followsCodes_ite (followsCodes_singleton (.tail _ (.head _))) ?_
    exact followsCodes_ite (followsCodes_singleton (.head _)) followsCodes_nil
  have critical : FollowsCodes ["RENDER_HTML_SIZE_CRITICAL"] (sizeCritical page.shape.bytes) :=
    followsCodes_ite (followsCodes_singleton (.head _)) followsCodes_nil
  exact band.append critical

section

variable (page : Page) (limit : Nat) (code : Text) (severity : Severity) (help : Option Text)

theorem elementsOver_followsCodes
    : FollowsCodes [code] (elementsOver page limit code severity help) :=
  followsCodes_ite (followsCodes_singleton (.head _)) followsCodes_nil

theorem levelsOver_followsCodes : FollowsCodes [code] (levelsOver page limit code severity help) :=
  followsCodes_ite (followsCodes_singleton (.head _)) followsCodes_nil

theorem weightOver_followsCodes (total : Nat)
    : FollowsCodes [code] (weightOver total limit code severity help) :=
  followsCodes_ite (followsCodes_singleton (.head _)) followsCodes_nil

end

theorem domSize_followsOwnCodes : domSize.FollowsOwnCodes :=
  fun page => (elementsOver_followsCodes page ..).append (elementsOver_followsCodes page ..)

theorem domDepth_followsOwnCodes : domDepth.FollowsOwnCodes :=
  fun page => (levelsOver_followsCodes page ..).append (levelsOver_followsCodes page ..)

theorem heavyImports_followsOwnCodes : heavyImports.FollowsOwnCodes := by
  intro page
  have heavy : FollowsCodes ["BUNDLE_HEAVY_DEPENDENCY"]
      ((heavyOnes page).map fun heavy => heavyFinding heavy.1 heavy.2) := by
    refine followsCodes_of_repeatable fun finding reported => ?_
    obtain ⟨entry, -, rfl⟩ := List.mem_map.mp reported
    have listed : "BUNDLE_HEAVY_DEPENDENCY".toList ∈ repeatable := by decide
    exact listed
  exact (heavy.append (weightOver_followsCodes ..)).append (weightOver_followsCodes ..)

theorem followsOwnCodes_of_mem_all {rule : Rule} (member : rule ∈ all) : rule.FollowsOwnCodes := by
  have each : List.Forall FollowsOwnCodes all :=
    ⟨title_followsOwnCodes, metaDescription_followsOwnCodes, canonical_followsOwnCodes,
      structuredData_followsOwnCodes, openGraph_followsOwnCodes, headOrder_followsOwnCodes,
      blockingScripts_keepsToCatalogue.followsOwnCodes (by decide),
      externalScripts_followsOwnCodes,
      imageAttributes_keepsToCatalogue.followsOwnCodes (by decide),
      imageComponent_keepsToCatalogue.followsOwnCodes (by decide),
      inlineImageSize_keepsToCatalogue.followsOwnCodes (by decide),
      fontLoading_followsOwnCodes, resourceHints_followsOwnCodes, htmlSize_followsOwnCodes,
      domSize_followsOwnCodes, domDepth_followsOwnCodes, heavyImports_followsOwnCodes⟩
  exact List.forall_iff_forall_mem.mp each rule member

-----------------------------------------------------------------------------------------
-- Codes that exclude each other
-----------------------------------------------------------------------------------------

/-- Two codes exclude each other when a document gets at most one of them: a title or a description
is there or missing, the bytes fall in one band, and only a title that is there follows others.
-/
inductive Excludes : Text → Text → Prop where
  | title : Excludes "SEO_TITLE_LENGTH" "SEO_TITLE_MISSING"
  | description : Excludes "SEO_META_DESCRIPTION_LENGTH" "SEO_META_DESCRIPTION_MISSING"
  | largeExcessive : Excludes "RENDER_HTML_SIZE_LARGE" "RENDER_HTML_SIZE_EXCESSIVE"
  | largeLimit : Excludes "RENDER_HTML_SIZE_LARGE" "RENDER_HTML_SIZE_LIMIT"
  | excessiveLimit : Excludes "RENDER_HTML_SIZE_EXCESSIVE" "RENDER_HTML_SIZE_LIMIT"
  | afterStylesheet : Excludes "SEO_HEAD_TITLE_AFTER_STYLESHEET" "SEO_TITLE_MISSING"
  | afterScript : Excludes "SEO_HEAD_TITLE_AFTER_SCRIPT" "SEO_TITLE_MISSING"

variable {page : Page} {finding : Finding}

/-- Findings whose codes are told by one question have the same code. -/
theorem eq_of_mem_codes {findings : List Finding} {code first second : Text}
    (told : ∀ finding ∈ findings, finding.code = code)
    (reported : first ∈ findings.map (·.code)) (also : second ∈ findings.map (·.code))
    : first = second := by
  obtain ⟨finding, member, rfl⟩ := List.mem_map.mp reported
  obtain ⟨other, otherMember, rfl⟩ := List.mem_map.mp also
  rw [told finding member, told other otherMember]

/-- The code of a finding about the title tells whether there is one. -/
theorem code_of_mem_title (reported : finding ∈ title.evaluate page)
    : finding.code
      = if (titleElement? page).isSome then "SEO_TITLE_LENGTH".toList
        else "SEO_TITLE_MISSING".toList := by
  unfold title at reported
  dsimp only at reported
  split at reported
  · next found =>
      rw [found]
      exact congrArg Kind.code (kind_of_mem_titleLength reported)
  · next none =>
      rw [none]
      exact congrArg Kind.code (kind_of_mem_titleMissing reported)

theorem titleElement?_of_codes_title
    (missing : "SEO_TITLE_MISSING".toList ∈ (title.evaluate page).map (·.code))
    : ¬ (titleElement? page).isSome := by
  intro present
  obtain ⟨finding, reported, code⟩ := List.mem_map.mp missing
  rw [code_of_mem_title reported, if_pos present] at code
  exact absurd code (by decide)

/-- The code of a finding about the description tells whether there is one. -/
theorem code_of_mem_metaDescription (reported : finding ∈ metaDescription.evaluate page)
    : finding.code
      = if (descriptionTag? page).isSome then "SEO_META_DESCRIPTION_LENGTH".toList
        else "SEO_META_DESCRIPTION_MISSING".toList := by
  unfold metaDescription at reported
  dsimp only at reported
  split at reported
  · next found =>
      rw [found]
      exact congrArg Kind.code (kind_of_mem_descriptionLength reported)
  · next none =>
      rw [none]
      rw [List.mem_ite_nil_right, List.mem_singleton] at reported
      obtain ⟨-, rfl⟩ := reported
      rfl

/-- The code of a band tells how many bytes there are. -/
theorem code_of_mem_sizeBand {bytes : Nat} (reported : finding ∈ sizeBand bytes)
    : finding.code
      = if 10 * megabyte < bytes then "RENDER_HTML_SIZE_LIMIT".toList
        else if 150 * kilobyte < bytes then "RENDER_HTML_SIZE_EXCESSIVE".toList
        else "RENDER_HTML_SIZE_LARGE".toList := by
  unfold sizeBand at reported
  split at reported
  · next beyond =>
      rw [if_pos beyond, List.mem_singleton.mp reported]
  · next within =>
      rw [if_neg within]
      split at reported
      · next beyond => rw [if_pos beyond, List.mem_singleton.mp reported]
      · next within =>
          rw [if_neg within, List.mem_singleton.mp (List.mem_ite_nil_right.mp reported).2]

theorem mem_codes_sizeBand {code : Text} (reported : code ∈ (htmlSize.evaluate page).map (·.code))
    (other : code ≠ "RENDER_HTML_SIZE_CRITICAL".toList)
    : code ∈ (sizeBand page.shape.bytes).map (·.code) := by
  obtain ⟨finding, evaluated, rfl⟩ := List.mem_map.mp reported
  rcases List.mem_append.mp evaluated with band | critical
  · exact List.mem_map_of_mem band
  · exact absurd (congrArg Kind.code (kind_of_mem_sizeCritical critical)) other

theorem isSome_behindTitle? {tags : List Tag} {tag : Tag} (member : tag ∈ tags)
    (opens : tag.opens "title")
    : (behindTitle? tags).isSome :=
  Tag.isSome_of_search (fun _ _ => rfl) member opens

theorem title_of_mem_titleAfter {head : Head} {other : Option Nat} {code message : Text}
    (reported : finding ∈ titleAfter page head other code message)
    : head.title.isSome := by
  unfold titleAfter at reported
  split at reported
  · next remembered =>
      rw [remembered]
      rfl
  · cases reported

/-- A title that stands behind other tags of the head is there. -/
theorem titleElement?_of_codes_headOrder {code : Text}
    (located : page.shape.head = Head.locate? page.tags (Text.byteSize page.text))
    (reported : code ∈ (headOrder.evaluate page).map (·.code))
    (other : code ≠ "SEO_HEAD_CHARSET_ORDER".toList)
    : (titleElement? page).isSome := by
  obtain ⟨finding, evaluated, rfl⟩ := List.mem_map.mp reported
  unfold headOrder at evaluated
  dsimp only at evaluated
  split at evaluated
  · next head found =>
      have remembered : head.title.isSome := by
        simp only [List.mem_append] at evaluated
        rcases evaluated with (charset | stylesheet) | script
        · exact absurd (congrArg Kind.code (kind_of_mem_charsetOrder charset)) other
        · exact title_of_mem_titleAfter stylesheet
        · exact title_of_mem_titleAfter script
      rw [located] at found
      obtain ⟨tag, member, opens⟩ := Head.exists_title_of_locate? found remembered
      rw [titleElement?, Option.isSome_map]
      exact isSome_behindTitle? member opens
  · cases evaluated

/-- Codes that exclude each other are not reported about one page, whose head was found among its
tags. Witness: what tells the codes of one rule apart has one answer, and a title that follows other
tags is there.
-/
theorem not_mem_of_excludes {first second : Text} (excludes : Excludes first second)
    : ∃ rule ∈ all, ∃ other ∈ all,
        first ∈ rule.codes
        ∧ second ∈ other.codes
        ∧ ∀ page : Page,
          page.shape.head = Head.locate? page.tags (Text.byteSize page.text)
          → first ∈ (rule.evaluate page).map (·.code)
          → second ∉ (other.evaluate page).map (·.code) := by
  cases excludes with
  | title =>
      refine ⟨title, by simp [all], title, by simp [all], .head _, .tail _ (.head _), ?_⟩
      intro page _ length missing
      exact absurd (eq_of_mem_codes (fun _ => code_of_mem_title) length missing) (by decide)
  | description =>
      refine ⟨metaDescription, by simp [all], metaDescription, by simp [all], .head _,
        .tail _ (.head _), ?_⟩
      intro page _ length missing
      exact absurd (eq_of_mem_codes (fun _ => code_of_mem_metaDescription) length missing)
        (by decide)
  | largeExcessive =>
      refine ⟨htmlSize, by simp [all], htmlSize, by simp [all], .head _, .tail _ (.head _), ?_⟩
      intro page _ large excessive
      exact absurd
        (eq_of_mem_codes (fun _ => code_of_mem_sizeBand) (mem_codes_sizeBand large (by decide))
          (mem_codes_sizeBand excessive (by decide)))
        (by decide)
  | largeLimit =>
      refine ⟨htmlSize, by simp [all], htmlSize, by simp [all], .head _,
        .tail _ (.tail _ (.head _)), ?_⟩
      intro page _ large limit
      exact absurd
        (eq_of_mem_codes (fun _ => code_of_mem_sizeBand) (mem_codes_sizeBand large (by decide))
          (mem_codes_sizeBand limit (by decide)))
        (by decide)
  | excessiveLimit =>
      refine ⟨htmlSize, by simp [all], htmlSize, by simp [all], .tail _ (.head _),
        .tail _ (.tail _ (.head _)), ?_⟩
      intro page _ excessive limit
      exact absurd
        (eq_of_mem_codes (fun _ => code_of_mem_sizeBand)
          (mem_codes_sizeBand excessive (by decide)) (mem_codes_sizeBand limit (by decide)))
        (by decide)
  | afterStylesheet =>
      refine ⟨headOrder, by simp [all], title, by simp [all], .tail _ (.head _),
        .tail _ (.head _), ?_⟩
      intro page located after missing
      exact titleElement?_of_codes_title missing
        (titleElement?_of_codes_headOrder located after (by decide))
  | afterScript =>
      refine ⟨headOrder, by simp [all], title, by simp [all], .tail _ (.tail _ (.head _)),
        .tail _ (.head _), ?_⟩
      intro page located after missing
      exact titleElement?_of_codes_title missing
        (titleElement?_of_codes_headOrder located after (by decide))

-----------------------------------------------------------------------------------------
-- Codes that go together
-----------------------------------------------------------------------------------------

/-- (StepsUp lower upper) says that two codes are about a limit and the next higher one. -/
inductive StepsUp : Text → Text → Prop where
  | elements : StepsUp "RENDER_DOM_SIZE_LARGE" "RENDER_DOM_SIZE_EXCESSIVE"
  | levels : StepsUp "RENDER_DOM_DEPTH_DEEP" "RENDER_DOM_DEPTH_EXCESSIVE"
  | weight : StepsUp "BUNDLE_SIZE_LARGE" "BUNDLE_SIZE_EXCESSIVE"

section

variable {limit : Nat} {code : Text} {severity : Severity} {help : Option Text}

theorem codes_elementsOver
    : (elementsOver page limit code severity help).map (·.code)
      = if limit < page.shape.elements then [code] else [] := by
  rw [elementsOver]
  split <;> rfl

theorem codes_levelsOver
    : (levelsOver page limit code severity help).map (·.code)
      = if limit < page.shape.depth then [code] else [] := by
  rw [levelsOver]
  split <;> rfl

theorem codes_weightOver {total : Nat}
    : (weightOver total limit code severity help).map (·.code)
      = if limit < total then [code] else [] := by
  rw [weightOver]
  split <;> rfl

end

/-- Codes of which the second one is reported beyond a higher limit are reported one behind the
other.
-/
theorem infix_of_limits (codes : List Text) {measure lower upper : Nat} {first second : Text}
    (lowerFirst : lower ≤ upper) (different : second ≠ first) (absent : second ∉ codes)
    (reported
      : second
        ∈ codes ++ (if lower < measure then [first] else [])
          ++ (if upper < measure then [second] else []))
    : [first, second]
      <:+: codes ++ (if lower < measure then [first] else [])
          ++ (if upper < measure then [second] else []) := by
  have beyond : upper < measure := by
    by_contra within
    rw [if_neg within, List.append_nil] at reported
    rcases List.mem_append.mp reported with front | only
    · exact absent front
    · exact different (List.mem_singleton.mp (List.mem_ite_nil_right.mp only).2)
  rw [if_pos beyond, if_pos (Nat.lt_of_le_of_lt lowerFirst beyond)]
  exact ⟨codes, [], by simp⟩

theorem codes_domSize
    : (domSize.evaluate page).map (·.code)
      = (if 800 < page.shape.elements then ["RENDER_DOM_SIZE_LARGE".toList] else [])
        ++ (if 1500 < page.shape.elements then ["RENDER_DOM_SIZE_EXCESSIVE".toList] else []) := by
  unfold domSize
  dsimp only
  rw [List.map_append, codes_elementsOver, codes_elementsOver]

theorem codes_domDepth
    : (domDepth.evaluate page).map (·.code)
      = (if 25 < page.shape.depth then ["RENDER_DOM_DEPTH_DEEP".toList] else [])
        ++ (if 32 < page.shape.depth then ["RENDER_DOM_DEPTH_EXCESSIVE".toList] else []) := by
  unfold domDepth
  dsimp only
  rw [List.map_append, codes_levelsOver, codes_levelsOver]

theorem codes_heavyImports
    : (heavyImports.evaluate page).map (·.code)
      = List.replicate (heavyOnes page).length "BUNDLE_HEAVY_DEPENDENCY".toList
        ++ (if 500 < totalWeight (heavyOnes page) then ["BUNDLE_SIZE_LARGE".toList] else [])
        ++ (if 1000 < totalWeight (heavyOnes page) then ["BUNDLE_SIZE_EXCESSIVE".toList]
            else []) := by
  have heavy
      : ((heavyOnes page).map (fun heavy => heavyFinding heavy.1 heavy.2)).map (·.code)
        = List.replicate (heavyOnes page).length "BUNDLE_HEAVY_DEPENDENCY".toList := by
    rw [List.map_map, ← List.map_const]
    rfl
  unfold heavyImports
  dsimp only
  rw [List.map_append, List.map_append, heavy, codes_weightOver, codes_weightOver]

/-- Beyond a higher limit the finding about the lower one comes directly before. -/
theorem infix_of_stepsUp {lower upper : Text} (steps : StepsUp lower upper)
    : ∃ rule ∈ all,
        upper ∈ rule.codes
        ∧ ∀ page : Page,
          upper ∈ (rule.evaluate page).map (·.code)
          → [lower, upper] <:+: (rule.evaluate page).map (·.code) := by
  cases steps with
  | elements =>
      refine ⟨domSize, by simp [all], .tail _ (.head _), fun page reported => ?_⟩
      rw [codes_domSize] at reported ⊢
      exact infix_of_limits [] (by decide) (by decide) List.not_mem_nil reported
  | levels =>
      refine ⟨domDepth, by simp [all], .tail _ (.head _), fun page reported => ?_⟩
      rw [codes_domDepth] at reported ⊢
      exact infix_of_limits [] (by decide) (by decide) List.not_mem_nil reported
  | weight =>
      refine ⟨heavyImports, by simp [all], .tail _ (.tail _ (.head _)), fun page reported => ?_⟩
      rw [codes_heavyImports] at reported ⊢
      refine infix_of_limits _ (by decide) (by decide) (fun heavy => ?_) reported
      exact absurd (List.eq_of_mem_replicate heavy) (by decide)

theorem sizeLimit_mem_sizeBand {bytes : Nat} (beyond : 10 * megabyte < bytes)
    : "RENDER_HTML_SIZE_LIMIT".toList ∈ (sizeBand bytes).map (·.code) := by
  rw [sizeBand, if_pos beyond]
  exact List.mem_singleton_self _

/-- A page close to the ceiling of the renderer is beyond the highest band. -/
theorem sizeLimit_of_sizeCritical
    (critical
      : "RENDER_HTML_SIZE_CRITICAL".toList ∈ (htmlSize.evaluate page).map (·.code))
    : "RENDER_HTML_SIZE_LIMIT".toList ∈ (htmlSize.evaluate page).map (·.code) := by
  obtain ⟨finding, reported, code⟩ := List.mem_map.mp critical
  have beyond : 14 * megabyte < page.shape.bytes := by
    rcases List.mem_append.mp reported with band | own
    · rw [code_of_mem_sizeBand band] at code
      split at code
      · exact absurd code (by decide)
      · split at code <;> exact absurd code (by decide)
    · exact (List.mem_ite_nil_right.mp own).1
  have limit : 10 * megabyte < page.shape.bytes := Nat.lt_trans (by decide) beyond
  unfold htmlSize
  dsimp only
  rw [List.map_append]
  exact List.mem_append_left _ (sizeLimit_mem_sizeBand limit)

/-- Where the total weight is large, some import is heavy. -/
theorem heavyDependency_of_sizeLarge
    (large : "BUNDLE_SIZE_LARGE".toList ∈ (heavyImports.evaluate page).map (·.code))
    : "BUNDLE_HEAVY_DEPENDENCY".toList ∈ (heavyImports.evaluate page).map (·.code) := by
  rw [codes_heavyImports] at large ⊢
  have some : (heavyOnes page).length ≠ 0 := by
    intro none
    rw [List.length_eq_zero_iff.mp none] at large
    exact absurd large (by decide)
  refine List.mem_append_left _ (List.mem_append_left _ ?_)
  exact List.mem_replicate.mpr ⟨some, rfl⟩

/-- Every script that stops rendering is an external one. -/
theorem externalScripts_of_blockingScripts
    (many
      : page.policy.maxExternalScripts
        < ((blockingScripts.evaluate page).map (·.code)).count "PERF_BLOCKING_SCRIPT".toList)
    : "PERF_THIRD_PARTY_SCRIPTS".toList ∈ (externalScripts.evaluate page).map (·.code) := by
  have fewer : ((blockingScripts.evaluate page).map (·.code)).count "PERF_BLOCKING_SCRIPT".toList
      ≤ (page.tags.filter isExternalScript).length := by
    calc ((blockingScripts.evaluate page).map (·.code)).count "PERF_BLOCKING_SCRIPT".toList
        ≤ ((blockingScripts.evaluate page).map (·.code)).length := List.count_le_length
      _ = (page.tags.filter blocksRendering).length :=
        (List.length_map _).trans (List.length_map _)
      _ ≤ (page.tags.filter isExternalScript).length := by
        refine (List.monotone_filter_right page.tags fun tag blocks => ?_).length_le
        simp only [blocksRendering, Bool.and_eq_true] at blocks
        exact blocks.1.1.1.1
  have beyond := Nat.lt_of_lt_of_le many fewer
  unfold externalScripts
  dsimp only
  rw [List.getElem?_eq_getElem beyond]
  exact List.mem_singleton_self _

end Rule

end PageAudit
