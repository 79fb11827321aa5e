import PageAudit.Proofs.Audit.Occurrence
import PageAudit.Proofs.Markup.Threshold
import PageAudit.Proofs.Rule.Fonts
import PageAudit.Proofs.Text.Trim

/-! Where an audit reports that a page has more than a limit allows. Whether it does is decided by a
measure of the whole page and the place is searched for apart from that, so the two have to agree:
the place is the tag at which the measure passes the limit.
-/

namespace PageAudit

open Markup (tokenize)

/-- The tags in front of a tag of a document end where it starts or before. -/
theorem Tag.Cut.starts_behind {text : Text} {tag : Tag} {cut : Tag.Cut (tokenize text)}
    (early : tag ∈ cut.front)
    : tag.span.start < cut.tag.span.start ∧ tag.span.stop ≤ cut.tag.span.start := by
  have ordered := Markup.tokenize_ordered text
  rw [cut.split, List.pairwise_append] at ordered
  have stop := ordered.2.2 tag early cut.tag List.mem_cons_self
  have listed : tag ∈ tokenize text := by
    rw [cut.split]
    exact List.mem_append_left _ early
  have nonempty := (Markup.standsIn_of_mem_tokenize listed).wellFormedIn.nonempty
  exact ⟨Nat.lt_of_lt_of_le nonempty stop, stop⟩

-----------------------------------------------------------------------------------------
-- Levels
-----------------------------------------------------------------------------------------

namespace Rule

/-- (LevelLimit limit code) says that a code is reported for more levels than a limit. -/
inductive LevelLimit : Nat → Text → Prop where
  | deep : LevelLimit 25 "RENDER_DOM_DEPTH_DEEP"
  | excessive : LevelLimit 32 "RENDER_DOM_DEPTH_EXCESSIVE"

variable {page : Page} {limit : Nat} {code : Text} {severity : Severity} {help : Option Text}
  {finding : Finding}

/-- Too many levels are reported at the tag at which the depth passes the limit. -/
theorem exists_passes_of_mem_levelsOver
    (measured : page.shape.depth = (Nesting.ofTags page.tables.void page.tags).deepest)
    (reported : finding ∈ levelsOver page limit code severity help)
    : ∃ cut : Tag.Cut page.tags,
        cut.Passes (Nesting.depthOf page.tables.void) limit ∧ finding.span = cut.tag.span := by
  rw [levelsOver, List.mem_ite_nil_right, List.mem_singleton, measured] at reported
  obtain ⟨exceeded, rfl⟩ := reported
  obtain ⟨cut, passes⟩ := Nesting.exists_passes_depthOf_iff.mpr exceeded
  refine ⟨cut, passes, ?_⟩
  dsimp only
  rw [Nesting.crossing?_of_passes passes, spanOf]

/-- Of the findings about levels those with the code of a limit are about that limit. -/
theorem exists_mem_levelsOver (level : LevelLimit limit code)
    (reported : finding ∈ domDepth.evaluate page) (about : finding.code = code)
    : ∃ severity help, finding ∈ levelsOver page limit code severity help := by
  rcases List.mem_append.mp reported with deep | excessive
  · have own : finding.code = _ := congrArg Kind.code (kind_of_mem_levelsOver deep)
    cases level with
    | deep => exact ⟨_, _, deep⟩
    | excessive => exact absurd (own.symm.trans about) (by decide)
  · have own : finding.code = _ := congrArg Kind.code (kind_of_mem_levelsOver excessive)
    cases level with
    | deep => exact absurd (own.symm.trans about) (by decide)
    | excessive => exact ⟨_, _, excessive⟩

end Rule

namespace Auditor

variable {policy : Policy} {tables : Tables} {fileName text code : Text} {limit : Nat}
  {finding : Finding}

theorem exists_passes_of_level (level : Rule.LevelLimit limit code)
    (reported : finding ∈ (full policy tables).findingsOf fileName text code)
    : ∃ cut : Tag.Cut (tokenize text),
        cut.Passes (Nesting.depthOf tables.void) limit ∧ finding.span = cut.tag.span := by
  have listed : Rule.domDepth ∈ Rule.all := by simp [Rule.all]
  obtain ⟨audited, about⟩ := mem_findingsOf.mp reported
  have declared : finding.code ∈ Rule.domDepth.codes := by
    rw [about]
    cases level with
    | deep => exact .head _
    | excessive => exact .tail _ (.head _)
  obtain ⟨evaluated, fromRule, rfl⟩ := exists_reported listed declared audited
  obtain ⟨severity, help, exceeding⟩ := Rule.exists_mem_levelsOver level fromRule about
  obtain ⟨cut, passes, span⟩ := Rule.exists_passes_of_mem_levelsOver rfl exceeding
  refine ⟨cut, passes, ?_⟩
  have lies := (Markup.standsIn_of_mem_tokenize cut.tag_mem).span_liesIn
  rw [← span] at lies
  rw [Finding.span_settle lies, span]

/-- Too many levels are reported at the first tag behind which the depth exceeds the limit. The
depth is one above the limit there, the tag opens an element, and the search for it finds it. The
finding about the higher limit starts behind the one about the lower limit.
-/
theorem audit_level_anchors (policy : Policy) (tables : Tables) (fileName text : Text)
    : let tags := tokenize text
      let findings := (full policy tables).findingsOf fileName text
      (∀ limit code,
        Rule.LevelLimit limit code
        → ∀ finding ∈ findings code,
          ∃ cut : Tag.Cut tags,
            cut.Passes (Nesting.depthOf tables.void) limit
            ∧ cut.tag.kind = .opening
            ∧ tables.void.isVoid cut.tag = false
            ∧ Nesting.crossing? tables.void limit tags = some cut.tag
            ∧ finding.span = cut.tag.span)
      ∧ ∀ deep ∈ findings "RENDER_DOM_DEPTH_DEEP",
        ∀ excessive ∈ findings "RENDER_DOM_DEPTH_EXCESSIVE",
          deep.span.start < excessive.span.start ∧ deep.span.stop ≤ excessive.span.start := by
  intro tags findings
  constructor
  · intro limit code level finding reported
    obtain ⟨cut, passes, span⟩ := exists_passes_of_level level reported
    have opens := Nesting.opensElement_of_passes passes
    rw [VoidElements.opensElement, Bool.and_eq_true, beq_iff_eq, Bool.not_eq_true'] at opens
    exact ⟨cut, passes, opens.1, opens.2, Nesting.crossing?_of_passes passes, span⟩
  · intro deep deepReported excessive excessiveReported
    obtain ⟨early, first, span⟩ := exists_passes_of_level .deep deepReported
    obtain ⟨late, second, lateSpan⟩ := exists_passes_of_level .excessive excessiveReported
    rw [span, lateSpan]
    exact Tag.Cut.starts_behind (first.tag_mem_front (by decide) second)

/-- Of elements nested too deeply the one on the first level beyond each limit is reported, also
when an element ended before.
-/
theorem audit_level_anchors_nested
    : let text := "<i></i>".toList ++ (List.replicate 33 "<b>".toList).flatten
      let findings := (full .standard .standard).findingsOf "page.html" text
      ∃ deep ∈ findings "RENDER_DOM_DEPTH_DEEP",
        ∃ excessive ∈ findings "RENDER_DOM_DEPTH_EXCESSIVE",
          deep.span = { start := 82, stop := 85 }
          ∧ deep.span.start < excessive.span.start
          ∧ ∃ cut : Tag.Cut (tokenize text),
            cut.Passes (Nesting.depthOf VoidElements.html) 25 ∧ deep.span = cut.tag.span := by
  intro text findings
  have both
      : (∃ deep ∈ findings "RENDER_DOM_DEPTH_DEEP", deep.span = { start := 82, stop := 85 })
        ∧ findings "RENDER_DOM_DEPTH_EXCESSIVE" ≠ [] := by
    decide +kernel
  obtain ⟨⟨deep, reported, span⟩, more⟩ := both
  obtain ⟨excessive, excessiveReported⟩ := List.exists_mem_of_ne_nil _ more
  obtain ⟨anchors, ordered⟩ := audit_level_anchors .standard .standard "page.html" text
  obtain ⟨cut, passes, -, -, -, anchor⟩ := anchors 25 _ .deep deep reported
  exact ⟨deep, reported, excessive, excessiveReported, span,
    (ordered deep reported excessive excessiveReported).1, cut, passes, anchor⟩

end Auditor

-----------------------------------------------------------------------------------------
-- Counts
-----------------------------------------------------------------------------------------

/-- What a finding shows: its message and the span that it is about. -/
def Finding.shown (finding : Finding) : Text × Span :=
  (finding.message, finding.span)

theorem Finding.shown_settleAll {text : Text} {findings : List Finding}
    (lie : LieIn text findings)
    : (settleAll text findings).map shown = findings.map shown := by
  rw [settleAll_eq, List.map_map]
  refine List.map_congr_left fun finding member => ?_
  exact congrArg (Prod.mk finding.message) (span_settle (lie finding member))

namespace Rule

/-- The counts of tags that have a limit. -/
inductive Tally where
  | elements
  | manyElements
  | externalScripts
  | fontPreloads

namespace Tally

/-- The code that is reported for more tags than the limit. -/
def code : Tally → Text
  | elements => "RENDER_DOM_SIZE_LARGE"
  | manyElements => "RENDER_DOM_SIZE_EXCESSIVE"
  | externalScripts => "PERF_THIRD_PARTY_SCRIPTS"
  | fontPreloads => "PERF_FONT_PRELOAD_EXCESS"

def limit (policy : Policy) : Tally → Nat
  | elements => 800
  | manyElements => 1500
  | externalScripts => policy.maxExternalScripts
  | fontPreloads => 4

/-- (tally.Counts void tag) says that a tag counts. -/
def Counts (void : VoidElements) (tag : Tag) : Tally → Prop
  | elements | manyElements => tag.kind = .opening ∧ void.isVoid tag = false
  | externalScripts =>
      tag.kind ≠ .closing
      ∧ tag.hasName "script"
      ∧ ∃ source ∈ tag.attribute? "src", ∃ char ∈ source, ¬ Text.isBlank char
  | fontPreloads =>
      tag.kind ≠ .closing
      ∧ tag.hasName "link"
      ∧ tag.attributeHasToken "rel" "preload"
      ∧ tag.attributeIs "as" "font"

/-- The message about a count. -/
def message (count limit : Nat) : Tally → Text
  | elements | manyElements =>
      Text.ofNat count ++ " elements (more than ".toList ++ Text.ofNat limit ++ ")".toList
  | externalScripts =>
      "Page loads ".toList ++ Text.ofNat count ++ " external scripts (limit ".toList
        ++ Text.ofNat limit ++ ")".toList
  | fontPreloads =>
      Text.ofNat count ++ " fonts are preloaded (more than ".toList ++ Text.ofNat limit
        ++ ")".toList

/-- The rule that reports the code. -/
def rule : Tally → Rule
  | elements | manyElements => domSize
  | externalScripts => Rule.externalScripts
  | fontPreloads => fontLoading

/-- The test by which the rule finds the tags that count. -/
def test (void : VoidElements) : Tally → Tag → Bool
  | elements | manyElements => void.opensElement
  | externalScripts => isExternalScript
  | fontPreloads => preloadsFont

theorem counts_iff {void : VoidElements} {tag : Tag} (tally : Tally)
    : tally.Counts void tag ↔ tally.test void tag := by
  cases tally with
  | elements | manyElements =>
      simp [Counts, test, VoidElements.opensElement]
  | externalScripts =>
      have loaded (source : Text)
          : (!(Text.trim source).isEmpty) = true ↔ ∃ char ∈ source, ¬ Text.isBlank char := by
        rw [Bool.not_eq_true', ← Bool.not_eq_true, List.isEmpty_iff, Text.trim_eq_nil_iff]
        simp
      simp only [Counts, test, isExternalScript, Tag.opens, Bool.and_eq_true, bne_iff_ne,
        Option.any_eq_true, loaded, and_assoc, Option.mem_def]
  | fontPreloads =>
      simp only [Counts, test, preloadsFont, Tag.opens, Bool.and_eq_true, bne_iff_ne, and_assoc]

instance (void : VoidElements) (tag : Tag) (tally : Tally) : Decidable (tally.Counts void tag) :=
  decidable_of_iff (tally.test void tag) tally.counts_iff.symm

theorem decide_counts {void : VoidElements} (tally : Tally)
    : (fun tag => decide (tally.Counts void tag)) = tally.test void :=
  funext fun tag => by rw [Bool.eq_iff_iff, decide_eq_true_eq, counts_iff]

end Tally

-----------------------------------------------------------------------------------------
-- What is shown for a count
-----------------------------------------------------------------------------------------

namespace Tally

variable {tally : Tally} {counted : Tag → Bool} {limit : Nat} {tags : List Tag}

/-- (tally.excess counted limit tags) is what is shown when more tags pass a test than a limit
allows: their number, and the span of the one whose index is the limit.
-/
def excess (tally : Tally) (counted : Tag → Bool) (limit : Nat) (tags : List Tag)
    : List (Text × Span) :=
  ((tags.filter counted)[limit]?).toList.map fun tag =>
    (tally.message (tags.countP counted) limit, tag.span)

theorem excess_ne_nil_iff : tally.excess counted limit tags ≠ [] ↔ limit < tags.countP counted := by
  rw [excess, ne_eq, List.map_eq_nil_iff, Option.toList_eq_nil_iff, List.getElem?_eq_none_iff,
    Nat.not_le, List.countP_eq_length_filter]

/-- What is shown is about the tag at which the count passes the limit. -/
theorem passes_of_mem_excess {shown : Text × Span}
    (member : shown ∈ tally.excess counted limit tags)
    : shown.1 = tally.message (tags.countP counted) limit
      ∧ ∃ cut : Tag.Cut tags,
        cut.Passes (List.countP counted) limit ∧ shown.2 = cut.tag.span := by
  obtain ⟨tag, found, rfl⟩ := List.mem_map.mp member
  obtain ⟨cut, passes, rfl⟩ := getElem?_filter_eq_some_iff.mp (Option.mem_toList.mp found)
  exact ⟨rfl, cut, passes, rfl⟩

end Tally

variable {page : Page} {limit : Nat} {code : Text} {severity : Severity} {help : Option Text}

/-- Too many elements are counted by the page and searched for among its tags. -/
theorem shown_elementsOver
    (measured : page.shape.elements = page.tags.countP page.tables.void.opensElement)
    : (elementsOver page limit code severity help).map (·.shown)
      = Tally.elements.excess page.tables.void.opensElement limit page.tags := by
  rw [elementsOver, elementBeyond, measured, Tally.excess]
  cases found : (page.tags.filter page.tables.void.opensElement)[limit]? with
  | none =>
      rw [List.getElem?_eq_none_iff, ← List.countP_eq_length_filter] at found
      rw [if_neg (Nat.not_lt_of_le found)]
      rfl
  | some tag =>
      obtain ⟨exceeded, -⟩ := List.getElem?_eq_some_iff.mp found
      rw [← List.countP_eq_length_filter] at exceeded
      rw [if_pos exceeded]
      rfl

theorem shown_externalScripts
    : (externalScripts.evaluate page).map (·.shown)
      = Tally.externalScripts.excess isExternalScript page.policy.maxExternalScripts page.tags := by
  rw [Tally.excess, List.countP_eq_length_filter]
  unfold externalScripts
  dsimp only
  cases (page.tags.filter isExternalScript)[page.policy.maxExternalScripts]? <;> rfl

theorem shown_excessPreloads
    : (excessPreloads page).map (·.shown)
      = Tally.fontPreloads.excess preloadsFont maxFontPreloads page.tags := by
  rw [Tally.excess, List.countP_eq_length_filter, excessPreloads]
  cases (page.tags.filter preloadsFont)[maxFontPreloads]? <;> rfl

theorem filter_elementsOver (wanted : Text)
    : (elementsOver page limit code severity help).filter (·.code = wanted)
      = if code = wanted then elementsOver page limit code severity help else [] := by
  apply Finding.filter_code
  intro finding reported
  exact congrArg Kind.code (kind_of_mem_elementsOver reported)

theorem filter_externalScripts (wanted : Text)
    : (externalScripts.evaluate page).filter (·.code = wanted)
      = if "PERF_THIRD_PARTY_SCRIPTS".toList = wanted then externalScripts.evaluate page
        else [] := by
  apply Finding.filter_code
  intro finding reported
  exact congrArg Kind.code (kind_of_mem_externalScripts reported)

/-- The findings with the code of a count show its excess. Witness: the other findings of the rule
have another code.
-/
theorem Tally.shown_evaluate (tally : Tally)
    (measured : page.shape.elements = page.tags.countP page.tables.void.opensElement)
    : ((tally.rule.evaluate page).filter (·.code = tally.code)).map (·.shown)
      = tally.excess (tally.test page.tables.void) (tally.limit page.policy) page.tags := by
  cases tally with
  | elements =>
      have own : (domSize.evaluate page).filter (·.code = Tally.elements.code)
          = elementsOver page 800 "RENDER_DOM_SIZE_LARGE" .info none := by
        unfold domSize
        dsimp only
        rw [List.filter_append, filter_elementsOver, filter_elementsOver, if_pos (by decide),
          if_neg (by decide), List.append_nil]
      exact (congrArg _ own).trans (shown_elementsOver measured)
  | manyElements =>
      have own : (domSize.evaluate page).filter (·.code = Tally.manyElements.code)
          = elementsOver page 1500 "RENDER_DOM_SIZE_EXCESSIVE" .error
              (some "Virtualize long lists and remove wrapper elements".toList) := by
        unfold domSize
        dsimp only
        rw [List.filter_append, filter_elementsOver, filter_elementsOver, if_neg (by decide),
          if_pos (by decide), List.nil_append]
      exact (congrArg _ own).trans (shown_elementsOver measured)
  | externalScripts =>
      have own : (Rule.externalScripts.evaluate page).filter (·.code = Tally.externalScripts.code)
          = Rule.externalScripts.evaluate page := by
        rw [filter_externalScripts, if_pos (by decide)]
      exact (congrArg _ own).trans shown_externalScripts
  | fontPreloads =>
      have display
          : (if page.policy.requireFontSwap then hiddenText page else []).filter
                (·.code = Tally.fontPreloads.code)
            = [] := by
        refine List.filter_eq_nil_iff.mpr fun finding reported => ?_
        have other : finding.code = _ :=
          congrArg Kind.code (kind_of_mem_hiddenText (List.mem_ite_nil_right.mp reported).2)
        rw [other]
        decide
      have own : (fontLoading.evaluate page).filter (·.code = Tally.fontPreloads.code)
          = excessPreloads page := by
        unfold fontLoading
        dsimp only
        rw [List.filter_append, display, filter_excessPreloads, if_pos (by decide),
          List.nil_append]
      exact (congrArg _ own).trans shown_excessPreloads

end Rule

namespace Auditor

open Rule (Tally)

theorem shown_findingsOf_tally (policy : Policy) (tables : Tables) (fileName text : Text)
    (tally : Tally)
    : ((full policy tables).findingsOf fileName text tally.code).map (·.shown)
      = tally.excess (tally.test tables.void) (tally.limit policy) (tokenize text) := by
  have listed : tally.rule ∈ Rule.all := by cases tally <;> simp [Tally.rule, Rule.all]
  have declared : tally.code ∈ tally.rule.codes := by
    cases tally with
    | elements | externalScripts => exact .head _
    | manyElements | fontPreloads => exact .tail _ (.head _)
  let page := Page.ofText policy tables fileName text
  have shown
      : ((tally.rule.evaluate page).filter (·.code = tally.code)).map (·.shown) = _ :=
    tally.shown_evaluate rfl
  have lie : Finding.LieIn text ((tally.rule.evaluate page).filter (·.code = tally.code)) := by
    intro finding reported
    have excess := List.mem_map_of_mem (f := Finding.shown) reported
    rw [shown] at excess
    obtain ⟨-, cut, -, span⟩ := Tally.passes_of_mem_excess excess
    have lies := (Markup.standsIn_of_mem_tokenize cut.tag_mem).span_liesIn
    rwa [← span] at lies
  rw [findingsOf_full listed declared, Finding.shown_settleAll lie, shown]
  rfl

/-- More tags than a limit are reported exactly when there are more. The message has their number,
and the finding is about the one tag that counts and has as many in front of it as the limit says.
-/
theorem audit_count_anchors (policy : Policy) (tables : Tables) (fileName text : Text)
    (tally : Tally)
    : let tags := tokenize text
      let counts := fun tag => decide (tally.Counts tables.void tag)
      let limit := tally.limit policy
      ((full policy tables).Reports fileName text tally.code ↔ limit < tags.countP counts)
      ∧ ∀ finding ∈ (full policy tables).findingsOf fileName text tally.code,
          finding.message = tally.message (tags.countP counts) limit
          ∧ ∃ cut : Tag.Cut tags,
              (counts cut.tag ∧ cut.front.countP counts = limit)
              ∧ (∀ other : Tag.Cut tags,
                  counts other.tag → other.front.countP counts = limit → other = cut)
              ∧ (tags.filter counts)[limit]? = some cut.tag
              ∧ finding.span = cut.tag.span := by
  intro tags counts limit
  have shown := shown_findingsOf_tally policy tables fileName text tally
  rw [← tally.decide_counts] at shown
  constructor
  · rw [reports_iff_findingsOf, ne_eq, ← List.map_eq_nil_iff (f := Finding.shown), shown]
    exact Tally.excess_ne_nil_iff
  · intro finding reported
    have excess := List.mem_map_of_mem (f := Finding.shown) reported
    rw [shown] at excess
    obtain ⟨message, cut, passes, span⟩ := Tally.passes_of_mem_excess excess
    have index : (tags.filter counts)[limit]? = some cut.tag :=
      getElem?_filter_eq_some_iff.mpr ⟨cut, passes, rfl⟩
    refine ⟨message, cut, Tag.Cut.passes_countP_iff.mp passes, ?_, index, span⟩
    intro other counted front
    exact Tag.Cut.Passes.unique (Tag.Cut.passes_countP_iff.mpr ⟨counted, front⟩) passes

/-- Where no external script is allowed the first one is reported, behind a script with a blank
source and with the name of a component.
-/
theorem audit_count_anchors_scripts
    : let policy := { Policy.standard with maxExternalScripts := 0 }
      let text := "<script src=' '></script><Script src=a/><script src=b></script>".toList
      let findings := (full policy .standard).findingsOf "page.html" text
      ∃ finding ∈ findings "PERF_THIRD_PARTY_SCRIPTS",
        finding.message = "Page loads 2 external scripts (limit 0)".toList
        ∧ ∃ cut : Tag.Cut (tokenize text),
          (tokenize text)[2]? = some cut.tag ∧ finding.span = cut.tag.span := by
  intro policy text findings
  obtain ⟨reports, anchors⟩ :=
    audit_count_anchors policy .standard "page.html" text .externalScripts
  have exceeded := reports.mpr (by decide +kernel)
  obtain ⟨finding, reported⟩ := List.exists_mem_of_ne_nil _ (reports_iff_findingsOf.mp exceeded)
  obtain ⟨message, cut, -, -, index, span⟩ := anchors finding reported
  refine ⟨finding, reported, message.trans (by decide +kernel), cut, ?_, span⟩
  rw [← index]
  decide +kernel

end Auditor

end PageAudit
