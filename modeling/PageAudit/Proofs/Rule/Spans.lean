import Mathlib.Data.List.Basic
import PageAudit.Proofs.Bundle.Import
import PageAudit.Proofs.Rule.Page
import PageAudit.Rule.Registry

/-! Every rule reports spans that lie in the text of its page, so that no span has to be clamped. -/

namespace PageAudit

/-- (Finding.LieIn text findings) says that the span of each finding lies in the text. -/
def Finding.LieIn (text : Text) (findings : List Finding) : Prop :=
  ∀ finding ∈ findings, finding.span.LiesIn text

/-- A rule is grounded when its findings about any page that is faithful to its text lie there. -/
def Rule.Grounded (rule : Rule) : Prop :=
  ∀ page : Page, page.Faithful → Finding.LieIn page.text (rule.evaluate page)

namespace Finding

variable {text : Text}

@[simp] theorem lieIn_nil : LieIn text [] := by
  simp [LieIn]

@[simp] theorem lieIn_singleton {finding : Finding}
    : LieIn text [finding] ↔ finding.span.LiesIn text := by
  simp [LieIn]

@[simp] theorem lieIn_append {first second : List Finding}
    : LieIn text (first ++ second) ↔ LieIn text first ∧ LieIn text second :=
  List.forall_mem_append

/-- Findings that are only reported in some case lie in a text when those of each case do. -/
theorem lieIn_ite {condition : Prop} [Decidable condition] {first second : List Finding}
    (whenTrue : LieIn text first) (otherwise : LieIn text second)
    : LieIn text (if condition then first else second) := by
  split
  · exact whenTrue
  · exact otherwise

/-- Findings about things of a list lie in a text when those about each one do. -/
theorem lieIn_flatMap {α : Type} {items : List α} {about : α → List Finding}
    (each : ∀ item ∈ items, LieIn text (about item))
    : LieIn text (items.flatMap about) := by
  intro finding member
  obtain ⟨item, listed, reported⟩ := List.mem_flatMap.mp member
  exact each item listed finding reported

theorem lieIn_filterMap {α : Type} {items : List α} {about? : α → Option Finding}
    (each : ∀ item ∈ items, ∀ finding ∈ about? item, finding.span.LiesIn text)
    : LieIn text (items.filterMap about?) := by
  intro finding member
  obtain ⟨item, listed, reported⟩ := List.mem_filterMap.mp member
  exact each item listed finding reported

theorem lieIn_map {α : Type} {items : List α} {about : α → Finding}
    (each : ∀ item ∈ items, (about item).span.LiesIn text)
    : LieIn text (items.map about) :=
  List.forall_mem_map.mpr each

end Finding

namespace Rule

open Finding

variable {page : Page} (faithful : page.Faithful)

-----------------------------------------------------------------------------------------
-- Metadata
-----------------------------------------------------------------------------------------

/-- The title begins with the first tag that opens one. -/
theorem of_behindTitle?_eq_some {tags following : List Tag} {opening : Tag}
    (found : behindTitle? tags = some (opening, following))
    : ∃ front,
        tags = front ++ opening :: following
        ∧ opening.opens "title"
        ∧ ∀ tag ∈ front, ¬ tag.opens "title" :=
  Tag.split_of_search rfl (fun _ _ => rfl) found

include faithful in
/-- The element of the title begins where its tag does, and it ends where another tag begins or
ends, or with the text.
-/
theorem titleElement?_liesIn {element : TitleElement} (found : titleElement? page = some element)
    : element.span.LiesIn page.text := by
  obtain ⟨⟨opening, following⟩, behind, rfl⟩ := Option.map_eq_some_iff.mp found
  obtain ⟨front, tags, -⟩ := of_behindTitle?_eq_some behind
  have listed (tag : Tag) (member : tag ∈ opening :: following) : tag ∈ page.tags := by
    rw [tags]
    exact List.mem_append_right front member
  have lies (tag : Tag) (member : tag ∈ opening :: following) : tag.span.LiesIn page.text :=
    faithful.span_liesIn (listed tag member)
  have start := (lies opening List.mem_cons_self).start
  refine Span.LiesIn.between start ?_
  cases closing : following.find? (·.closes opening.name) with
  | some tag => exact (lies tag (.tail _ (List.mem_of_find?_eq_some closing))).stop
  | none =>
      cases next : following.head? with
      | some tag => exact (lies tag (.tail _ (List.mem_of_head? next))).start
      | none => exact Text.isBoundary_byteSize page.text

theorem title_grounded : title.Grounded := by
  intro page faithful
  have anchor := faithful.headAnchor_liesIn
  unfold title
  dsimp only
  split
  · next element found =>
      have lies := titleElement?_liesIn faithful found
      exact lieIn_ite lieIn_nil (lieIn_ite (lieIn_singleton.mpr lies) lieIn_nil)
  · exact lieIn_ite (lieIn_singleton.mpr anchor) lieIn_nil

theorem metaDescription_grounded : metaDescription.Grounded := by
  intro page faithful
  have anchor := faithful.headAnchor_liesIn
  unfold metaDescription
  dsimp only
  split
  · next tag found =>
      have listed := (List.mem_filter.mp (List.mem_of_find?_eq_some found)).1
      have lies := faithful.span_liesIn listed
      exact lieIn_ite lieIn_nil (lieIn_ite (lieIn_singleton.mpr lies) lieIn_nil)
  · exact lieIn_ite (lieIn_singleton.mpr anchor) lieIn_nil

theorem canonical_grounded : canonical.Grounded :=
  fun page _ =>
    lieIn_ite (lieIn_singleton.mpr (Span.LiesIn.documentStart page.text)) lieIn_nil

/-- A hint is a word in the text, or it stands at the start of the document. -/
theorem hint?_liesIn {page : Page} {words : List Text} {span : Span}
    (found : hint? page words = some span)
    : span.LiesIn page.text := by
  unfold hint? at found
  split at found
  · next hit first =>
      obtain rfl := Option.some.inj found
      exact (Text.found_of_firstHitFrom? first).liesIn
  · obtain ⟨_, -, rfl⟩ := Option.map_eq_some_iff.mp found
    exact Span.LiesIn.documentStart page.text

theorem structuredDataMissing_liesIn {page : Page} {pageType code : Text} {words : List Text}
    {finding : Finding} (reported : structuredDataMissing page pageType code words = some finding)
    : finding.span.LiesIn page.text := by
  unfold structuredDataMissing at reported
  split at reported
  · obtain ⟨span, hint, rfl⟩ := Option.map_eq_some_iff.mp reported
    exact hint?_liesIn hint
  · cases reported

theorem structuredData_grounded : structuredData.Grounded := by
  intro page faithful
  refine lieIn_ite lieIn_nil (lieIn_append.mpr ⟨?_, ?_⟩)
  · intro finding member
    exact structuredDataMissing_liesIn (Option.mem_toList.mp member)
  · intro finding member
    exact structuredDataMissing_liesIn (Option.mem_toList.mp member)

theorem openGraph_grounded : openGraph.Grounded :=
  fun _ faithful =>
    lieIn_ite (lieIn_singleton.mpr faithful.headAnchor_liesIn) lieIn_nil

include faithful in
/-- What the head remembers is reported at the tag to which it leads. -/
theorem anchorAt_liesIn {head : Head} {distance : Nat} (located : page.shape.head = some head)
    (remembered : some distance ∈ [head.charset, head.title, head.stylesheet, head.script])
    : (anchorAt page (head.absolute distance)).LiesIn page.text := by
  obtain ⟨tag, member, found⟩ := faithful.tagAt?_absolute located remembered
  rw [anchorAt, found]
  exact faithful.span_liesIn member

include faithful in
/-- A late title is reported at the tag of the title. -/
theorem titleAfter_lieIn {head : Head} (located : page.shape.head = some head)
    (other : Option Nat) (code message : Text)
    : LieIn page.text (titleAfter page head other code message) := by
  unfold titleAfter
  split
  · next distance _ title =>
      have remembered
          : some distance ∈ [head.charset, head.title, head.stylesheet, head.script] := by
        simp [title]
      have lies := anchorAt_liesIn faithful located remembered
      exact lieIn_ite (lieIn_singleton.mpr lies) lieIn_nil
  · exact lieIn_nil

theorem headOrder_grounded : headOrder.Grounded := by
  intro page faithful
  unfold headOrder
  dsimp only
  split
  · next head located =>
      have charset : LieIn page.text (charsetOrder page head) := by
        unfold charsetOrder
        split
        · next distance same =>
            have remembered
                : some distance ∈ [head.charset, head.title, head.stylesheet, head.script] := by
              simp [same]
            have lies := anchorAt_liesIn faithful located remembered
            exact lieIn_ite (lieIn_singleton.mpr lies) lieIn_nil
        · exact lieIn_nil
      refine lieIn_append.mpr ⟨lieIn_append.mpr ⟨charset, ?_⟩, ?_⟩
      · exact titleAfter_lieIn faithful located _ _ _
      · exact titleAfter_lieIn faithful located _ _ _
  · exact lieIn_nil

-----------------------------------------------------------------------------------------
-- Loading
-----------------------------------------------------------------------------------------

include faithful in
/-- Some of the tags are in the text as well. -/
theorem filter_liesIn (wanted : Tag → Bool)
    : ∀ tag ∈ page.tags.filter wanted, tag.span.LiesIn page.text :=
  fun _ member => faithful.span_liesIn (List.mem_filter.mp member).1

theorem blockingScripts_grounded : blockingScripts.Grounded :=
  fun _ faithful => lieIn_map (filter_liesIn faithful _)

theorem externalScripts_grounded : externalScripts.Grounded := by
  intro page faithful
  unfold externalScripts
  dsimp only
  split
  · next script found =>
      have listed := List.mem_of_getElem? found
      exact lieIn_singleton.mpr (filter_liesIn faithful _ script listed)
  · exact lieIn_nil

theorem imageAttributes_grounded : imageAttributes.Grounded := by
  intro page faithful
  refine lieIn_flatMap fun tag listed => ?_
  have lies := filter_liesIn faithful _ tag listed
  refine lieIn_append.mpr ⟨lieIn_append.mpr ⟨?_, ?_⟩, ?_⟩
  · exact lieIn_ite lieIn_nil (lieIn_singleton.mpr lies)
  · exact lieIn_ite lieIn_nil (lieIn_singleton.mpr lies)
  · exact lieIn_ite lieIn_nil (lieIn_singleton.mpr lies)

theorem imageComponent_grounded : imageComponent.Grounded := by
  intro page faithful
  refine lieIn_flatMap fun tag listed => ?_
  have lies := filter_liesIn faithful _ tag listed
  refine lieIn_append.mpr ⟨?_, ?_⟩
  · exact lieIn_ite lieIn_nil (lieIn_singleton.mpr lies)
  · exact lieIn_ite (lieIn_singleton.mpr lies) lieIn_nil

theorem inlineImageSize_grounded : inlineImageSize.Grounded := by
  intro page faithful
  refine lieIn_filterMap fun tag listed finding reported => ?_
  have lies := filter_liesIn faithful _ tag listed
  obtain ⟨source, -, reported⟩ := Option.bind_eq_some_iff.mp reported
  obtain ⟨size, -, reported⟩ := Option.bind_eq_some_iff.mp reported
  dsimp only at reported
  split at reported
  · obtain rfl := Option.some.inj reported
    exact lies
  · cases reported

theorem fontLoading_grounded : fontLoading.Grounded := by
  intro page faithful
  refine lieIn_append.mpr ⟨lieIn_ite (lieIn_map fun block member => ?_) lieIn_nil, ?_⟩
  · have listed := (List.mem_filter.mp member).1
    exact (Text.found_of_mem_hitsFrom listed).liesIn
  · unfold excessPreloads
    dsimp only
    split
    · next tag found =>
        have listed := List.mem_of_getElem? found
        exact lieIn_singleton.mpr (filter_liesIn faithful _ tag listed)
    · exact lieIn_nil

theorem resourceHints_grounded : resourceHints.Grounded := by
  intro page faithful
  refine lieIn_ite lieIn_nil ?_
  split
  · exact lieIn_nil
  · next anchor origin others loads =>
      have first : (anchor, origin) ∈ originsIn Web.externalOrigin? page.tags := by simp [loads]
      obtain ⟨tag, listed, origins⟩ := List.mem_filterMap.mp first
      obtain ⟨_, -, same⟩ := Option.map_eq_some_iff.mp origins
      obtain ⟨rfl, -⟩ := Prod.mk.inj same
      exact lieIn_singleton.mpr (faithful.span_liesIn listed)

-----------------------------------------------------------------------------------------
-- Budgets
-----------------------------------------------------------------------------------------

theorem htmlSize_grounded : htmlSize.Grounded := by
  intro page _
  have start := Span.LiesIn.documentStart page.text
  refine lieIn_append.mpr ⟨lieIn_ite ?_ (lieIn_ite ?_ (lieIn_ite ?_ lieIn_nil)),
    lieIn_ite ?_ lieIn_nil⟩
  all_goals exact lieIn_singleton.mpr start

include faithful in
/-- A finding at some tag, or else at the start, lies in the text. -/
theorem spanOf_liesIn {tag : Option Tag} (listed : ∀ found ∈ tag, found ∈ page.tags)
    : (spanOf tag).LiesIn page.text := by
  cases tag with
  | none => exact Span.LiesIn.documentStart page.text
  | some tag => exact faithful.span_liesIn (listed tag rfl)

include faithful in
theorem elementsOver_lieIn (limit : Nat) (code : Text) (severity : Severity) (help : Option Text)
    : LieIn page.text (elementsOver page limit code severity help) := by
  refine lieIn_ite (lieIn_singleton.mpr (spanOf_liesIn faithful fun tag found => ?_)) lieIn_nil
  exact (List.mem_filter.mp (List.mem_of_getElem? found)).1

theorem domSize_grounded : domSize.Grounded :=
  fun _ faithful =>
    lieIn_append.mpr
      ⟨elementsOver_lieIn faithful _ _ _ _, elementsOver_lieIn faithful _ _ _ _⟩

/-- The tag behind which the depth exceeds a limit is one of the stream. -/
theorem mem_of_crossingFrom? {void : VoidElements} {limit : Nat} {nesting : Nesting}
    {tags : List Tag} {tag : Tag}
    (found : Nesting.crossingFrom? void limit nesting tags = some tag)
    : tag ∈ tags := by
  induction tags generalizing nesting with
  | nil => cases found
  | cons first tags ih =>
      rw [Nesting.crossingFrom?] at found
      split at found
      · obtain rfl := Option.some.inj found
        exact List.mem_cons_self
      · exact .tail _ (ih found)

include faithful in
theorem levelsOver_lieIn (limit : Nat) (code : Text) (severity : Severity) (help : Option Text)
    : LieIn page.text (levelsOver page limit code severity help) :=
  lieIn_ite
    (lieIn_singleton.mpr (spanOf_liesIn faithful fun _ found => mem_of_crossingFrom? found))
    lieIn_nil

theorem domDepth_grounded : domDepth.Grounded :=
  fun _ faithful =>
    lieIn_append.mpr ⟨levelsOver_lieIn faithful _ _ _ _, levelsOver_lieIn faithful _ _ _ _⟩

-----------------------------------------------------------------------------------------
-- Bundles
-----------------------------------------------------------------------------------------

theorem heavyImports_grounded : heavyImports.Grounded := by
  intro page _
  have start := Span.LiesIn.documentStart page.text
  refine lieIn_append.mpr ⟨lieIn_append.mpr ⟨lieIn_map ?_, ?_⟩, ?_⟩
  · rintro ⟨found, entry⟩ heavy
    obtain ⟨other, listed, known⟩ := List.mem_filterMap.mp heavy
    obtain ⟨_, -, same⟩ := Option.map_eq_some_iff.mp known
    obtain ⟨rfl, -⟩ := Prod.mk.inj same
    exact (Import.standsIn_of_mem_readAll listed).span_liesIn
  · exact lieIn_ite (lieIn_singleton.mpr start) lieIn_nil
  · exact lieIn_ite (lieIn_singleton.mpr start) lieIn_nil

-----------------------------------------------------------------------------------------
-- The registry
-----------------------------------------------------------------------------------------

/-- All rules are grounded, each one for the way in which it finds its spans. -/
theorem grounded_of_mem_all {rule : Rule} (member : rule ∈ all) : rule.Grounded := by
  have each : List.Forall Grounded all :=
    ⟨title_grounded, metaDescription_grounded, canonical_grounded, structuredData_grounded,
      openGraph_grounded, headOrder_grounded, blockingScripts_grounded,
      externalScripts_grounded, imageAttributes_grounded, imageComponent_grounded,
      inlineImageSize_grounded, fontLoading_grounded, resourceHints_grounded,
      htmlSize_grounded, domSize_grounded, domDepth_grounded, heavyImports_grounded⟩
  exact List.forall_iff_forall_mem.mp each rule member

end Rule

end PageAudit
