import PageAudit.Proofs.Rule.Catalogue
import PageAudit.Proofs.Rule.Reporting

/-! Which images that stand in the document itself are reported. Sizes are compared in whole
kilobytes, so an image is reported from one kilobyte above the budget on.
-/

namespace PageAudit.Rule

/-- A tag shows an image whose content, of a size in bytes, stands in the tag itself. -/
def ShowsInline (tag : Tag) (size : Nat) : Prop :=
  (isPlainImage tag ∨ isImageComponent tag)
  ∧ ∃ source, tag.attribute? "src" = some source ∧ dataSize? source = some size

/-- (Oversized budget slack tag finding) says that a tag shows an inline image of more than `slack`
bytes above a budget in kilobytes, and that the finding says so about the tag.
-/
structure Oversized (budget slack : Nat) (tag : Tag) (finding : Finding) : Prop where
  exceeds : ∃ size,
    ShowsInline tag size
    ∧ budget * 1024 + slack < size
    ∧ finding.message
      = "Inline image is about ".toList ++ Text.ofNat (size / 1024) ++ "KB (budget ".toList
        ++ Text.ofNat budget ++ "KB)".toList
  kind
    : finding.kind
      = { code := "PERF_INLINE_IMAGE_SIZE", severity := .warning, category := .performance }
  span : finding.span = tag.span

/-- More whole kilobytes than the budget are more than 1023 bytes above it. -/
theorem lt_div_iff_above {budget size : Nat}
    : budget < size / 1024 ↔ budget * 1024 + 1023 < size := by
  omega

theorem oversized_of_inlineImageFinding? {budget : Nat} {tag : Tag} {finding : Finding}
    (image : isPlainImage tag ∨ isImageComponent tag)
    (reported : inlineImageFinding? budget tag = some finding)
    : Oversized budget 1023 tag finding := by
  have kind := kind_of_inlineImageFinding? reported
  obtain ⟨source, carried, reported⟩ := Option.bind_eq_some_iff.mp reported
  obtain ⟨size, measured, reported⟩ := Option.bind_eq_some_iff.mp reported
  obtain ⟨above, same⟩ := Option.ite_none_right_eq_some.mp reported
  obtain rfl := Option.some.inj same
  have exceeds : budget * 1024 + 1023 < size := lt_div_iff_above.mp above
  exact ⟨⟨size, ⟨image, source, carried, measured⟩, exceeds, rfl⟩, kind, rfl⟩

theorem exists_inlineImageFinding? {budget : Nat} {tag : Tag} {finding : Finding}
    (oversized : Oversized budget 1023 tag finding)
    : (inlineImageFinding? budget tag).isSome := by
  obtain ⟨size, ⟨-, source, carried, measured⟩, exceeds, -⟩ := oversized.exceeds
  have above : budget < size / 1024 := lt_div_iff_above.mpr exceeds
  rw [inlineImageFinding?, carried, Option.bind_some, measured, Option.bind_some]
  dsimp only
  rw [if_pos above]
  rfl

/-- The tags with an inline image of at least one whole kilobyte above the budget are reported, one
by one and in order. An image that is above it by less is not.
-/
theorem inlineImageSize_reports (page : Page)
    : ReportsEach (Oversized page.policy.imageBudgetKb 1023) page.tags
        (inlineImageSize.evaluate page) := by
  unfold inlineImageSize
  dsimp only
  rw [List.filterMap_filter]
  refine reportsEach_filterMap ?_ ?_
  · intro tag finding found
    rw [Option.ite_none_right_eq_some, Bool.or_eq_true] at found
    exact oversized_of_inlineImageFinding? found.1 found.2
  · intro tag missing finding oversized
    obtain ⟨_, ⟨image, -⟩, -⟩ := oversized.exceeds
    rw [if_pos (Bool.or_eq_true_iff.mpr image)] at missing
    have found := exists_inlineImageFinding? oversized
    rw [missing] at found
    cases found

/-- An image of one byte is above a budget of nothing, and yet it is not reported. -/
theorem inlineImageSize_first_byte
    : let policy := { Policy.standard with imageBudgetKb := 0 }
      let page := Page.ofText policy .standard "page.html" "<img src=\"data:,x\">"
      ¬ ReportsEach (Oversized page.policy.imageBudgetKb 0) page.tags
          (inlineImageSize.evaluate page) := by
  intro policy page reports
  let image : Tag :=
    { kind := .opening, name := "img", span := { start := 0, stop := 19 },
      attributes := [{ name := "src", value := some "data:,x" }] }
  let missed : Finding :=
    { code := "PERF_INLINE_IMAGE_SIZE"
      severity := .warning
      category := .performance
      message := "Inline image is about 0KB (budget 0KB)"
      span := image.span }
  have member : image ∈ page.tags := by decide +kernel
  have shows : ShowsInline image 1 := ⟨.inl (by decide), "data:,x", by decide, by decide⟩
  have oversized : Oversized 0 0 image missed := ⟨⟨1, shows, by decide, by decide⟩, rfl, rfl⟩
  obtain ⟨reported, among, -⟩ := reports.exists_finding member oversized
  have silent : inlineImageSize.evaluate page = [] := by decide +kernel
  rw [silent] at among
  exact absurd among List.not_mem_nil

end PageAudit.Rule
