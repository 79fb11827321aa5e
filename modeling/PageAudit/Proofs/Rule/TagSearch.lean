import PageAudit.Proofs.Markup.TagStream
import PageAudit.Rule.Basic

/-! The search for the tag at an offset by halving finds it, since the tags of a document start at
increasing offsets.
-/

namespace PageAudit.Page

/-- The tags of an array start at strictly increasing offsets. -/
def StartsIncrease (tags : Array Tag) : Prop :=
  tags.toList.Pairwise (fun first second => first.span.start < second.span.start)

theorem StartsIncrease.lt {tags : Array Tag} (increase : StartsIncrease tags) {low high : Nat}
    (less : low < high) (inside : high < tags.size)
    : tags[low].span.start < tags[high].span.start := by
  have pairs := List.pairwise_iff_getElem.mp increase low high
    (by simpa using Nat.lt_trans less inside) (by simpa using inside) less
  simpa using pairs

/-- Halving keeps the part with the tag at the offset and ends with its index. Witness: when the
middle tag starts behind the offset the wanted one is in front of it, and otherwise it is not; the
two parts have a place in each other's bounds, by induction on their size.
-/
theorem narrow_eq {tags : Array Tag} (increase : StartsIncrease tags) {size base index : Nat}
    (low : base ≤ index) (high : index < base + size) (fits : base + size ≤ tags.size)
    : narrow tags (tags[index].span.start) size base = index := by
  induction size using Nat.strongRecOn generalizing base with
  | _ size ih =>
      unfold narrow
      split
      · next several =>
          have middle : base + size / 2 < tags.size := by omega
          simp only [Array.getElem?_eq_getElem middle, Option.any_some, decide_eq_true_eq]
          split
          · next behind =>
              have before : index < base + size / 2 := by
                rcases Nat.lt_trichotomy index (base + size / 2) with less | same | more
                · exact less
                · subst same
                  exact absurd behind (Nat.lt_irrefl _)
                · exact absurd behind (Nat.lt_asymm (increase.lt more (by omega)))
              exact ih (size - size / 2) (by omega) low (by omega) (by omega)
          · next notBehind =>
              have after : base + size / 2 ≤ index := by
                apply Nat.le_of_not_lt
                intro less
                exact notBehind (increase.lt less middle)
              exact ih (size - size / 2) (by omega) after (by omega) (by omega)
      · omega

/-- On tags that start at increasing offsets the search finds exactly the tag at the offset. -/
theorem tagAt?_eq_some_iff {page : Page} (increase : StartsIncrease page.tags.toArray)
    {offset : Nat} {tag : Tag}
    : page.tagAt? offset = some tag ↔ tag ∈ page.tags ∧ tag.span.start = offset := by
  constructor
  · intro found
    obtain ⟨here, start⟩ := Option.filter_eq_some_iff.mp found
    exact ⟨by simpa using Array.mem_of_getElem? here, by simpa using start⟩
  · rintro ⟨member, rfl⟩
    obtain ⟨index, inside, rfl⟩ := List.mem_iff_getElem.mp member
    have narrowed : narrow page.tags.toArray page.tags[index].span.start page.tags.length 0
        = index := by
      rw [← List.getElem_toArray (by simpa using inside)]
      exact narrow_eq increase (Nat.zero_le index) (by simpa using inside) (by simp)
    simp [tagAt?, narrowed, inside]

/-- Tags that follow one another in a text start at strictly increasing offsets, since none of them
is empty.
-/
theorem startsIncrease_of_ordered {tags : List Tag} {text : Text}
    (stand : ∀ tag ∈ tags, tag.StandsIn text)
    (ordered : tags.Pairwise (fun first second => first.span.stop ≤ second.span.start))
    : StartsIncrease tags.toArray := by
  unfold StartsIncrease
  rw [List.toList_toArray]
  refine ordered.imp_of_mem fun member _ stop => ?_
  have nonempty := (stand _ member).wellFormedIn.nonempty
  omega

/-- The tags of a document are well formed there, they follow one another without overlaps, and the
search for a tag by its offset finds the one that starts there, if any.
-/
theorem tokenize_wellFormed (policy : Policy) (tables : Tables) (fileName text : Text)
    : (∀ tag ∈ Markup.tokenize text, tag.WellFormedIn text)
      ∧ (Markup.tokenize text).Pairwise
          (fun first second =>
            first.span.start < second.span.start ∧ first.span.stop ≤ second.span.start)
      ∧ (∀ offset tag,
          (ofText policy tables fileName text).tagAt? offset = some tag
          ↔ tag ∈ Markup.tokenize text ∧ tag.span.start = offset)
      ∧ ∀ offset,
          (ofText policy tables fileName text).tagAt? offset = none
          ↔ ∀ tag ∈ Markup.tokenize text, tag.span.start ≠ offset := by
  have increase : StartsIncrease (Markup.tokenize text).toArray :=
    startsIncrease_of_ordered (fun _ => Markup.standsIn_of_mem_tokenize)
      (Markup.tokenize_ordered text)
  have found : ∀ offset tag,
      (ofText policy tables fileName text).tagAt? offset = some tag
      ↔ tag ∈ Markup.tokenize text ∧ tag.span.start = offset :=
    fun _ _ => tagAt?_eq_some_iff increase
  refine ⟨fun tag member => (Markup.standsIn_of_mem_tokenize member).wellFormedIn, ?_, found, ?_⟩
  · have starts : (Markup.tokenize text).Pairwise
        (fun first second => first.span.start < second.span.start) := by
      simpa [StartsIncrease] using increase
    exact starts.and (Markup.tokenize_ordered text)
  · intro offset
    rw [Option.eq_none_iff_forall_ne_some]
    constructor
    · intro missing tag member start
      exact missing tag ((found offset tag).mpr ⟨member, start⟩)
    · intro missing tag here
      obtain ⟨member, start⟩ := (found offset tag).mp here
      exact missing tag member start

end PageAudit.Page
