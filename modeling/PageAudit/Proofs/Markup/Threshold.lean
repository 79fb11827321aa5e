import PageAudit.Proofs.Markup.Nesting

/-! The tag at which a measure of a stream passes a limit. Counts of tags and the depth of nesting
start at zero, and one more tag raises them by at most one. So a measure that exceeds a limit
somewhere has been one above it, and the first tag behind which it is so is where the limit was
passed, also when the measure falls again behind that tag.
-/

namespace PageAudit

/-- A stream of tags that is cut at one of them. -/
@[ext] structure Tag.Cut (tags : List Tag) where
  front : List Tag
  tag : Tag
  behind : List Tag
  split : tags = front ++ tag :: behind

/-- (Climbs measure) says that a measure of streams starts at zero and rises by at most one with
each tag. It may fall.
-/
structure Climbs (measure : List Tag → Nat) : Prop where
  start : measure [] = 0
  step : ∀ front tag, measure (front ++ [tag]) ≤ measure front + 1

namespace Tag.Cut

variable {tags : List Tag} {measure : List Tag → Nat} {limit : Nat}

/-- (cut.Passes measure limit) says that a measure passes a limit at the tag of a cut: in front of
that tag it is nowhere above the limit, and behind it the measure is one above.
-/
structure Passes (cut : Cut tags) (measure : List Tag → Nat) (limit : Nat) : Prop where
  within : ∀ earlier, earlier <+: cut.front → measure earlier ≤ limit
  beyond : measure (cut.front ++ [cut.tag]) = limit + 1

theorem tag_mem (cut : Cut tags) : cut.tag ∈ tags := by
  have listed : cut.tag ∈ cut.front ++ cut.tag :: cut.behind := by simp
  rwa [← cut.split] at listed

/-- Of two cuts of a stream one has its tag in front of the other one, or they are the same. -/
theorem prefix_or_eq (one other : Cut tags)
    : one.front ++ [one.tag] <+: other.front
      ∨ one = other
      ∨ other.front ++ [other.tag] <+: one.front := by
  have split := one.split.symm.trans other.split
  rcases List.append_eq_append_iff.mp split with ⟨more, front, rest⟩ | ⟨more, front, rest⟩
  · cases more with
    | nil =>
        obtain ⟨tag, behind⟩ := List.cons.inj rest
        exact .inr (.inl (Cut.ext (by simpa using front.symm) tag behind))
    | cons first more =>
        obtain ⟨rfl, -⟩ := List.cons.inj rest
        exact .inl ⟨more, by simp [front]⟩
  · cases more with
    | nil =>
        obtain ⟨tag, behind⟩ := List.cons.inj rest
        exact .inr (.inl (Cut.ext (by simpa using front) tag.symm behind.symm))
    | cons first more =>
        obtain ⟨rfl, -⟩ := List.cons.inj rest
        exact .inr (.inr ⟨more, by simp [front]⟩)

/-- A limit is passed at one place. -/
theorem Passes.unique {one other : Cut tags} (first : one.Passes measure limit)
    (second : other.Passes measure limit)
    : one = other := by
  rcases one.prefix_or_eq other with earlier | same | later
  · have less := second.within _ earlier
    rw [first.beyond] at less
    omega
  · exact same
  · have less := first.within _ later
    rw [second.beyond] at less
    omega

/-- A higher limit is passed further on. -/
theorem Passes.tag_mem_front {lower upper : Nat} {early late : Cut tags} (less : lower < upper)
    (first : early.Passes measure lower) (second : late.Passes measure upper)
    : early.tag ∈ late.front := by
  rcases early.prefix_or_eq late with earlier | same | later
  · exact earlier.subset (by simp)
  · have beyond := first.beyond
    rw [same, second.beyond] at beyond
    omega
  · have within := first.within _ later
    rw [second.beyond] at within
    omega

/-- Up to some place of a stream a measure has passed a limit, or it was never above it. Witness: by
induction from the front, at the first tag that leads above the limit the measure was not above it
before, so it is now one above.
-/
theorem passes_or_within (climbs : Climbs measure) {front : List Tag} (part : front <+: tags)
    : (∃ cut : Cut tags, cut.Passes measure limit)
      ∨ ∀ earlier, earlier <+: front → measure earlier ≤ limit := by
  induction front using List.reverseRecOn with
  | nil =>
      refine .inr fun earlier start => ?_
      rw [List.prefix_nil.mp start, climbs.start]
      exact Nat.zero_le limit
  | append_singleton front tag ih =>
      rcases ih ((List.prefix_append front [tag]).trans part) with passed | within
      · exact .inl passed
      · by_cases above : limit < measure (front ++ [tag])
        · obtain ⟨behind, split⟩ := part
          have cut : tags = front ++ tag :: behind := by simp [← split]
          have before := within front List.prefix_rfl
          have rises := climbs.step front tag
          exact .inl ⟨⟨front, tag, behind, cut⟩, within, by dsimp only; omega⟩
        · refine .inr fun earlier start => ?_
          rcases List.prefix_concat_iff.mp start with rfl | shorter
          · exact Nat.le_of_not_lt above
          · exact within earlier shorter

/-- A limit is passed exactly when the measure is above it behind some tag. -/
theorem exists_passes_iff (climbs : Climbs measure)
    : (∃ cut : Cut tags, cut.Passes measure limit)
      ↔ ∃ front, front <+: tags ∧ limit < measure front := by
  constructor
  · intro passed
    obtain ⟨cut, passes⟩ := passed
    refine ⟨cut.front ++ [cut.tag], ⟨cut.behind, ?_⟩, ?_⟩
    · rw [List.append_assoc, List.singleton_append, ← cut.split]
    · rw [passes.beyond]
      exact Nat.lt_succ_self limit
  · intro exceeded
    obtain ⟨front, part, above⟩ := exceeded
    rcases passes_or_within climbs part with passed | within
    · exact passed
    · exact absurd (within front List.prefix_rfl) (Nat.not_le_of_lt above)

end Tag.Cut

open Tag (Cut)

-----------------------------------------------------------------------------------------
-- Counting tags
-----------------------------------------------------------------------------------------

section

variable {tags : List Tag} {counted : Tag → Bool} {limit : Nat}

theorem climbs_countP (counted : Tag → Bool) : Climbs (List.countP counted) where
  start := List.countP_nil
  step := by
    intro front tag
    rw [List.countP_append, List.countP_singleton]
    split <;> omega

/-- A count passes a limit at the counted tag that has as many counted ones in front of it. -/
theorem Tag.Cut.passes_countP_iff {cut : Cut tags}
    : cut.Passes (List.countP counted) limit
      ↔ counted cut.tag ∧ cut.front.countP counted = limit := by
  constructor
  · intro passes
    have within := passes.within cut.front List.prefix_rfl
    have beyond := passes.beyond
    rw [List.countP_append, List.countP_singleton] at beyond
    split at beyond
    · next here => exact ⟨here, Nat.add_right_cancel beyond⟩
    · omega
  · intro here
    obtain ⟨counts, rfl⟩ := here
    refine ⟨fun earlier start => start.countP_le, ?_⟩
    rw [List.countP_append, List.countP_singleton, if_pos counts]

/-- Among the counted tags of a stream the one with as many others in front of it as an index says
stands at that index.
-/
theorem Tag.Cut.getElem?_filter {cut : Cut tags} (counts : counted cut.tag)
    : (tags.filter counted)[cut.front.countP counted]? = some cut.tag := by
  have size : (cut.front.filter counted).length = cut.front.countP counted :=
    List.countP_eq_length_filter.symm
  have split : tags.filter counted
      = cut.front.filter counted ++ cut.tag :: cut.behind.filter counted := by
    rw [← List.filter_cons_of_pos counts, ← List.filter_append]
    exact congrArg (List.filter counted) cut.split
  rw [split, ← size, List.getElem?_append_right (Nat.le_refl _), Nat.sub_self,
    List.getElem?_cons_zero]

/-- A count passes a limit exactly when the whole stream has more counted tags. -/
theorem exists_passes_countP_iff
    : (∃ cut : Cut tags, cut.Passes (List.countP counted) limit) ↔ limit < tags.countP counted := by
  rw [Tag.Cut.exists_passes_iff (climbs_countP counted)]
  constructor
  · intro exceeded
    obtain ⟨front, part, above⟩ := exceeded
    exact Nat.lt_of_lt_of_le above part.countP_le
  · intro above
    exact ⟨tags, List.prefix_rfl, above⟩

/-- The counted tag at an index is the one at which the count passes that index. -/
theorem getElem?_filter_eq_some_iff {tag : Tag}
    : (tags.filter counted)[limit]? = some tag
      ↔ ∃ cut : Cut tags, cut.Passes (List.countP counted) limit ∧ cut.tag = tag := by
  constructor
  · intro found
    have above : limit < tags.countP counted := by
      rw [List.countP_eq_length_filter]
      exact (List.getElem?_eq_some_iff.mp found).1
    obtain ⟨cut, passes⟩ := exists_passes_countP_iff.mpr above
    obtain ⟨counts, index⟩ := Tag.Cut.passes_countP_iff.mp passes
    have here := Tag.Cut.getElem?_filter counts
    rw [index, found] at here
    exact ⟨cut, passes, (Option.some.inj here).symm⟩
  · intro passed
    obtain ⟨cut, passes, rfl⟩ := passed
    obtain ⟨counts, rfl⟩ := Tag.Cut.passes_countP_iff.mp passes
    exact Tag.Cut.getElem?_filter counts

end

-----------------------------------------------------------------------------------------
-- The depth of nesting
-----------------------------------------------------------------------------------------

namespace Nesting

variable (void : VoidElements) {tags : List Tag} {limit : Nat}

/-- The depth behind the last tag of a stream. -/
def depthOf (tags : List Tag) : Nat :=
  (ofTags void tags).depth

theorem depthOf_concat (front : List Tag) (tag : Tag)
    : depthOf void (front ++ [tag]) = ((ofTags void front).feed void tag).depth := by
  rw [depthOf, ofTags, List.foldl_append]
  rfl

/-- The depth rises with a tag only when that tag opens an element, and then by one. -/
theorem depth_feed_cases (nesting : Nesting) (tag : Tag)
    : void.opensElement tag ∧ (nesting.feed void tag).depth = nesting.depth + 1
      ∨ (nesting.feed void tag).depth ≤ nesting.depth := by
  unfold feed
  split
  · next opens => exact .inl ⟨opens, rfl⟩
  · split
    · exact .inr (Nat.sub_le nesting.depth 1)
    · exact .inr (Nat.le_refl nesting.depth)

theorem climbs_depthOf : Climbs (depthOf void) where
  start := rfl
  step := by
    intro front tag
    rw [depthOf_concat, depthOf]
    rcases depth_feed_cases void (ofTags void front) tag with ⟨-, rises⟩ | falls
    · exact Nat.le_of_eq rises
    · exact Nat.le_succ_of_le falls

variable {void}

/-- The depth passes a limit at a tag that opens an element. -/
theorem opensElement_of_passes {cut : Cut tags} (passes : cut.Passes (depthOf void) limit)
    : void.opensElement cut.tag := by
  have before := passes.within cut.front List.prefix_rfl
  have beyond := passes.beyond
  rw [depthOf_concat] at beyond
  rcases depth_feed_cases void (ofTags void cut.front) cut.tag with ⟨opens, -⟩ | falls
  · exact opens
  · rw [depthOf] at before
    omega

/-- The greatest depth of a stream is the depth behind one of its tags, and no depth is greater. -/
theorem exists_depth_gt_iff
    : (∃ front, front <+: tags ∧ limit < depthOf void front)
      ↔ limit < (ofTags void tags).deepest := by
  have whole := nets_ofTags void tags
  constructor
  · intro exceeded
    obtain ⟨front, part, above⟩ := exceeded
    obtain ⟨ending, behind, net⟩ := (nets_ofTags void front).depth.1
    have less := whole.deepest.2 ⟨ending, behind.isInfix.trans part.isInfix, net⟩
    rw [depthOf] at above
    omega
  · intro above
    obtain ⟨segment, ⟨front, behind, split⟩, net⟩ := whole.deepest.1
    have less := (nets_ofTags void (front ++ segment)).depth.2
      ⟨segment, List.suffix_append front segment, rfl⟩
    refine ⟨front ++ segment, ⟨behind, split⟩, ?_⟩
    rw [depthOf]
    omega

/-- The depth passes a limit exactly when the greatest depth is above it. -/
theorem exists_passes_depthOf_iff
    : (∃ cut : Cut tags, cut.Passes (depthOf void) limit) ↔ limit < (ofTags void tags).deepest := by
  rw [Tag.Cut.exists_passes_iff (climbs_depthOf void), exists_depth_gt_iff]

/-- The search for the tag that leads above a limit goes past tags that do not, by induction over
those.
-/
theorem crossingFrom?_append {nesting : Nesting} {front behind : List Tag} {tag : Tag}
    (within : ∀ earlier, earlier <+: front → (earlier.foldl (feed void) nesting).depth ≤ limit)
    (beyond : limit < ((front ++ [tag]).foldl (feed void) nesting).depth)
    : crossingFrom? void limit nesting (front ++ tag :: behind) = some tag := by
  induction front generalizing nesting with
  | nil => exact if_pos beyond
  | cons first front ih =>
      have low : (nesting.feed void first).depth ≤ limit :=
        within [first] (List.prefix_append [first] front)
      rw [List.cons_append, crossingFrom?, if_neg (Nat.not_lt_of_le low)]
      apply ih
      · intro earlier start
        exact within (first :: earlier) (List.cons_prefix_cons.mpr ⟨rfl, start⟩)
      · exact beyond

/-- The search finds the tag at which the depth passes the limit. -/
theorem crossing?_of_passes {cut : Cut tags} (passes : cut.Passes (depthOf void) limit)
    : crossing? void limit tags = some cut.tag := by
  have beyond : limit < depthOf void (cut.front ++ [cut.tag]) := by
    rw [passes.beyond]
    exact Nat.lt_succ_self limit
  have found
      : crossingFrom? void limit outside (cut.front ++ cut.tag :: cut.behind) = some cut.tag :=
    crossingFrom?_append passes.within beyond
  rwa [← cut.split] at found

end Nesting

end PageAudit
