import Mathlib.Data.List.TakeDrop
import Mathlib.Data.List.TakeWhile
import PageAudit.Markup.Head

/-! The head that is found among the tags of a document: its opening tag is the first one of its
name, and the distances that it remembers lead back to tags behind that one.
-/

namespace PageAudit

/-- A search that goes from tag to tag and stops at the first wanted one splits the stream there, by
induction over the tags that it passes.
-/
theorem Tag.split_of_search {wanted : Tag → Bool} {search : List Tag → Option (Tag × List Tag)}
    (atEnd : search [] = none)
    (goesOn
      : ∀ tag tags, search (tag :: tags) = if wanted tag then some (tag, tags) else search tags)
    {tags following : List Tag} {opening : Tag} (found : search tags = some (opening, following))
    : ∃ front,
        tags = front ++ opening :: following
        ∧ wanted opening
        ∧ ∀ tag ∈ front, ¬ wanted tag := by
  induction tags with
  | nil =>
      rw [atEnd] at found
      cases found
  | cons tag tags ih =>
      rw [goesOn] at found
      split at found
      · next here =>
          obtain ⟨rfl, rfl⟩ := Prod.mk.inj (Option.some.inj found)
          exact ⟨[], rfl, here, by simp⟩
      · next other =>
          obtain ⟨front, rfl, here, none⟩ := ih found
          exact ⟨tag :: front, rfl, here, List.forall_mem_cons.mpr ⟨other, none⟩⟩

/-- Such a search stops at a wanted tag that stands behind others which are not wanted. -/
theorem Tag.search_append {wanted : Tag → Bool} {search : List Tag → Option (Tag × List Tag)}
    (goesOn
      : ∀ tag tags, search (tag :: tags) = if wanted tag then some (tag, tags) else search tags)
    {front following : List Tag} {opening : Tag} (others : ∀ tag ∈ front, ¬ wanted tag)
    (here : wanted opening)
    : search (front ++ opening :: following) = some (opening, following) := by
  induction front with
  | nil => rw [List.nil_append, goesOn, if_pos here]
  | cons tag front ih =>
      obtain ⟨other, others⟩ := List.forall_mem_cons.mp others
      rw [List.cons_append, goesOn, if_neg other, ih others]

/-- Such a search stops somewhere when one of the tags is wanted. -/
theorem Tag.isSome_of_search {wanted : Tag → Bool} {search : List Tag → Option (Tag × List Tag)}
    (goesOn
      : ∀ tag tags, search (tag :: tags) = if wanted tag then some (tag, tags) else search tags)
    {tags : List Tag} {tag : Tag} (member : tag ∈ tags) (here : wanted tag)
    : (search tags).isSome := by
  induction tags with
  | nil => cases member
  | cons first tags ih =>
      rw [goesOn]
      split
      · rfl
      · next other =>
          rcases List.mem_cons.mp member with rfl | later
          · exact absurd here other
          · exact ih later

/-- The distance between two offsets is exact when it leads forward. -/
theorem Offset.add_distance {base offset : Nat} (forward : base ≤ offset)
    : base + Offset.distance base offset = offset := by
  rw [Offset.distance, Nat.add_sub_cancel' forward]

/-- A tag opens a head. -/
def Tag.opensHead (tag : Tag) : Prop :=
  tag.kind = .opening ∧ tag.hasName "head"

instance (tag : Tag) : Decidable tag.opensHead :=
  inferInstanceAs (Decidable (tag.kind = .opening ∧ tag.hasName "head"))

/-- The first head in a stream of tags. Its opening tag is the first one of its name, the tags
within it do not close it, and the first of those behind it does, if there is one.
-/
structure FirstHead (tags : List Tag) where
  front : List Tag
  opening : Tag
  inner : List Tag
  behind : List Tag
  split : tags = front ++ opening :: (inner ++ behind)
  opens : opening.opensHead
  first : ∀ tag ∈ front, ¬ tag.opensHead
  unclosed : ∀ tag ∈ inner, ¬ tag.closes "head"
  closed : ∀ tag ∈ behind.head?, tag.closes "head"

-----------------------------------------------------------------------------------------
-- Locating the head
-----------------------------------------------------------------------------------------

namespace FirstHead

variable {tags : List Tag} (first : FirstHead tags)

/-- (first.distance? wanted) is how far behind the opening tag the first wanted tag starts that
stands within the head.
-/
def distance? (wanted : Tag → Bool) : Option Nat :=
  (first.inner.find? wanted).map
    (fun tag => Offset.distance first.opening.span.stop tag.span.start)

/-- The offset where the head ends in a text with `textSize` bytes. -/
def stop (textSize : Nat) : Nat :=
  (first.behind.head?.map (·.span.start)).getD textSize

/-- What is remembered of the head in a text with `textSize` bytes. -/
def head (textSize : Nat) : Head :=
  { openTag := first.opening.span
    content := .between first.opening.span.stop (first.stop textSize)
    charset := first.distance? Tag.isCharset
    title := first.distance? (·.opens "title")
    stylesheet := first.distance? Tag.isStylesheet
    script := first.distance? (·.opens "script") }

theorem mem_of_mem_inner {tag : Tag} (member : tag ∈ first.inner) : tag ∈ tags := by
  rw [first.split]
  simp [member]

theorem opening_mem : first.opening ∈ tags := by
  have listed : first.opening ∈ first.front ++ first.opening :: (first.inner ++ first.behind) := by
    simp
  rwa [← first.split] at listed

/-- The tags within the head are those in front of the first one that closes it. -/
theorem span_following
    : (first.inner ++ first.behind).span (fun tag => !tag.closes "head")
      = (first.inner, first.behind) := by
  have passes : ∀ tag ∈ first.inner, !tag.closes "head" := by
    intro tag member
    simpa using first.unclosed tag member
  have stops : first.behind.takeWhile (fun tag => !tag.closes "head") = []
      ∧ first.behind.dropWhile (fun tag => !tag.closes "head") = first.behind := by
    have closed := first.closed
    cases behind : first.behind with
    | nil => exact ⟨rfl, rfl⟩
    | cons tag rest =>
        have closes : (!tag.closes "head") = false := by
          rw [closed tag (by rw [behind]; rfl)]
          rfl
        simp only [List.takeWhile_cons, List.dropWhile_cons, closes, Bool.false_eq_true, if_false,
          and_self]
  rw [List.span_eq_takeWhile_dropWhile, List.takeWhile_append_of_pos passes,
    List.dropWhile_append_of_pos passes, stops.1, stops.2, List.append_nil]

end FirstHead

namespace Head

/-- The search for the head tests each tag for opening one. -/
theorem behindOpening?_cons (tag : Tag) (tags : List Tag)
    : behindOpening? (tag :: tags)
      = if tag.kind == .opening && tag.hasName "head" then some (tag, tags)
        else behindOpening? tags :=
  rfl

theorem opensHead_iff {tag : Tag}
    : tag.opensHead ↔ (tag.kind == .opening && tag.hasName "head") = true := by
  simp [Tag.opensHead]

/-- The head that is located is the first one of the stream. -/
theorem locate?_eq_some_iff {tags : List Tag} {textSize : Nat} {head : Head}
    : locate? tags textSize = some head ↔ ∃ first : FirstHead tags, head = first.head textSize := by
  constructor
  · intro located
    obtain ⟨⟨opening, following⟩, found, rfl⟩ := Option.map_eq_some_iff.mp located
    obtain ⟨front, split, opens, others⟩ :=
      Tag.split_of_search rfl behindOpening?_cons found
    let passes : Tag → Bool := fun tag => !tag.closes "head"
    let first : FirstHead tags :=
      { front, opening
        inner := following.takeWhile passes
        behind := following.dropWhile passes
        split := by rw [List.takeWhile_append_dropWhile, split]
        opens := opensHead_iff.mpr opens
        first := fun tag member => fun here => others tag member (opensHead_iff.mp here)
        unclosed := fun tag member => by simpa [passes] using List.mem_takeWhile_imp member
        closed := by
          intro tag stops
          have stopped := List.head?_dropWhile_not passes following
          rw [Option.mem_def.mp stops] at stopped
          simpa [passes] using stopped }
    have same : following = first.inner ++ first.behind :=
      List.takeWhile_append_dropWhile.symm
    refine ⟨first, ?_⟩
    dsimp only
    rw [same, first.span_following]
    rfl
  · intro found
    obtain ⟨first, rfl⟩ := found
    have others : ∀ tag ∈ first.front, ¬ (tag.kind == .opening && tag.hasName "head") = true :=
      fun tag member here => first.first tag member (opensHead_iff.mpr here)
    have search
        : behindOpening? (first.front ++ first.opening :: (first.inner ++ first.behind))
          = some (first.opening, first.inner ++ first.behind) :=
      Tag.search_append behindOpening?_cons others (opensHead_iff.mp first.opens)
    rw [← first.split] at search
    rw [locate?, search, Option.map_some]
    dsimp only
    rw [first.span_following]
    rfl

/-- A head is located exactly when some tag opens one. -/
theorem isSome_locate?_iff {tags : List Tag} {textSize : Nat}
    : (locate? tags textSize).isSome ↔ ∃ tag ∈ tags, tag.opensHead := by
  constructor
  · intro located
    obtain ⟨head, located⟩ := Option.isSome_iff_exists.mp located
    obtain ⟨first, -⟩ := locate?_eq_some_iff.mp located
    exact ⟨first.opening, first.opening_mem, first.opens⟩
  · intro opened
    obtain ⟨tag, member, opens⟩ := opened
    rw [locate?, Option.isSome_map]
    exact Tag.isSome_of_search behindOpening?_cons member (opensHead_iff.mp opens)

/-- A head begins with a tag of the document. -/
theorem openTag_of_locate? {tags : List Tag} {textSize : Nat} {head : Head}
    (located : locate? tags textSize = some head)
    : ∃ tag ∈ tags, head.openTag = tag.span := by
  obtain ⟨first, rfl⟩ := locate?_eq_some_iff.mp located
  exact ⟨first.opening, first.opening_mem, rfl⟩

/-- A head that remembers a title has one among the tags of the document. -/
theorem exists_title_of_locate? {tags : List Tag} {textSize : Nat} {head : Head}
    (located : locate? tags textSize = some head) (remembered : head.title.isSome)
    : ∃ tag ∈ tags, tag.opens "title" := by
  obtain ⟨first, rfl⟩ := locate?_eq_some_iff.mp located
  obtain ⟨distance, title⟩ := Option.isSome_iff_exists.mp remembered
  obtain ⟨tag, found, -⟩ := Option.map_eq_some_iff.mp title
  have opens := (List.find?_eq_some_iff_append.mp found).1
  exact ⟨tag, first.mem_of_mem_inner (List.mem_of_find?_eq_some found), opens⟩

end Head

-----------------------------------------------------------------------------------------
-- Distances within the head
-----------------------------------------------------------------------------------------

section

variable {tags : List Tag}
  (ordered : tags.Pairwise (fun earlier later => earlier.span.stop ≤ later.span.start))

include ordered

namespace FirstHead

variable (first : FirstHead tags)

/-- The tags behind the opening tag of a head follow one another as those of the document do. -/
theorem ordered_following
    : (∀ tag ∈ first.inner ++ first.behind, first.opening.span.stop ≤ tag.span.start)
      ∧ (first.inner ++ first.behind).Pairwise
          (fun earlier later => earlier.span.stop ≤ later.span.start) := by
  rw [first.split] at ordered
  exact List.pairwise_cons.mp (List.pairwise_append.mp ordered).2.1

/-- When the tags of a document follow one another, a distance that is measured in its head is the
one to the first wanted tag there.
-/
theorem distance?_eq_some_iff {wanted : Tag → Bool} {distance : Nat}
    : first.distance? wanted = some distance
      ↔ ∃ tag,
          first.inner.find? wanted = some tag
          ∧ first.opening.span.stop + distance = tag.span.start := by
  have forward {tag : Tag} (found : first.inner.find? wanted = some tag)
      : first.opening.span.stop ≤ tag.span.start :=
    (first.ordered_following ordered).1 tag
      (List.mem_append_left _ (List.mem_of_find?_eq_some found))
  rw [distance?, Option.map_eq_some_iff]
  constructor
  · intro measured
    obtain ⟨tag, found, rfl⟩ := measured
    exact ⟨tag, found, Offset.add_distance (forward found)⟩
  · intro measured
    obtain ⟨tag, found, exact⟩ := measured
    have same := Offset.add_distance (forward found)
    exact ⟨tag, found, by omega⟩

end FirstHead

/-- When the tags of a document follow one another, each distance that its head remembers leads to
the start of a tag.
-/
theorem Head.absolute_of_locate? {textSize distance : Nat} {head : Head}
    (located : locate? tags textSize = some head)
    (remembered : some distance ∈ [head.charset, head.title, head.stylesheet, head.script])
    : ∃ tag ∈ tags, head.absolute distance = tag.span.start := by
  obtain ⟨first, rfl⟩ := locate?_eq_some_iff.mp located
  -- the four distances are measured to tags in front of the closing one, in the same way
  have measured {wanted : Tag → Bool} (remembered : some distance = first.distance? wanted)
      : ∃ tag ∈ tags, Offset.advance first.opening.span.stop distance = tag.span.start := by
    obtain ⟨tag, found, exact⟩ := (first.distance?_eq_some_iff ordered).mp remembered.symm
    have member := first.mem_of_mem_inner (List.mem_of_find?_eq_some found)
    exact ⟨tag, member, exact⟩
  simp only [List.mem_cons, List.not_mem_nil, or_false] at remembered
  rcases remembered with charset | title | stylesheet | script
  · exact measured charset
  · exact measured title
  · exact measured stylesheet
  · exact measured script

end

end PageAudit
