import PageAudit.Proofs.Markup.Head
import PageAudit.Proofs.Markup.TagStream

/-! The head of a document that was read. Its tags follow one another, so the content of the head
lies behind its opening tag and in front of the tag that closes it, and every distance into the
content is measured forward.
-/

namespace PageAudit

/-- (head.Remembers inner wanted remembered) says what a head remembers of the tags within it.
There is a distance exactly when one of them is wanted, and it leads from the start of the content
to the start of the first wanted one, which lies in the content.
-/
structure Head.Remembers (head : Head) (inner : List Tag) (wanted : Tag → Bool)
    (remembered : Option Nat)
    : Prop where
  isSome : remembered.isSome ↔ ∃ tag ∈ inner, wanted tag
  leads
    : ∀ distance,
        remembered = some distance
        → ∃ tag,
          inner.find? wanted = some tag
          ∧ head.content.start + distance = tag.span.start
          ∧ head.absolute distance = tag.span.start
          ∧ tag.span.start < head.content.stop

open Markup (tokenize tokenize_ordered standsIn_of_mem_tokenize)

namespace FirstHead

variable {text : Text} (first : FirstHead (tokenize text))

/-- The head ends with the text, or where a tag behind those within it starts. -/
theorem stop_eq_or
    : first.behind = [] ∧ first.stop (Text.byteSize text) = Text.byteSize text
      ∨ ∃ closing ∈ first.behind, first.stop (Text.byteSize text) = closing.span.start := by
  unfold stop
  cases first.behind with
  | nil => exact .inl ⟨rfl, rfl⟩
  | cons closing rest => exact .inr ⟨closing, List.mem_cons_self, rfl⟩

theorem standsIn_of_mem_inner {tag : Tag} (member : tag ∈ first.inner) : tag.StandsIn text :=
  standsIn_of_mem_tokenize (first.mem_of_mem_inner member)

theorem standsIn_of_mem_behind {tag : Tag} (member : tag ∈ first.behind) : tag.StandsIn text :=
  standsIn_of_mem_tokenize (by rw [first.split]; simp [member])

/-- The tags behind the opening one start behind it. -/
theorem opening_stop_le_start {tag : Tag} (member : tag ∈ first.inner ++ first.behind)
    : first.opening.span.stop ≤ tag.span.start :=
  (first.ordered_following (tokenize_ordered text)).1 tag member

theorem opening_stop_le_stop : first.opening.span.stop ≤ first.stop (Text.byteSize text) := by
  rcases first.stop_eq_or with ⟨-, stop⟩ | ⟨closing, member, stop⟩
  · rw [stop]
    exact (standsIn_of_mem_tokenize first.opening_mem).span_liesIn.stop.le_byteSize
  · rw [stop]
    exact first.opening_stop_le_start (List.mem_append_right _ member)

theorem stop_le_byteSize : first.stop (Text.byteSize text) ≤ Text.byteSize text := by
  rcases first.stop_eq_or with ⟨-, stop⟩ | ⟨closing, member, stop⟩
  · exact Nat.le_of_eq stop
  · rw [stop]
    exact (first.standsIn_of_mem_behind member).span_liesIn.start.le_byteSize

/-- A tag within the head starts in its content, since tags are not empty. -/
theorem start_lt_stop {tag : Tag} (member : tag ∈ first.inner)
    : tag.span.start < first.stop (Text.byteSize text) := by
  have stands := first.standsIn_of_mem_inner member
  have nonempty := stands.wellFormedIn.nonempty
  apply Nat.lt_of_lt_of_le nonempty
  rcases first.stop_eq_or with ⟨-, stop⟩ | ⟨closing, later, stop⟩
  · rw [stop]
    exact stands.span_liesIn.stop.le_byteSize
  · rw [stop]
    have ordered := (first.ordered_following (tokenize_ordered text)).2
    exact (List.pairwise_append.mp ordered).2.2 tag member closing later

/-- (first.Precedes one other) says that the head has a tag of each of two kinds, and that the first
one of the first kind comes before the first one of the second kind.
-/
def Precedes (one other : Tag → Bool) : Prop :=
  ∃ early late,
    first.inner.find? one = some early
    ∧ first.inner.find? other = some late
    ∧ [early, late].Sublist first.inner

/-- Of two tags within the head the one that stands in front of the other starts earlier. -/
theorem pair_sublist_iff {early late : Tag} (early_mem : early ∈ first.inner)
    (late_mem : late ∈ first.inner)
    : [early, late].Sublist first.inner ↔ early.span.start < late.span.start := by
  have ordered := (List.pairwise_append.mp (first.ordered_following (tokenize_ordered text)).2).1
  have increase : first.inner.Pairwise (fun one other => one.span.start < other.span.start) := by
    refine ordered.imp_of_mem fun member _ stop => ?_
    exact Nat.lt_of_lt_of_le (first.standsIn_of_mem_inner member).wellFormedIn.nonempty stop
  constructor
  · intro behind
    simpa using increase.sublist behind
  · intro less
    obtain ⟨front, others, split⟩ := List.append_of_mem early_mem
    rw [split] at late_mem increase ⊢
    obtain ⟨-, -, across⟩ := List.pairwise_append.mp increase
    rcases List.mem_append.mp late_mem with before | here
    · exact absurd (across late before early List.mem_cons_self) (Nat.lt_asymm less)
    · rcases List.mem_cons.mp here with rfl | behind
      · exact absurd less (Nat.lt_irrefl _)
      · have pair : [early, late].Sublist (early :: others) :=
          (List.singleton_sublist.mpr behind).cons_cons early
        exact pair.trans (List.sublist_append_right _ _)

/-- Two kinds of tags come in the order of the distances to the first ones. -/
theorem precedes_iff {one other : Tag → Bool}
    : first.Precedes one other
      ↔ ∃ late early,
          first.distance? other = some late ∧ first.distance? one = some early ∧ early < late := by
  simp only [first.distance?_eq_some_iff (tokenize_ordered text)]
  constructor
  · intro precedes
    obtain ⟨early, late, foundEarly, foundLate, order⟩ := precedes
    have early_mem := List.mem_of_find?_eq_some foundEarly
    have late_mem := List.mem_of_find?_eq_some foundLate
    have less := (first.pair_sublist_iff early_mem late_mem).mp order
    have toEarly := first.opening_stop_le_start (List.mem_append_left _ early_mem)
    have toLate := first.opening_stop_le_start (List.mem_append_left _ late_mem)
    refine ⟨late.span.start - first.opening.span.stop, early.span.start - first.opening.span.stop,
      ⟨late, foundLate, ?_⟩, ⟨early, foundEarly, ?_⟩, ?_⟩
    · omega
    · omega
    · omega
  · intro order
    obtain ⟨toLate, toEarly, ⟨late, foundLate, exactLate⟩, ⟨early, foundEarly, exactEarly⟩, less⟩ :=
      order
    have early_mem := List.mem_of_find?_eq_some foundEarly
    have late_mem := List.mem_of_find?_eq_some foundLate
    exact ⟨early, late, foundEarly, foundLate,
      (first.pair_sublist_iff early_mem late_mem).mpr (by omega)⟩

/-- The distance to the first wanted tag is beyond a limit when the tag starts so far behind the
opening one.
-/
theorem distance?_gt_iff {wanted : Tag → Bool} {limit : Nat}
    : (∃ distance, first.distance? wanted = some distance ∧ limit < distance)
      ↔ ∃ tag,
          first.inner.find? wanted = some tag
          ∧ first.opening.span.stop + limit < tag.span.start := by
  simp only [first.distance?_eq_some_iff (tokenize_ordered text)]
  constructor
  · intro far
    obtain ⟨distance, ⟨tag, found, exact⟩, beyond⟩ := far
    exact ⟨tag, found, by omega⟩
  · intro far
    obtain ⟨tag, found, beyond⟩ := far
    exact ⟨tag.span.start - first.opening.span.stop, ⟨tag, found, by omega⟩, by omega⟩

/-- The content of the head begins behind its opening tag and goes on to its end. -/
theorem content_head
    : (first.head (Text.byteSize text)).content
      = { start := first.opening.span.stop, stop := first.stop (Text.byteSize text) } := by
  rw [head, Span.between, Nat.max_eq_right first.opening_stop_le_stop]

/-- Each distance that is measured in the head of a document is remembered as it should be. -/
theorem remembers (wanted : Tag → Bool)
    : (first.head (Text.byteSize text)).Remembers first.inner wanted
        (first.distance? wanted) where
  isSome := by
    rw [distance?, Option.isSome_map, List.find?_isSome]
  leads := by
    intro distance measured
    obtain ⟨tag, found, exact⟩ :=
      (first.distance?_eq_some_iff (tokenize_ordered text)).mp measured
    refine ⟨tag, found, exact, exact, ?_⟩
    rw [content_head]
    exact first.start_lt_stop (List.mem_of_find?_eq_some found)

end FirstHead

namespace Head

/-- The tags that the head of a document remembers stand behind its opening tag. -/
theorem isMeasurable_tokenize (text : Text) : isMeasurable (tokenize text) := by
  unfold isMeasurable
  cases opened : behindOpening? (tokenize text) with
  | none => rfl
  | some found =>
      obtain ⟨opening, following⟩ := found
      obtain ⟨front, split, -, -⟩ := Tag.split_of_search rfl behindOpening?_cons opened
      have ordered := tokenize_ordered text
      rw [split] at ordered
      have forward := (List.pairwise_cons.mp (List.pairwise_append.mp ordered).2.1).1
      simp only [Option.all_some, List.all_eq_true, Option.all_eq_true, decide_eq_true_eq]
      intro wanted _ tag found
      exact forward tag ((List.takeWhile_sublist _).mem (List.mem_of_find?_eq_some found))

/-- A document has a head exactly when one of its tags opens one. The head begins with the first
such tag, its content goes on to the first tag behind it that closes a head, or else to the end of
the text, and it remembers where the first tags of four kinds start within it, each behind the
opening tag.
-/
theorem locate?_tokenize (text : Text)
    : isMeasurable (tokenize text)
      ∧ ((locate? (tokenize text) (Text.byteSize text)).isSome
        ↔ ∃ tag ∈ tokenize text, tag.kind = .opening ∧ tag.hasName "head")
      ∧ ∀ head,
        locate? (tokenize text) (Text.byteSize text) = some head
        → ∃ first : FirstHead (tokenize text),
          head.openTag = first.opening.span
          ∧ head.content.start = first.opening.span.stop
          ∧ head.content.stop
            = (first.behind.head?.map (·.span.start)).getD (Text.byteSize text)
          ∧ head.content.start ≤ head.content.stop
          ∧ head.content.stop ≤ Text.byteSize text
          ∧ head.Remembers first.inner Tag.isCharset head.charset
          ∧ head.Remembers first.inner (·.opens "title") head.title
          ∧ head.Remembers first.inner Tag.isStylesheet head.stylesheet
          ∧ head.Remembers first.inner (·.opens "script") head.script := by
  refine ⟨isMeasurable_tokenize text, isSome_locate?_iff, fun head located => ?_⟩
  obtain ⟨first, rfl⟩ := locate?_eq_some_iff.mp located
  have content := first.content_head
  refine ⟨first, rfl, congrArg Span.start content, congrArg Span.stop content, ?_, ?_,
    first.remembers _, first.remembers _, first.remembers _, first.remembers _⟩
  · rw [content]
    exact first.opening_stop_le_stop
  · rw [content]
    exact first.stop_le_byteSize

/-- A head that is never closed goes on to the end of the text. A self-closing component in front of
it opens none, and a second head within it begins nothing new.
-/
theorem locate?_tokenize_unclosed
    : let text : Text := "<Head/><head>é<title>a</title><head><script>"
      ∃ head,
        locate? (tokenize text) (Text.byteSize text) = some head
        ∧ head.content = { start := 13, stop := 45 }
        ∧ head.title = some 2
        ∧ ∃ first : FirstHead (tokenize text),
          first.opening.span.stop = 13
          ∧ head.Remembers first.inner (·.opens "title") (some 2)
          ∧ head.Remembers first.inner (·.opens "script") head.script := by
  intro text
  have found : ∃ head,
      locate? (tokenize text) (Text.byteSize text) = some head
      ∧ head.content = { start := 13, stop := 45 }
      ∧ head.title = some 2 := by
    refine ⟨_, rfl, ?_⟩
    decide +kernel
  obtain ⟨head, located, content, title⟩ := found
  obtain ⟨first, -, start, -, -, -, -, titles, -, scripts⟩ :=
    (locate?_tokenize text).2.2 head located
  refine ⟨head, located, content, title, first, ?_, ?_, scripts⟩
  · rw [← start, content]
  · rw [← title]
    exact titles

end Head

end PageAudit
