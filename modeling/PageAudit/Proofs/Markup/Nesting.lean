import Mathlib.Data.List.Induction
import Mathlib.Order.Bounds.Basic
import PageAudit.Markup.Element

/-! The depth of a stream of tags in closed form. Opening tags count up and closing tags count down,
but the depth never falls below zero, so it is not the difference of the two over the whole stream:
it is the greatest difference over all ends of the stream, and the greatest depth on the way is the
greatest difference over all of its segments.
-/

namespace PageAudit

/-- The number of tags in a segment that open an element, less the number of those that close one.
Void elements count for neither.
-/
def VoidElements.net (void : VoidElements) (segment : List Tag) : Int :=
  segment.countP void.opensElement - segment.countP void.closesElement

namespace VoidElements

variable (void : VoidElements)

@[simp] theorem net_nil : void.net [] = 0 := rfl

theorem net_append (front behind : List Tag)
    : void.net (front ++ behind) = void.net front + void.net behind := by
  simp only [net, List.countP_append]
  omega

/-- No tag both opens an element and closes one. -/
theorem closesElement_of_opensElement {tag : Tag} (opens : void.opensElement tag)
    : void.closesElement tag = false := by
  simp only [opensElement, Bool.and_eq_true, beq_iff_eq] at opens
  simp [closesElement, opens.1]

/-- A segment has no greater net than the stream has elements. -/
theorem net_le_elementCount {segment tags : List Tag} (part : segment <:+: tags)
    : void.net segment ≤ void.elementCount tags := by
  have fewer : segment.countP void.opensElement ≤ tags.countP void.opensElement :=
    part.sublist.countP_le
  simp only [net, elementCount]
  omega

/-- Without closing tags every element of a stream adds to its net. -/
theorem net_eq_elementCount {tags : List Tag} (noClosing : ∀ tag ∈ tags, ¬ void.closesElement tag)
    : void.net tags = void.elementCount tags := by
  have none : tags.countP void.closesElement = 0 := List.countP_eq_zero.mpr noClosing
  simp [net, elementCount, none]

end VoidElements

namespace Nesting

variable (void : VoidElements)

/-- (Nets void tags nesting) says what a nesting remembers about the tags that led to it: the depth
is the greatest net of an end of the stream, and the greatest depth is the one of a segment.
-/
structure Nets (tags : List Tag) (nesting : Nesting) : Prop where
  depth : IsGreatest {net | ∃ ending, ending <:+ tags ∧ void.net ending = net} (nesting.depth : Int)
  deepest
    : IsGreatest {net | ∃ segment, segment <:+: tags ∧ void.net segment = net}
        (nesting.deepest : Int)

/-- One more tag moves the depth by its net, unless that leads below zero. -/
theorem depth_feed (nesting : Nesting) (tag : Tag)
    : ((nesting.feed void tag).depth : Int) = max 0 (nesting.depth + void.net [tag]) := by
  unfold feed
  split
  · next opens =>
      have net : void.net [tag] = 1 := by
        simp [VoidElements.net, opens, void.closesElement_of_opensElement opens]
      rw [net]
      dsimp only
      omega
  · next opensNone =>
      split
      · next closes =>
          have net : void.net [tag] = -1 := by simp [VoidElements.net, opensNone, closes]
          rw [net]
          dsimp only
          omega
      · next closesNone =>
          have net : void.net [tag] = 0 := by simp [VoidElements.net, opensNone, closesNone]
          rw [net]
          omega

/-- The greatest depth grows to the depth behind one more tag, if that is greater. -/
theorem deepest_feed {nesting : Nesting} (reached : nesting.depth ≤ nesting.deepest) (tag : Tag)
    : (nesting.feed void tag).deepest = max nesting.deepest (nesting.feed void tag).depth := by
  unfold feed
  split
  · rfl
  · split
    · dsimp only
      omega
    · omega

/-- An end of a stream is a segment of it, so the depth does not exceed the greatest one. -/
theorem Nets.depth_le_deepest {tags : List Tag} {nesting : Nesting} (nets : Nets void tags nesting)
    : nesting.depth ≤ nesting.deepest := by
  obtain ⟨ending, behind, net⟩ := nets.depth.1
  exact Int.ofNat_le.mp (nets.deepest.2 ⟨ending, behind.isInfix, net⟩)

theorem nets_outside : Nets void [] outside where
  depth := by simp [outside]
  deepest := by simp [outside]

/-- One more tag keeps what a nesting remembers. Witness: an end of the longer stream is empty, or
it is an end of the shorter one with the tag behind it, and the other segments are those from
before.
-/
theorem Nets.feed {tags : List Tag} {nesting : Nesting} (nets : Nets void tags nesting) (tag : Tag)
    : Nets void (tags ++ [tag]) (nesting.feed void tag) := by
  have depth : IsGreatest {net | ∃ ending, ending <:+ tags ++ [tag] ∧ void.net ending = net}
      ((nesting.feed void tag).depth : Int) := by
    rw [depth_feed]
    constructor
    · rcases Int.le_total 0 (nesting.depth + void.net [tag]) with above | below
      · obtain ⟨ending, behind, net⟩ := nets.depth.1
        refine ⟨ending ++ [tag], List.suffix_append_self_iff.mpr behind, ?_⟩
        rw [void.net_append, net, Int.max_eq_right above]
      · exact ⟨[], List.nil_suffix, (Int.max_eq_left below).symm⟩
    · intro net member
      obtain ⟨ending, behind, rfl⟩ := member
      rcases List.suffix_concat_iff.mp behind with rfl | ⟨shorter, rfl, within⟩
      · exact Int.le_max_left _ _
      · have less := nets.depth.2 ⟨shorter, within, rfl⟩
        rw [void.net_append]
        omega
  refine { depth, deepest := ?_ }
  rw [deepest_feed void (nets.depth_le_deepest void)]
  constructor
  · rcases Nat.le_total (nesting.feed void tag).depth nesting.deepest with same | deeper
    · obtain ⟨segment, within, net⟩ := nets.deepest.1
      rw [Nat.max_eq_left same]
      exact ⟨segment, List.infix_concat_iff.mpr (.inr within), net⟩
    · obtain ⟨ending, behind, net⟩ := depth.1
      rw [Nat.max_eq_right deeper]
      exact ⟨ending, behind.isInfix, net⟩
  · intro net member
    obtain ⟨segment, within, rfl⟩ := member
    rcases List.infix_concat_iff.mp within with behind | earlier
    · have less := depth.2 ⟨segment, behind, rfl⟩
      omega
    · have less := nets.deepest.2 ⟨segment, earlier, rfl⟩
      omega

/-- The nesting behind a stream remembers its nets, by induction from the front to the last tag. -/
theorem nets_ofTags (tags : List Tag) : Nets void tags (ofTags void tags) := by
  induction tags using List.reverseRecOn with
  | nil => exact nets_outside void
  | append_singleton tags tag ih =>
      have last : ofTags void (tags ++ [tag]) = (ofTags void tags).feed void tag := by
        simp [ofTags]
      rw [last]
      exact ih.feed void tag

/-- Behind each front part of a stream the depth is the greatest net over the ends of that part, and
the greatest depth is the greatest net over its segments. So a stream is no deeper than it has
elements, and it is as deep when it closes none of them.
-/
theorem ofTags_greatest_net (tags : List Tag)
    : (∀ front,
        front <+: tags
        → IsGreatest {net | ∃ ending, ending <:+ front ∧ void.net ending = net}
            ((ofTags void front).depth : Int)
          ∧ IsGreatest {net | ∃ segment, segment <:+: front ∧ void.net segment = net}
            ((ofTags void front).deepest : Int))
      ∧ (ofTags void tags).deepest ≤ void.elementCount tags
      ∧ ((∀ tag ∈ tags, ¬ void.closesElement tag)
        → (ofTags void tags).deepest = void.elementCount tags) := by
  have bounded : (ofTags void tags).deepest ≤ void.elementCount tags := by
    obtain ⟨segment, within, net⟩ := (nets_ofTags void tags).deepest.1
    have less := void.net_le_elementCount within
    omega
  refine ⟨fun front _ => ?_, bounded, fun noClosing => ?_⟩
  · have nets := nets_ofTags void front
    exact ⟨nets.depth, nets.deepest⟩
  · have whole := (nets_ofTags void tags).deepest.2 ⟨tags, List.infix_rfl, rfl⟩
    rw [void.net_eq_elementCount noClosing] at whole
    omega

/-- A closing tag in front of all others takes nothing from the depth behind it, and the closing tag
behind two elements leaves the greatest depth as it was.
-/
theorem ofTags_greatest_net_stray
    : let item (kind : TagKind) : Tag :=
        { kind, name := "li", span := .documentStart, attributes := [] }
      let opened := [item .opening, item .opening]
      let tags := item .closing :: (opened ++ [item .closing])
      item .closing :: opened <+: tags
      ∧ (∀ tag ∈ opened, ¬ VoidElements.html.closesElement tag)
      ∧ ofTags .html tags = { depth := 1, deepest := 2 }
      ∧ IsGreatest
          {net | ∃ ending, ending <:+ item .closing :: opened ∧ VoidElements.html.net ending = net}
          2
      ∧ IsGreatest
          {net | ∃ segment, segment <:+: tags ∧ VoidElements.html.net segment = net} 2
      ∧ (ofTags .html opened).deepest = VoidElements.html.elementCount opened := by
  intro item opened tags
  have front : item .closing :: opened <+: tags := ⟨[item .closing], rfl⟩
  have noClosing : ∀ tag ∈ opened, ¬ VoidElements.html.closesElement tag := by decide +kernel
  obtain ⟨fronts, -, -⟩ := ofTags_greatest_net .html tags
  obtain ⟨-, -, even⟩ := ofTags_greatest_net .html opened
  have inner : ofTags .html (item .closing :: opened) = { depth := 2, deepest := 2 } := by
    decide +kernel
  have whole : ofTags .html tags = { depth := 1, deepest := 2 } := by decide +kernel
  have depth := (fronts _ front).1
  have deepest := (fronts tags List.prefix_rfl).2
  rw [inner] at depth
  rw [whole] at deepest
  exact ⟨front, noClosing, whole, depth, deepest, even noClosing⟩

end Nesting

end PageAudit
