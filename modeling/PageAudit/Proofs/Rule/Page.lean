import PageAudit.Proofs.Markup.DocumentHead
import PageAudit.Proofs.Rule.TagSearch

/-! What rules may rely on: the tags of a page stand in its text one behind the other, and its head
was found among them.
-/

namespace PageAudit.Page

/-- A page is faithful to its text when it has the tags and the head of a text that was read. -/
structure Faithful (page : Page) : Prop where
  stand : ∀ tag ∈ page.tags, tag.StandsIn page.text
  ordered : page.tags.Pairwise (fun first second => first.span.stop ≤ second.span.start)
  head : page.shape.head = Head.locate? page.tags (Text.byteSize page.text)

/-- The page of a document is faithful to it. -/
theorem ofText_faithful (policy : Policy) (tables : Tables) (fileName text : Text)
    : (ofText policy tables fileName text).Faithful where
  stand := fun _ => Markup.standsIn_of_mem_tokenize
  ordered := Markup.tokenize_ordered text
  head := rfl

/-- The tags that stand in a document always make up a page. -/
theorem ofTags?_tokenize (policy : Policy) (tables : Tables) (fileName text : Text)
    : ofTags? policy tables fileName text (Markup.tokenize text)
      = some (ofText policy tables fileName text) :=
  if_pos (Head.isMeasurable_tokenize text)

namespace Faithful

variable {page : Page} (faithful : page.Faithful)

include faithful

theorem span_liesIn {tag : Tag} (member : tag ∈ page.tags) : tag.span.LiesIn page.text :=
  (faithful.stand tag member).span_liesIn

theorem tagAt?_eq_some {tag : Tag} (member : tag ∈ page.tags)
    : page.tagAt? tag.span.start = some tag :=
  (tagAt?_eq_some_iff (startsIncrease_of_ordered faithful.stand faithful.ordered)).mpr
    ⟨member, rfl⟩

/-- The head of a page begins where a tag stands, and so does a page without one. -/
theorem headAnchor_liesIn : page.headAnchor.LiesIn page.text := by
  unfold headAnchor
  split
  · next head located =>
      rw [faithful.head] at located
      obtain ⟨tag, member, same⟩ := Head.openTag_of_locate? located
      rw [same]
      exact faithful.span_liesIn member
  · exact Span.LiesIn.documentStart page.text

/-- What the head remembers leads back to tags of the page. -/
theorem tagAt?_absolute {head : Head} {distance : Nat} (located : page.shape.head = some head)
    (remembered : some distance ∈ [head.charset, head.title, head.stylesheet, head.script])
    : ∃ tag ∈ page.tags, page.tagAt? (head.absolute distance) = some tag := by
  rw [faithful.head] at located
  obtain ⟨tag, member, start⟩ := Head.absolute_of_locate? faithful.ordered located remembered
  exact ⟨tag, member, by rw [start, faithful.tagAt?_eq_some member]⟩

end Faithful

end PageAudit.Page
