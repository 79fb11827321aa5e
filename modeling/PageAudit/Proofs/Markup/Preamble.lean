import PageAudit.Proofs.Markup.Document
import PageAudit.Proofs.Markup.Head
import PageAudit.Proofs.Markup.RawText
import PageAudit.Rule.Basic

/-! What stands in front of the markup of a document, such as a byte order mark, a licence or blank
lines, moves its tags and changes nothing else about them. Measures that are taken from the tags
alone stay the same, and so do all distances within the head.
-/

namespace PageAudit

/-- (moved distance head) is a head that stands further on by some bytes. The distances into its
content stay the same.
-/
def Head.moved (distance : Nat) (head : Head) : Head :=
  { head with
    openTag := head.openTag.shift distance
    content := head.content.shift distance }

-----------------------------------------------------------------------------------------
-- Measures of tags that stand further on
-----------------------------------------------------------------------------------------

theorem Span.between_shift (distance start stop : Nat)
    : Span.between (distance + start) (distance + stop)
      = (Span.between start stop).shift distance := by
  simp only [Span.between, Span.shift, Nat.add_max_add_left]

theorem Offset.distance_add (distance base offset : Nat)
    : Offset.distance (distance + base) (distance + offset) = Offset.distance base offset :=
  Nat.add_sub_add_left distance offset base

/-- Elements are counted by their tags, wherever these stand. -/
theorem VoidElements.elementCount_moved (void : VoidElements) (distance : Nat) (tags : List Tag)
    : void.elementCount (tags.map (·.moved distance)) = void.elementCount tags := by
  rw [elementCount, List.countP_map]
  rfl

theorem Nesting.ofTags_moved (void : VoidElements) (distance : Nat) (tags : List Tag)
    : ofTags void (tags.map (·.moved distance)) = ofTags void tags := by
  rw [ofTags, List.foldl_map]
  rfl

namespace Head

theorem behindOpening?_moved (distance : Nat) (tags : List Tag)
    : behindOpening? (tags.map (·.moved distance))
      = (behindOpening? tags).map fun (opening, following) =>
          (opening.moved distance, following.map (·.moved distance)) := by
  induction tags with
  | nil => rfl
  | cons tag tags ih =>
      have same : ((tag.moved distance).kind == .opening && (tag.moved distance).hasName "head")
          = (tag.kind == .opening && tag.hasName "head") := rfl
      rw [List.map_cons, behindOpening?_cons, behindOpening?_cons, same, ih]
      split <;> rfl

/-- The first wanted tag of some that stand further on is as far behind a base that is moved with
them.
-/
theorem distance_find?_moved {wanted : Tag → Bool} {distance : Nat}
    (unmoved : ∀ tag : Tag, wanted (tag.moved distance) = wanted tag) (base : Nat)
    (tags : List Tag)
    : ((tags.map (·.moved distance)).find? wanted).map
        (fun tag => Offset.distance (distance + base) tag.span.start)
      = (tags.find? wanted).map (fun tag => Offset.distance base tag.span.start) := by
  have same : wanted ∘ (Tag.moved distance ·) = wanted := funext unmoved
  rw [List.find?_map, Option.map_map, same]
  congr 1
  funext tag
  exact Offset.distance_add distance base tag.span.start

/-- The head of tags that stand further on is their head, moved with them. -/
theorem locate?_moved (distance : Nat) (tags : List Tag) (textSize : Nat)
    : locate? (tags.map (·.moved distance)) (distance + textSize)
      = (locate? tags textSize).map (·.moved distance) := by
  rw [locate?, locate?, behindOpening?_moved, Option.map_map, Option.map_map]
  congr 1
  funext found
  obtain ⟨opening, following⟩ := found
  have passes : (fun tag : Tag => !tag.closes "head") ∘ Tag.moved distance
      = fun tag => !tag.closes "head" := rfl
  simp only [Function.comp_apply, List.span_eq_takeWhile_dropWhile, List.takeWhile_map,
    List.dropWhile_map, passes]
  generalize following.takeWhile _ = inner
  generalize following.dropWhile _ = behind
  have stop
      : ((behind.map (Tag.moved distance)).head?.map (·.span.start)).getD (distance + textSize)
        = distance + (behind.head?.map (·.span.start)).getD textSize := by
    cases behind <;> rfl
  have base : (opening.moved distance).span.stop = distance + opening.span.stop := rfl
  have remembered (wanted : Tag → Bool)
      (unmoved : ∀ tag : Tag, wanted (tag.moved distance) = wanted tag) :=
    distance_find?_moved unmoved opening.span.stop inner
  rw [stop, base, Span.between_shift, remembered Tag.isCharset fun _ => rfl,
    remembered (·.opens "title") fun _ => rfl, remembered Tag.isStylesheet fun _ => rfl,
    remembered (·.opens "script") fun _ => rfl]
  rfl

end Head

-----------------------------------------------------------------------------------------
-- Documents behind a preamble
-----------------------------------------------------------------------------------------

open Markup (tokenize)
open Text (byteSize)

/-- A preamble without `<` moves the tags of a document by its size: their kinds, names and attributes
stay the same. The preamble may hold a marker that says that the head is managed, and of the other
measures it changes the size of the document and the place of the head. Neither the numbers of
elements and levels nor any distance within the head depends on it.
-/
theorem tokenize_preamble {preamble : Text} (text : Text) (plain : '<' ∉ preamble)
    : tokenize (preamble ++ text) = (tokenize text).map (·.moved (byteSize preamble))
      ∧ ∀ (policy : Policy) (tables : Tables) (fileName : Text),
          let shape := (Page.ofText policy tables fileName text).shape
          (Page.ofText policy tables fileName (preamble ++ text)).shape
            = { shape with
                bytes := byteSize preamble + shape.bytes
                head := shape.head.map (·.moved (byteSize preamble))
                headManaged := holdsMarker policy.headMarkers (preamble ++ text) } := by
  have moved : tokenize (preamble ++ text) = (tokenize text).map (·.moved (byteSize preamble)) :=
    (Markup.scan_tokenize (preamble ++ text)).unique
      (Markup.scan_text plain rfl (Markup.scan_behind preamble text))
  refine ⟨moved, fun policy tables fileName => ?_⟩
  dsimp only [Page.ofText, Page.ofTags, Shape.measure]
  rw [moved, Text.byteSize_append, tables.void.elementCount_moved, Nesting.ofTags_moved,
    Head.locate?_moved]

/-- Witness: a byte order mark and a licence in front of a comment, a head that is never closed, a
tag without an end and a script without one. The title stays two bytes behind the start of the head.
-/
theorem tokenize_preamble_licence
    : let preamble : Text := "\uFEFF/* > */\n"
      let text : Text := "<!-- <b> --><head>é<title>a</title><p \"<script>'<b>'"
      let page := Page.ofText .standard .standard "page.html"
      '<' ∉ preamble
      ∧ (tokenize (preamble ++ text)).length = 4
      ∧ tokenize (preamble ++ text) = (tokenize text).map (·.moved 11)
      ∧ (page (preamble ++ text)).shape.elements = 3
      ∧ (page (preamble ++ text)).shape.head.map (·.title) = some (some 2)
      ∧ (page (preamble ++ text)).shape.head = (page text).shape.head.map (·.moved 11) := by
  intro preamble text page
  have plain : '<' ∉ preamble := by decide
  have size : byteSize preamble = 11 := by decide +kernel
  obtain ⟨moved, shapes⟩ := tokenize_preamble text plain
  have shape := shapes .standard .standard "page.html"
  rw [size] at moved shape
  refine ⟨plain, by decide +kernel, moved, by decide +kernel, by decide +kernel, ?_⟩
  exact congrArg Shape.head shape

end PageAudit
