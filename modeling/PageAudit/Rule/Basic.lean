import PageAudit.Bundle.Dependency
import PageAudit.Files.Path
import PageAudit.Finding.Basic
import PageAudit.Markup.Element
import PageAudit.Markup.Head
import PageAudit.Markup.Stream
import PageAudit.Policy.Basic

/-! Rules are functions from a page to findings. A page is a document with everything that a
rule may look at, and rules never see each other's findings.
-/

namespace PageAudit

/-- The reference data that rules use. -/
structure Tables where
  void : VoidElements
  dependencies : DependencyTable

/-- The void elements of HTML and the common heavy packages. -/
def Tables.standard : Tables :=
  { void := .html, dependencies := .common }

/-- The measures of a document: its numbers of elements, levels and bytes, its head, whether a
library manages that head, and whether the file holds a component.
-/
structure Shape where
  elements : Nat
  depth : Nat
  bytes : Nat
  head : Option Head
  headManaged : Bool
  component : Bool

/-- A text holds one of the given markers. The empty marker counts for nothing. -/
def holdsMarker (markers : List Text) (text : Text) : Bool :=
  markers.any (fun marker => !marker.isEmpty && Text.contains marker text)

/-- The measures of a document with the given tags. -/
def Shape.measure (void : VoidElements) (policy : Policy) (fileName text : Text)
    (tags : List Tag)
    : Shape :=
  let bytes := Text.byteSize text
  { elements := void.elementCount tags
    depth := (Nesting.ofTags void tags).deepest
    bytes
    head := Head.locate? tags bytes
    headManaged := holdsMarker policy.headMarkers text
    component := Path.isComponent fileName }

/-- A document with its tags and measures, the policy of the project and the tables. -/
structure Page where
  text : Text
  fileName : Text
  tags : List Tag
  shape : Shape
  policy : Policy
  tables : Tables

namespace Page

/-- A document with given tags. -/
def ofTags (policy : Policy) (tables : Tables) (fileName text : Text) (tags : List Tag)
    : Page :=
  { text, fileName, tags, policy, tables
    shape := .measure tables.void policy fileName text tags }

/-- A document with given tags. There is none when the head of the tags cannot be measured. -/
def ofTags? (policy : Policy) (tables : Tables) (fileName text : Text) (tags : List Tag)
    : Option Page :=
  if Head.isMeasurable tags then some (ofTags policy tables fileName text tags) else none

/-- A document with the tags that stand in it. -/
def ofText (policy : Policy) (tables : Tables) (fileName text : Text) : Page :=
  ofTags policy tables fileName text (Markup.tokenize text)

/-- The document has a head. -/
def hasHead (page : Page) : Bool :=
  page.shape.head.isSome

/-- The opening tag of the head, or the start of the document when it has none. -/
def headAnchor (page : Page) : Span :=
  match page.shape.head with
  | some head => head.openTag
  | none => .documentStart

/-- The opening and self-closing tags of a name. -/
def opening (page : Page) (name : Text) : List Tag :=
  page.tags.filter (·.opens name)

/-- (narrow tags offset size base) halves the part of `size` tags from index `base` on until
one is left: the last of those that start at or before the offset, when the tags are in
order.
-/
def narrow (tags : Array Tag) (offset size base : Nat) : Nat :=
  if 1 < size then
    let half := size / 2
    let middle := base + half
    let base :=
      if tags[middle]?.any (fun tag => offset < tag.span.start) then base else middle
    narrow tags offset (size - half) base
  else base
termination_by size

/-- The tag that starts at an offset, found by halving. The tags have to be in order. -/
def tagAt? (page : Page) (offset : Nat) : Option Tag :=
  let tags := page.tags.toArray
  (tags[narrow tags offset tags.size 0]?).filter (fun tag => tag.span.start == offset)

end Page

/-- A rule has an identifier, a description, the codes that it reports and its check. The check
counts exactly. On a page that has more of something than a word of 64 bits can count, the rule
overflows.
-/
structure Rule where
  id : Text
  description : Text
  category : Category
  codes : List Text
  evaluate : Page → List Finding
  overflows : Page → Bool := fun _ => false

/-- The findings of a rule for a page. There are none, not even an empty list, when it overflows. -/
def Rule.evaluate? (rule : Rule) (page : Page) : Option (List Finding) :=
  if rule.overflows page then none else some (rule.evaluate page)

end PageAudit
