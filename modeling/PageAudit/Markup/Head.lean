import PageAudit.Markup.Tag
import PageAudit.Source.Offset

/-! The head of a document and the order of what is declared in it. -/

namespace PageAudit

namespace Tag

/-- A tag declares the character encoding, by an attribute of its own or as the content type. -/
def isCharset (tag : Tag) : Bool :=
  tag.opens "meta"
    && (tag.hasAttribute "charset"
      || (tag.attributeIs "http-equiv" "content-type"
        && (tag.attribute? "content").any
          (fun value => Text.contains "charset" (Text.lower value))))

/-- A tag links a stylesheet. -/
def isStylesheet (tag : Tag) : Bool :=
  tag.opens "link" && tag.attributeHasToken "rel" "stylesheet"

end Tag

/-- The first head of a document: its opening tag, its content, and how far into the content
the first tags of four kinds start.
-/
structure Head where
  openTag : Span
  content : Span
  charset : Option Nat
  title : Option Nat
  stylesheet : Option Nat
  script : Option Nat
deriving DecidableEq

namespace Head

/-- The tags of a stream that follow its first opening head tag, and that tag. -/
def behindOpening? : List Tag → Option (Tag × List Tag)
  | [] => none
  | tag :: tags =>
      if tag.kind == .opening && tag.hasName "head" then some (tag, tags)
      else behindOpening? tags

/-- The head in a stream of tags of a text with `textSize` bytes. A head that is not closed
takes the rest of the text.
-/
def locate? (tags : List Tag) (textSize : Nat) : Option Head :=
  (behindOpening? tags).map fun (opening, following) =>
    let (inner, closing) := following.span (fun tag => !tag.closes "head")
    let base := opening.span.stop
    let distance? := fun (wanted : Tag → Bool) =>
      (inner.find? wanted).map (fun tag => Offset.distance base tag.span.start)
    { openTag := opening.span
      content := .between base ((closing.head?.map (·.span.start)).getD textSize)
      charset := distance? Tag.isCharset
      title := distance? (·.opens "title")
      stylesheet := distance? Tag.isStylesheet
      script := distance? (·.opens "script") }

/-- The tags that a head remembers. -/
def landmarks : List (Tag → Bool) :=
  [Tag.isCharset, (·.opens "title"), Tag.isStylesheet, (·.opens "script")]

/-- The tags that the head of a stream remembers stand behind its opening tag. Those of a text do. A
stream of other tags may have them in front of it, and then they are at no distance.
-/
def isMeasurable (tags : List Tag) : Bool :=
  (behindOpening? tags).all fun (opening, following) =>
    let inner := following.takeWhile (fun tag => !tag.closes "head")
    landmarks.all fun wanted =>
      (inner.find? wanted).all (fun tag => opening.span.stop ≤ tag.span.start)

/-- The offset in the document of a place in the content. -/
def absolute (head : Head) (distance : Nat) : Nat :=
  Offset.advance head.content.start distance

end Head

end PageAudit
