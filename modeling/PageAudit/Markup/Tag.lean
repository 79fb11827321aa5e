import PageAudit.Source.Span
import PageAudit.Text.Blank

/-! Tags as they stand in a document, and the questions that rules ask about them. -/

namespace PageAudit

/-- A tag opens an element, closes one, or does both at once. -/
inductive TagKind where
  | opening
  | closing
  | selfClosing
deriving DecidableEq

/-- An attribute has its name as written. A bare attribute has no value. -/
structure Attribute where
  name : Text
  value : Option Text
deriving DecidableEq

/-- A tag has its name as written and the span from its `<` to behind its `>`. -/
structure Tag where
  kind : TagKind
  name : Text
  span : Span
  attributes : List Attribute
deriving DecidableEq

namespace Tag

/-- A tag has a name, in any case. -/
def hasName (tag : Tag) (name : Text) : Bool :=
  Text.sameLetters tag.name name

/-- A tag is an opening or self-closing one of a name. -/
def opens (tag : Tag) (name : Text) : Bool :=
  tag.kind != .closing && tag.hasName name

/-- A tag is a closing one of a name. -/
def closes (tag : Tag) (name : Text) : Bool :=
  tag.kind == .closing && tag.hasName name

/-- A capital at the start and a small letter behind it name a component of a framework and
not an element of the page itself.
-/
def isComponent (tag : Tag) : Bool :=
  match tag.name with
  | [] => false
  | first :: rest => first.isUpper && rest.any Char.isLower

/-- The value of the first attribute of a name, which is empty for a bare attribute. -/
def attribute? (tag : Tag) (name : Text) : Option Text :=
  (tag.attributes.find? (fun carried => Text.sameLetters carried.name name)).map
    (fun carried => carried.value.getD [])

/-- A tag carries an attribute. -/
def hasAttribute (tag : Tag) (name : Text) : Bool :=
  (tag.attribute? name).isSome

/-- A tag carries an attribute whose value is not `false`. -/
def flag (tag : Tag) (name : Text) : Bool :=
  (tag.attribute? name).any (fun value => !Text.sameLetters (Text.trim value) "false")

/-- A tag carries an attribute with a given token among those in its value. -/
def attributeHasToken (tag : Tag) (name token : Text) : Bool :=
  (tag.attribute? name).any
    (fun value => (Text.tokens value).any (fun part => Text.sameLetters part token))

/-- A tag carries an attribute with a given value, in any case. -/
def attributeIs (tag : Tag) (name expected : Text) : Bool :=
  (tag.attribute? name).any (fun value => Text.sameLetters value expected)

end Tag

end PageAudit
