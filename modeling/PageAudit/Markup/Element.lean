import PageAudit.Markup.Tag

/-! Elements are counted by their opening tags. Void elements hold nothing, so their tags
neither count nor nest.
-/

namespace PageAudit

/-- The names of the elements that hold nothing, in lower case. -/
structure VoidElements where
  names : List Text
deriving DecidableEq

namespace VoidElements

/-- The set of the given names in any case. -/
def ofNames (names : List Text) : VoidElements :=
  { names := names.map Text.lower }

/-- The void elements of HTML. -/
def html : VoidElements :=
  ofNames
    ["area", "base", "br", "col", "embed", "hr", "img", "input", "link", "meta", "source",
      "track", "wbr"]

/-- A tag of a void element. A component is none, even when its name agrees. -/
def isVoid (void : VoidElements) (tag : Tag) : Bool :=
  !tag.isComponent && void.names.contains (Text.lower tag.name)

/-- An opening tag of an element that can hold others. -/
def opensElement (void : VoidElements) (tag : Tag) : Bool :=
  tag.kind == .opening && !void.isVoid tag

/-- A closing tag of an element that can hold others. -/
def closesElement (void : VoidElements) (tag : Tag) : Bool :=
  tag.kind == .closing && !void.isVoid tag

/-- The number of elements that can hold others. -/
def elementCount (void : VoidElements) (tags : List Tag) : Nat :=
  tags.countP void.opensElement

end VoidElements

/-- The nesting depth behind a tag of a stream, and the greatest one up to there. Names are
not matched: every closing tag ends the innermost element.
-/
structure Nesting where
  depth : Nat
  deepest : Nat
deriving DecidableEq

namespace Nesting

/-- Outside all elements. -/
def outside : Nesting :=
  { depth := 0, deepest := 0 }

/-- The nesting behind one more tag. A closing tag outside all elements changes nothing. -/
def feed (void : VoidElements) (nesting : Nesting) (tag : Tag) : Nesting :=
  if void.opensElement tag then
    { depth := nesting.depth + 1, deepest := max nesting.deepest (nesting.depth + 1) }
  else if void.closesElement tag then { nesting with depth := nesting.depth - 1 }
  else nesting

/-- The nesting behind the last tag of a stream. -/
def ofTags (void : VoidElements) (tags : List Tag) : Nesting :=
  tags.foldl (feed void) outside

/-- (crossingFrom? void limit nesting tags) is the first of `tags`, which follow on `nesting`,
behind which the depth exceeds a limit.
-/
def crossingFrom? (void : VoidElements) (limit : Nat) : Nesting → List Tag → Option Tag
  | _, [] => none
  | nesting, tag :: tags =>
      let nesting := nesting.feed void tag
      if limit < nesting.depth then some tag else crossingFrom? void limit nesting tags

/-- The first tag of a stream behind which the depth exceeds a limit. -/
def crossing? (void : VoidElements) (limit : Nat) (tags : List Tag) : Option Tag :=
  crossingFrom? void limit outside tags

end Nesting

end PageAudit
