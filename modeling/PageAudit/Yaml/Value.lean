import PageAudit.Json.Value
import PageAudit.Yaml.Anchor
import PageAudit.Yaml.Kind

/-! The values of YAML documents, in the terms of JSON. -/

namespace PageAudit.Yaml

/-- Reading a document, with the number of aliases that may still be followed. -/
abbrev Reading := StateT Nat Option

/-- The nodes that aliases stand for, by the numbers of their anchors, and the expansions of the
handles of tags.
-/
structure Surroundings where
  nodes : List (Nat × Node Nat)
  handles : Handles

namespace Surroundings

/-- One alias less may be followed. -/
def spend : Reading Unit := fun left =>
  match left with
  | 0 => none
  | left + 1 => some ((), left)

/-- A node without its anchor, or the one that an alias stands for. -/
def follow (around : Surroundings) : Node Nat → Reading (Node Nat)
  | .anchored _ node => pure node
  | .alias number => do
      spend
      (around.nodes.lookup number : Option (Node Nat))
  | node => pure node

/-- The name of a tag in full. A handle that is not known is refused. -/
def tagName? (around : Surroundings) (tag : Option Tag) : Option (Option Name) :=
  match tag with
  | some tag => (tag.expand? around.handles).map some
  | none => some none

/-- The tag of a collection may not be one of the document's own. -/
def allowsCollection (around : Surroundings) (tag : Option Tag) : Bool :=
  (around.tagName? tag).any (fun name => !name.any isOwnKind)

/-- The text of a key, which is a scalar with any tag. -/
def key? (around : Surroundings) (node : Node Nat) : Reading Text := do
  match ← around.follow node with
  | .scalar tag _ text => if (around.tagName? tag).isSome then pure text else failure
  | _ => failure

/-- (value? around depth node) is the value of a node in which collections are nested at most so
deep, also within the nodes that aliases stand for.
-/
def value? (around : Surroundings) : Nat → Node Nat → Reading Json.Value
  | depth, node => do
      match depth, ← around.follow node with
      | _, .scalar tag isPlain text =>
          ((around.tagName? tag).bind (scalarValue? · isPlain text) : Option Json.Value)
      | depth + 1, .sequence tag items =>
          if around.allowsCollection tag then
            return .array (← items.mapM (value? around depth))
          else failure
      | depth + 1, .mapping tag entries =>
          if around.allowsCollection tag then
            return .object
              (← entries.mapM fun (key, node) => do
                return (← around.key? key, ← value? around depth node))
          else failure
      | _, _ => failure

end Surroundings

/-- Collections may be nested this deep. -/
def maxDepth : Nat :=
  128

/-- How many aliases may be followed for each place of a document. -/
def aliasesPerPlace : Nat :=
  100

/-- The value of a document. -/
def Document.value? (document : Document) : Option Json.Value :=
  (document.root.number? []).bind fun (root, _) =>
    let around : Surroundings := { nodes := root.targets.reverse, handles := document.handles }
    ((around.value? maxDepth root).run (aliasesPerPlace * root.places)).map (·.1)

/-- The value that a YAML text spells. -/
def valueOfText? (text : Text) : Option Json.Value :=
  (Document.ofText? text).bind Document.value?

end PageAudit.Yaml
