import PageAudit.Yaml.Token

/-! The structure of YAML documents: scalars, sequences and mappings, with their anchors and
tags.
-/

namespace PageAudit.Yaml

/-- A node of a document. An alias stands for a node with an anchor. Anchors are told apart by
their names, as they are written, or by numbers.
-/
inductive Node (ι : Type) where
  | scalar (tag : Option Tag) (isPlain : Bool) (text : Text)
  | sequence (tag : Option Tag) (items : List (Node ι))
  | mapping (tag : Option Tag) (entries : List (Node ι × Node ι))
  | anchored (anchor : ι) (node : Node ι)
  | alias (anchor : ι)

namespace Node

/-- What stands in a place that is left empty. -/
def empty : Node Text :=
  .scalar none true []

/-- A node with its anchor, when it has one. -/
def withAnchor (anchor : Option Text) (node : Node Text) : Node Text :=
  match anchor with
  | some name => .anchored name node
  | none => node

/-- The anchor and the tag at the front of some tokens, in either order. -/
def properties : List Token → Option Text × Option Tag × List Token
  | .anchor name :: .tag tag :: tokens => (some name, some tag, tokens)
  | .tag tag :: .anchor name :: tokens => (some name, some tag, tokens)
  | .anchor name :: tokens => (some name, none, tokens)
  | .tag tag :: tokens => (none, some tag, tokens)
  | tokens => (none, none, tokens)

/-- A token that ends an entry of a block mapping which is left empty. -/
def endsBlockPart : Option Token → Bool
  | some .key | some .value | some .blockEnd => true
  | _ => false

/-- A token that ends an entry of a flow collection which is left empty. -/
def endsFlowPart : Option Token → Bool
  | some .separator | some .flowSequenceEnd | some .flowMappingEnd => true
  | _ => false

/-- Which collections a node may be: blocks, and sequences without indentation of their own. -/
structure Context where
  isBlock : Bool
  allowsFlush : Bool

/-- Within blocks. -/
def Context.block : Context :=
  { isBlock := true, allowsFlush := false }

/-- In an entry of a block mapping. -/
def Context.entry : Context :=
  { isBlock := true, allowsFlush := true }

/-- Within flow collections. -/
def Context.flow : Context :=
  { isBlock := false, allowsFlush := false }

mutual

/-- (read? fuel context tokens) is the node at the front of some tokens, and the tokens behind
it. Each step takes a token, so `fuel` need not be more than a few for each.
-/
def read? : Nat → Context → List Token → Option (Node Text × List Token)
  | 0, _, _ => none
  | fuel + 1, context, tokens =>
      match tokens with
      | .alias name :: tokens => some (.alias name, tokens)
      | _ =>
          let (anchor, tag, tokens) := properties tokens
          (readContent? fuel context (anchor.isSome || tag.isSome) tag tokens).map
            fun (node, tokens) => (node.withAnchor anchor, tokens)

/-- The content of a node behind its properties. It may be left empty when there are any. -/
def readContent? : Nat → Context → Bool → Option Tag → List Token
    → Option (Node Text × List Token)
  | 0, _, _, _, _ => none
  | fuel + 1, context, hasProperties, tag, tokens =>
      let otherwise := if hasProperties then some (.scalar tag true [], tokens) else none
      match tokens with
      | .scalar isPlain text :: tokens =>
          some (.scalar tag isPlain text, tokens)
      | .flowSequence :: tokens =>
          (readFlowItems? fuel true tokens).map fun (items, tokens) => (.sequence tag items, tokens)
      | .flowMapping :: tokens =>
          (readFlowEntries? fuel true tokens).map
            fun (entries, tokens) => (.mapping tag entries, tokens)
      | .entry :: _ =>
          if context.allowsFlush then
            (readFlushItems? fuel tokens).map fun (items, tokens) => (.sequence tag items, tokens)
          else otherwise
      | .blockSequence :: tokens =>
          if context.isBlock then
            (readItems? fuel tokens).map fun (items, tokens) => (.sequence tag items, tokens)
          else otherwise
      | .blockMapping :: tokens =>
          if context.isBlock then
            (readEntries? fuel tokens).map fun (entries, tokens) => (.mapping tag entries, tokens)
          else otherwise
      | _ => otherwise

/-- The items of a block sequence up to its end. -/
def readItems? : Nat → List Token → Option (List (Node Text) × List Token)
  | 0, _ => none
  | _ + 1, .blockEnd :: tokens => some ([], tokens)
  | fuel + 1, .entry :: tokens =>
      let isEmpty := tokens.head? == some .entry || tokens.head? == some .blockEnd
      (if isEmpty then some (empty, tokens) else read? fuel .block tokens).bind
        fun (item, tokens) =>
          (readItems? fuel tokens).map fun (items, tokens) => (item :: items, tokens)
  | _ + 1, _ => none

/-- The items of a sequence that is not indented further than the mapping around it. -/
def readFlushItems? : Nat → List Token → Option (List (Node Text) × List Token)
  | 0, _ => none
  | fuel + 1, .entry :: tokens =>
      let isEmpty := tokens.head? == some .entry || endsBlockPart tokens.head?
      (if isEmpty then some (empty, tokens) else read? fuel .block tokens).bind
        fun (item, tokens) =>
          (readFlushItems? fuel tokens).map fun (items, tokens) => (item :: items, tokens)
  | _ + 1, tokens => some ([], tokens)

/-- The entries of a block mapping up to its end. -/
def readEntries? : Nat → List Token → Option (List (Node Text × Node Text) × List Token)
  | 0, _ => none
  | _ + 1, .blockEnd :: tokens => some ([], tokens)
  | fuel + 1, .key :: tokens =>
      (readPart? fuel tokens).bind fun (key, tokens) =>
        (match tokens with
          | .value :: tokens => readPart? fuel tokens
          | tokens => some (empty, tokens)).bind
          fun (value, tokens) =>
            (readEntries? fuel tokens).map
              fun (entries, tokens) => ((key, value) :: entries, tokens)
  | _ + 1, _ => none

/-- The key or the value of an entry of a block mapping, which may be left empty. -/
def readPart? : Nat → List Token → Option (Node Text × List Token)
  | 0, _ => none
  | fuel + 1, tokens =>
      if endsBlockPart tokens.head? then some (empty, tokens) else read? fuel .entry tokens

/-- The items of a flow sequence up to its end. A pair among them is a mapping of its own. -/
def readFlowItems? : Nat → Bool → List Token → Option (List (Node Text) × List Token)
  | 0, _, _ => none
  | _ + 1, _, .flowSequenceEnd :: tokens => some ([], tokens)
  | fuel + 1, isFirst, tokens =>
      (match isFirst, tokens with
        | true, tokens => some tokens
        | false, .separator :: tokens => some tokens
        | false, _ => none).bind
        fun
        | .flowSequenceEnd :: tokens => some ([], tokens)
        | .key :: tokens =>
            (readPair? fuel tokens).bind fun (item, tokens) =>
              (readFlowItems? fuel false tokens).map fun (items, tokens) => (item :: items, tokens)
        | tokens =>
            (read? fuel .flow tokens).bind fun (item, tokens) =>
              (readFlowItems? fuel false tokens).map fun (items, tokens) => (item :: items, tokens)

/-- A pair in a flow sequence behind the mark of its key. A key that is left empty takes the token
that ends it.
-/
def readPair? : Nat → List Token → Option (Node Text × List Token)
  | 0, _ => none
  | fuel + 1, tokens =>
      (match tokens with
        | .value :: tokens | .separator :: tokens | .flowSequenceEnd :: tokens =>
            some (empty, tokens)
        | tokens => read? fuel .flow tokens).bind
        fun (key, tokens) =>
          (readFlowValue? fuel tokens).map
            fun (value, tokens) => (.mapping none [(key, value)], tokens)

/-- The value of an entry of a flow collection, which may be left empty. -/
def readFlowValue? : Nat → List Token → Option (Node Text × List Token)
  | 0, _ => none
  | fuel + 1, .value :: tokens =>
      if endsFlowPart tokens.head? then some (empty, tokens) else read? fuel .flow tokens
  | _ + 1, tokens => some (empty, tokens)

/-- The entries of a flow mapping up to its end. A node without a colon is a key alone. -/
def readFlowEntries? : Nat → Bool → List Token → Option (List (Node Text × Node Text) × List Token)
  | 0, _, _ => none
  | _ + 1, _, .flowMappingEnd :: tokens => some ([], tokens)
  | fuel + 1, isFirst, tokens =>
      (match isFirst, tokens with
        | true, tokens => some tokens
        | false, .separator :: tokens => some tokens
        | false, _ => none).bind
        fun
        | .flowMappingEnd :: tokens => some ([], tokens)
        | .key :: tokens =>
            (if tokens.head? == some Token.value || endsFlowPart tokens.head? then
                some (empty, tokens)
              else read? fuel .flow tokens).bind
              fun (key, tokens) =>
                (readFlowValue? fuel tokens).bind fun (value, tokens) =>
                  (readFlowEntries? fuel false tokens).map
                    fun (entries, tokens) => ((key, value) :: entries, tokens)
        | tokens =>
            (read? fuel .flow tokens).bind fun (key, tokens) =>
              (readFlowEntries? fuel false tokens).map
                fun (entries, tokens) => ((key, empty) :: entries, tokens)

end

end Node

/-- A document: its root and the handles that its tags use. -/
structure Document where
  root : Node Text
  handles : Handles

namespace Document

/-- (readDirectives? hasVersion stated tokens) reads the directives before a document. There is at
most one version, which is 1.1 or 1.2, and no handle is stated twice.
-/
def readDirectives? : Bool → Handles → List Token → Option (Handles × List Token)
  | hasVersion, stated, .version major minor :: tokens =>
      let isKnown := major == 1 && (minor == 1 || minor == 2)
      if hasVersion ∨ ¬ isKnown then none else readDirectives? true stated tokens
  | hasVersion, stated, .tagHandle handle expansion :: tokens =>
      if (stated.lookup handle).isSome then none
      else readDirectives? hasVersion ((handle, expansion) :: stated) tokens
  | _, stated, tokens => some (stated, tokens)

/-- The node of a document behind its start, which may be left empty. -/
def readRoot? (tokens : List Token) : Option (Node Text × List Token) :=
  match tokens with
  | [] | .documentStart :: _ | .documentEnd :: _ | .version _ _ :: _ | .tagHandle _ _ :: _ =>
      some (.empty, tokens)
  | _ => Node.read? (4 * tokens.length + 4) .block tokens

/-- The first document of a text and the tokens behind it. Directives need a mark for its
start.
-/
def readFirst? (tokens : List Token) : Option (Document × List Token) :=
  match tokens with
  | .documentStart :: _ | .version _ _ :: _ | .tagHandle _ _ :: _ =>
      (readDirectives? false [] tokens).bind fun (stated, tokens) =>
        match tokens with
        | .documentStart :: tokens =>
            (readRoot? tokens).map fun (root, tokens) =>
              ({ root, handles := stated ++ standardHandles }, tokens)
        | _ => none
  | [] => some ({ root := .empty, handles := standardHandles }, [])
  | _ =>
      (Node.read? (4 * tokens.length + 4) .block tokens).map fun (root, tokens) =>
        ({ root, handles := standardHandles }, tokens)

/-- The document that a text spells, when it spells no other one behind it. -/
def ofText? (text : Text) : Option Document :=
  (tokens? text).bind fun tokens =>
    (readFirst? tokens).bind fun (document, tokens) =>
      if tokens.all (· == .documentEnd) then some document else none

end Document

end PageAudit.Yaml
