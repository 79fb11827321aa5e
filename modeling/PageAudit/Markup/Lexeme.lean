import PageAudit.Markup.Attributes

/-! A lexeme is a tag as written: `<`, perhaps `/`, a name, the text of the attributes, and
`>`.
-/

namespace PageAudit

/-- The parts of a tag as written, and the text that follows it. -/
structure Lexeme where
  closing : Bool
  name : Text
  attributes : Text
  rest : Text

namespace Lexeme

/-- A letter, a digit, `:`, `.`, `_` or `-` continues the name of a tag. -/
def isNamePart (char : Char) : Bool :=
  char.isAlphanum || char == ':' || char == '.' || char == '_' || char == '-'

/-- The character that ends the run which a quote or a brace begins. -/
def closer? (char : Char) : Option Char :=
  if char = '"' ∨ char = '\'' then some char
  else if char = '{' then some '}'
  else none

/-- (untilEnd? awaited seen text) reads up to the first `>` outside quoted and braced runs.
Within such a run `awaited` is the character that ends it. The characters that are read
already are in `seen`, in reverse.
-/
def untilEnd? : Option Char → Text → Text → Option (Text × Text)
  | _, _, [] => none
  | some awaited, seen, char :: rest =>
      untilEnd? (if char = awaited then none else some awaited) (char :: seen) rest
  | none, seen, char :: rest =>
      if char = '>' then some (seen.reverse, rest)
      else untilEnd? (closer? char) (char :: seen) rest

/-- The name and the rest of a lexeme behind its `<` and `/`. -/
def named? (closing : Bool) (text : Text) : Option Lexeme :=
  match text with
  | [] => none
  | first :: _ =>
      if first.isAlpha then
        let (name, rest) := text.span isNamePart
        (untilEnd? none [] rest).map
          (fun (attributes, rest) => { closing, name, attributes, rest })
      else none

/-- The lexeme at the front of a text. -/
def ofFront? (text : Text) : Option Lexeme :=
  match text with
  | '<' :: '/' :: rest => named? true rest
  | '<' :: rest => named? false rest
  | _ => none

/-- The number of bytes of a lexeme. -/
def byteSize (lexeme : Lexeme) : Nat :=
  (if lexeme.closing then 3 else 2) + Text.byteSize lexeme.name
    + Text.byteSize lexeme.attributes

/-- A slash at the end of the attributes makes a tag self-closing. -/
def kind (lexeme : Lexeme) : TagKind :=
  if lexeme.closing then .closing
  else if (Text.trimEnd lexeme.attributes).getLast? = some '/' then .selfClosing
  else .opening

/-- The tag of a lexeme that starts at an offset. A closing tag has no attributes. -/
def tag (lexeme : Lexeme) (start : Nat) : Tag :=
  { kind := lexeme.kind
    name := lexeme.name
    span := { start, stop := start + lexeme.byteSize }
    attributes := if lexeme.closing then [] else Attribute.readAll lexeme.attributes }

end Lexeme

end PageAudit
