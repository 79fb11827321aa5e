import PageAudit.Source.Span
import PageAudit.Text.Blank
import PageAudit.Text.Search
import PageAudit.Text.Word

/-! Imports of packages: the specifiers behind `from`, `import` and `require`, and the packages
that they name.
-/

namespace PageAudit

/-- The first part of a specifier, or the first two parts behind a scope. A relative or
absolute path and a module of the platform belong to no package.
-/
def packageOf? (specifier : Text) : Option Text :=
  match Text.trim specifier with
  | [] => none
  | first :: rest =>
      let specifier := first :: rest
      if first = '.' ∨ first = '/' ∨ Text.startsWith specifier "node:" then none
      else
        let (scope, deeper) := specifier.span (· != '/')
        match first, deeper with
        | '@', slash :: deeper => some (scope ++ slash :: deeper.takeWhile (· != '/'))
        | _, _ => some scope

/-- An import of a package, with the span of its specifier between the quotes. -/
structure Import where
  package : Text
  span : Span
deriving DecidableEq

namespace Import

/-- Single, double and back quotes delimit specifiers. -/
def isQuote (char : Char) : Bool :=
  char == '"' || char == '\'' || char == '\x60'

/-- A keyword and at least one blank at the front of a text, and what follows them. -/
def spaced? (keyword text : Text) : Option (Text × Text) :=
  (Text.after? keyword text).bind fun text =>
    let (blanks, rest) := text.span Text.isBlank
    if blanks.isEmpty then none else some (keyword ++ blanks, rest)

/-- A keyword and an opening bracket at the front of a text, with blanks around the bracket,
and what follows them.
-/
def called? (keyword text : Text) : Option (Text × Text) :=
  (Text.after? keyword text).bind fun text =>
    let (outer, rest) := text.span Text.isBlank
    match rest with
    | '(' :: rest =>
        let (inner, rest) := rest.span Text.isBlank
        some (keyword ++ outer ++ '(' :: inner, rest)
    | _ => none

/-- The words at the front of a text that introduce a specifier, and what follows them. -/
def introduction? (text : Text) : Option (Text × Text) :=
  ((spaced? "from" text).orElse fun _ => called? "import" text).orElse fun _ =>
    (spaced? "import" text).orElse fun _ => called? "require" text

/-- The specifier at the front of a text, in quotes that need not be equal. It holds neither
quotes nor blanks.
-/
def quotedSpecifier? (text : Text) : Option Text :=
  match text with
  | [] => none
  | opening :: rest =>
      let (specifier, closing) := rest.span (fun char => !isQuote char && !Text.isBlank char)
      if isQuote opening && !specifier.isEmpty && closing.head?.any isQuote then some specifier
      else none

/-- A specifier, and the number of bytes from the start of its introduction. -/
structure Introduced where
  lead : Nat
  specifier : Text

/-- A specifier with its introduction, which begins at a word boundary. -/
def pattern : Text.Pattern Introduced := fun before text =>
  if text.head?.any (fun char => char == 'f' || char == 'i' || char == 'r')
      && Text.isWordBoundary before text.head? then
    (introduction? text).bind fun (introduction, rest) =>
      (quotedSpecifier? rest).map fun specifier =>
        ({ lead := Text.byteSize introduction + 1, specifier },
          introduction.length + specifier.length + 2)
  else none

/-- The import of a hit, when its specifier belongs to a package. -/
def ofHit? (hit : Text.Hit Introduced) : Option Import :=
  (packageOf? hit.value.specifier).map fun package =>
    let start := hit.start + hit.value.lead
    { package, span := { start, stop := start + Text.byteSize hit.value.specifier } }

/-- The imports of packages in a text, in order. -/
def readAll (text : Text) : List Import :=
  (Text.hits pattern text).filterMap ofHit?

end Import

end PageAudit
