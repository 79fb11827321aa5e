import PageAudit.Markup.Lexeme

/-! The stream of tags of a document, found by searching from tag to tag.

Comments are passed over, and so are the bodies of `script` and `style` elements, in which
`<` opens nothing. No document is refused: what is no tag is text.
-/

namespace PageAudit.Markup

/-- A place in a text: its byte offset and the characters from there on. -/
structure Place where
  offset : Nat
  rest : Text

namespace Place

/-- The start of a text. -/
def start (text : Text) : Place :=
  { offset := 0, rest := text }

/-- (nextFrom? found offset text) is the first place in `text`, which stands at `offset`, from
where the characters fulfil `found`.
-/
def nextFrom? (found : Text → Bool) : Nat → Text → Option Place
  | _, [] => none
  | offset, char :: rest =>
      if found (char :: rest) then some { offset, rest := char :: rest }
      else nextFrom? found (offset + char.utf8Size) rest

/-- The first place at or after a given one from where the characters fulfil `found`. -/
def next? (found : Text → Bool) (place : Place) : Option Place :=
  nextFrom? found place.offset place.rest

/-- The place a number of characters further on. -/
def skip : Nat → Place → Place
  | 0, place => place
  | count + 1, place =>
      match place.rest with
      | [] => place
      | char :: rest => skip count { offset := place.offset + char.utf8Size, rest }

/-- The end of the text. -/
def finish (place : Place) : Place :=
  { offset := place.offset + Text.byteSize place.rest, rest := [] }

end Place

/-- (nextLexemeFrom? offset text) is the first lexeme in `text`, which stands at `offset`, with
the place where it starts.
-/
def nextLexemeFrom? : Nat → Text → Option (Nat × Lexeme)
  | _, [] => none
  | offset, char :: rest =>
      match Lexeme.ofFront? (char :: rest) with
      | some lexeme => some (offset, lexeme)
      | none => nextLexemeFrom? (offset + char.utf8Size) rest

/-- The first lexeme at or after a place, with the place where it starts. Where no `>` follows no
lexeme can end, so none is looked for.
-/
def nextLexeme? (place : Place) : Option (Nat × Lexeme) :=
  if place.rest.any (· == '>') then nextLexemeFrom? place.offset place.rest else none

/-- The first comment that opens at or after a place. -/
def nextComment? (place : Place) : Option Place :=
  place.next? (Text.startsWith · "<!--")

/-- The place behind a comment that opens at a given one. A comment without an end takes the
rest of the text.
-/
def afterComment (comment : Place) : Place :=
  let body := comment.skip 4
  match body.next? (Text.startsWith · "-->") with
  | some ending => ending.skip 3
  | none => body.finish

/-- The elements whose content is no markup. -/
def rawTextElements : List Text :=
  ["script", "style"]

/-- The text begins with `</` and a name in any case. A longer name may follow. -/
def endsRawText (name text : Text) : Bool :=
  match text with
  | '<' :: '/' :: rest => Text.startsWith (Text.lower (rest.take name.length)) name
  | _ => false

/-- The place from which the markup goes on behind an opening tag of an element with raw text:
the next end of that element, or the end of the text.
-/
def afterRawText (name : Text) (place : Place) : Place :=
  (place.next? (endsRawText name)).getD place.finish

/-- The place from which the search for tags goes on behind a tag. -/
def afterTag (tag : Tag) (place : Place) : Place :=
  if tag.kind = .opening then
    match rawTextElements.find? tag.hasName with
    | some name => afterRawText name place
    | none => place
  else place

/-- (tagsFrom fuel place comment found) are the tags in `found`, which is in reverse, and those
from `place` on. The first comment at or after that place is `comment`. Each step moves
on, so `fuel` need not be more than one for each character.
-/
def tagsFrom : Nat → Place → Option Place → List Tag → List Tag
  | 0, _, _, found => found.reverse
  | fuel + 1, place, comment, found =>
      match nextLexeme? place with
      | none => found.reverse
      | some (start, lexeme) =>
          match comment.filter (fun comment => comment.offset < start) with
          | some comment =>
              let place := afterComment comment
              tagsFrom fuel place (nextComment? place) found
          | none =>
              let tag := lexeme.tag start
              let place := afterTag tag { offset := tag.span.stop, rest := lexeme.rest }
              let comment :=
                if comment.any (fun comment => comment.offset < place.offset) then
                  nextComment? place
                else comment
              tagsFrom fuel place comment (tag :: found)

/-- The tags of a document, in order. -/
def tokenize (text : Text) : List Tag :=
  let place := Place.start text
  tagsFrom (text.length + 1) place (nextComment? place) []

end PageAudit.Markup
