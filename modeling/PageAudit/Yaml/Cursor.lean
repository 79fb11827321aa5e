import PageAudit.Text.Basic

/-! Places in YAML texts, with the line and the column that indentation is measured in. -/

namespace PageAudit.Yaml

/-- A place in a text: the characters from there on, and the number of bytes, lines and columns
before it. Columns are characters.
-/
structure Cursor where
  rest : Text
  index : Nat
  line : Nat
  column : Nat

/-- A space or a tab. -/
def isBlank (char : Char) : Bool :=
  char == ' ' || char == '\t'

/-- A character that ends a line. -/
def isBreak (char : Char) : Bool :=
  char == '\n' || char == '\r' || char == '\u0085' || char == '\u2028' || char == '\u2029'

/-- A blank, the end of a line, or the end of the text. -/
def isGap (char : Option Char) : Bool :=
  char.all (fun char => isBlank char || isBreak char)

/-- A letter, a digit, `_` or `-`, as names consist of. -/
def isNamePart (char : Char) : Bool :=
  char.isAlphanum || char == '_' || char == '-'

/-- A character that may stand in a YAML text. Most controls may not. -/
def isPrintable (char : Char) : Bool :=
  let code := char.toNat
  code == 0x09 || code == 0x0A || code == 0x0D || (0x20 ≤ code && code ≤ 0x7E) || code == 0x85
    || (0xA0 ≤ code && code ≤ 0xFFFD) || 0x10000 ≤ code

namespace Cursor

/-- The start of a text. -/
def start (text : Text) : Cursor :=
  { rest := text, index := 0, line := 0, column := 0 }

/-- The next character. -/
def peek (cursor : Cursor) : Option Char :=
  cursor.rest.head?

/-- The character behind the next one. -/
def peekSecond (cursor : Cursor) : Option Char :=
  cursor.rest.tail.head?

/-- The place behind a number of characters, which end no line. -/
def skipMany (count : Nat) (cursor : Cursor) : Cursor :=
  { cursor with
    rest := cursor.rest.drop count
    index := cursor.index + Text.byteSize (cursor.rest.take count)
    column := cursor.column + count }

/-- The place behind one character, which ends no line. -/
def skip (cursor : Cursor) : Cursor :=
  cursor.skipMany 1

/-- The place behind the end of a line, and the character that it counts as. A carriage return
with a line feed is one end.
-/
def skipBreak (cursor : Cursor) : Char × Cursor :=
  let (char, count) :=
    match cursor.rest with
    | '\r' :: '\n' :: _ => ('\n', 2)
    | '\u2028' :: _ => ('\u2028', 1)
    | '\u2029' :: _ => ('\u2029', 1)
    | _ => ('\n', 1)
  (char,
    { rest := cursor.rest.drop count
      index := cursor.index + Text.byteSize (cursor.rest.take count)
      line := cursor.line + 1
      column := 0 })

/-- (skipWhile wanted cursor) is the place behind the next characters that are wanted. None of them
ends a line.
-/
def skipWhile (wanted : Char → Bool) (cursor : Cursor) : Cursor :=
  cursor.skipMany (cursor.rest.takeWhile wanted).length

/-- The place behind a byte order mark at the start of a line. The mark takes a column. -/
def skipOrderMark (cursor : Cursor) : Cursor :=
  if cursor.column = 0 ∧ cursor.peek = some '\ufeff' then cursor.skip else cursor

/-- The place is the start of a line with `---` or `...` alone or before a gap. -/
def isDocumentMark (cursor : Cursor) : Bool :=
  cursor.column == 0
    && (Text.startsWith cursor.rest "---" || Text.startsWith cursor.rest "...")
    && isGap (cursor.rest.drop 3).head?

end Cursor

/-- Line ends between two parts of a scalar: one alone counts as a space, and of several the
first one counts for nothing.
-/
def foldBreaks : Text → Text
  | [] => []
  | '\n' :: [] => [' ']
  | '\n' :: breaks => breaks
  | breaks => breaks

end PageAudit.Yaml
