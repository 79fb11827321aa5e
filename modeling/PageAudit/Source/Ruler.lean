import PageAudit.Source.Span

/-! A ruler laid along a text tells, for each byte offset, the line and the column there and
the closest place between two characters.

It holds one mark for each byte, so a document with many findings is measured once.
-/

namespace PageAudit

/-- A line and a column, both counted from one. Columns count characters. -/
structure Position where
  line : Nat
  column : Nat
deriving DecidableEq

/-- The first line and its first column. -/
def Position.origin : Position :=
  { line := 1, column := 1 }

/-- The position after a character. A line feed ends its line. -/
def Position.advance (position : Position) (char : Char) : Position :=
  if char = '\n' then { line := position.line + 1, column := 1 }
  else { position with column := position.column + 1 }

/-- What a ruler shows at one byte offset: the greatest character boundary that is not above
it, and its position.
-/
structure Ruler.Mark where
  boundary : Nat
  position : Position

/-- The marks at the bytes of a text, and the mark at its end. -/
structure Ruler where
  marks : Array Ruler.Mark
  last : Ruler.Mark

namespace Ruler

/-- The marks of the bytes of a character behind its first. They lie within the character,
and their column is the first one of the line.
-/
def pushInner (boundary line : Nat) : Nat → Array Mark → Array Mark
  | 0, marks => marks
  | count + 1, marks =>
      pushInner boundary line count
        (marks.push { boundary, position := { line, column := 1 } })

/-- A ruler grows by the marks of one more character. -/
def push (ruler : Ruler) (char : Char) : Ruler :=
  let here := ruler.last
  { marks := pushInner here.boundary here.position.line (char.utf8Size - 1)
      (ruler.marks.push here)
    last :=
      { boundary := here.boundary + char.utf8Size
        position := here.position.advance char } }

/-- The ruler of the empty text. -/
def empty : Ruler :=
  { marks := #[], last := { boundary := 0, position := .origin } }

/-- The ruler of a text. -/
def ofText (text : Text) : Ruler :=
  text.foldl push empty

/-- The mark at an offset. Beyond the end of the text it is the mark at the end. -/
def mark (ruler : Ruler) (offset : Nat) : Mark :=
  if inside : offset < ruler.marks.size then ruler.marks[offset] else ruler.last

/-- The greatest character boundary that is not above an offset. -/
def boundary (ruler : Ruler) (offset : Nat) : Nat :=
  (ruler.mark offset).boundary

/-- The line and the column of an offset. -/
def position (ruler : Ruler) (offset : Nat) : Position :=
  (ruler.mark offset).position

/-- The span with both ends moved back to character boundaries within the text. -/
def clamp (ruler : Ruler) (span : Span) : Span :=
  .between (ruler.boundary span.start) (ruler.boundary span.stop)

end Ruler

end PageAudit
