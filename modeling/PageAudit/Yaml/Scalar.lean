import PageAudit.Text.Bytes
import PageAudit.Yaml.Cursor

/-! The scalars of YAML: plain, quoted, and in blocks of lines.

Each reader starts at a place where its kind of scalar begins, and answers with the text of
the scalar and the place behind it.
-/

namespace PageAudit.Yaml

/-- The gap before the next word of a scalar: its blanks and its line ends, in reverse. Blanks
count only as long as there is no line end. An escaped line end at the start of the gap
counts for nothing.
-/
structure Gap where
  blanks : Text := []
  breaks : Text := []
  isEscaped : Bool := false

/-- What a gap contributes to the text of a scalar when more of it follows. -/
def Gap.fold (gap : Gap) : Text :=
  if gap.isEscaped then gap.breaks.reverse
  else if gap.breaks.isEmpty then gap.blanks.reverse
  else foldBreaks gap.breaks.reverse

/-- A gap with one more blank. -/
def Gap.pushBlank (gap : Gap) (char : Char) : Gap :=
  if gap.breaks.isEmpty ∧ ¬ gap.isEscaped then { gap with blanks := char :: gap.blanks } else gap

/-- (readGap? fuel indent gap cursor) reads blanks and line ends. A tab may not stand where a line
is indented by fewer than `indent` columns.
-/
def readGap? : Nat → Nat → Gap → Cursor → Option (Gap × Cursor)
  | 0, _, gap, cursor => some (gap, cursor)
  | fuel + 1, indent, gap, cursor =>
      match cursor.peek with
      | none => some (gap, cursor)
      | some char =>
          if isBlank char then
            if ¬ gap.breaks.isEmpty ∧ char = '\t' ∧ cursor.column < indent then none
            else readGap? fuel indent (gap.pushBlank char) cursor.skip
          else if isBreak char then
            let (ending, cursor) := cursor.skipBreak
            readGap? fuel indent { gap with breaks := ending :: gap.breaks } cursor
          else some (gap, cursor)

/-- A plain scalar: its text, the place behind it, and whether a line ended behind its last
word.
-/
structure Plain where
  text : Text
  cursor : Cursor
  isBroken : Bool

/-- The characters that structure flow collections. -/
def isFlowIndicator (char : Char) : Bool :=
  char == ',' || char == '[' || char == ']' || char == '{' || char == '}'

/-- (readWord? fuel inFlow seen cursor) reads the characters of a plain scalar up to a gap or an
indicator. The ones that are read are in reverse, in front of `seen`. Within a flow
collection a colon may not stand before another indicator.
-/
def readWord? : Nat → Bool → Text → Cursor → Option (Text × Cursor)
  | 0, _, seen, cursor => some (seen, cursor)
  | fuel + 1, inFlow, seen, cursor =>
      match cursor.rest with
      | [] => some (seen, cursor)
      | char :: rest =>
          if isGap (some char) then some (seen, cursor)
          else if char = ':' ∧ inFlow
              ∧ rest.head?.any (fun next => isFlowIndicator next || next == '?') then
            none
          else if char = ':' ∧ isGap rest.head? then some (seen, cursor)
          else if inFlow ∧ isFlowIndicator char then some (seen, cursor)
          else readWord? fuel inFlow (char :: seen) cursor.skip

/-- (readPlain? fuel inFlow indent seen gap cursor) reads on behind the words in `seen`, which is in
reverse, and a gap.
-/
def readPlain? : Nat → Bool → Nat → Text → Gap → Cursor → Option Plain
  | 0, _, _, seen, gap, cursor =>
      some { text := seen.reverse, cursor, isBroken := !gap.breaks.isEmpty }
  | fuel + 1, inFlow, indent, seen, gap, cursor =>
      let finished :=
        some { text := seen.reverse, cursor, isBroken := !gap.breaks.isEmpty : Plain }
      if cursor.isDocumentMark || cursor.peek == some '#' then finished
      else
        (readWord? cursor.rest.length inFlow [] cursor).bind fun (word, cursor) =>
          let seen := if word.isEmpty then seen else word ++ gap.fold.reverse ++ seen
          let gap := if word.isEmpty then gap else {}
          match cursor.peek with
          | none => some { text := seen.reverse, cursor, isBroken := !gap.breaks.isEmpty }
          | some char =>
              if ¬ isGap (some char) then
                some { text := seen.reverse, cursor, isBroken := !gap.breaks.isEmpty }
              else
                (readGap? cursor.rest.length indent {} cursor).bind fun (gap, cursor) =>
                  if ¬ inFlow ∧ cursor.column < indent then
                    some { text := seen.reverse, cursor, isBroken := !gap.breaks.isEmpty }
                  else readPlain? fuel inFlow indent seen gap cursor

/-- The plain scalar at a place. Its further lines are indented by at least `indent`. -/
def plain? (inFlow : Bool) (indent : Nat) (cursor : Cursor) : Option Plain :=
  readPlain? (cursor.rest.length + 1) inFlow indent [] {} cursor

/-- The character with a code of exactly so many hexadecimal digits. -/
def escapedCode? (digits : Text) (count : Nat) : Option Char :=
  if digits.length = count then
    (Text.digitsIn? 16 digits).bind fun code =>
      if Nat.isValidChar code then some (Char.ofNat code) else none
  else none

/-- The character that a letter behind a backslash stands for. -/
def escapedLetter? (char : Char) : Option Char :=
  [('0', '\x00'), ('a', '\x07'), ('b', '\x08'), ('t', '\t'), ('\t', '\t'), ('n', '\n'),
    ('v', '\x0b'), ('f', '\x0c'), ('r', '\r'), ('e', '\x1b'), (' ', ' '), ('"', '"'),
    ('/', '/'), ('\\', '\\'), ('N', '\u0085'), ('_', '\u00a0'), ('L', '\u2028'),
    ('P', '\u2029')].lookup char

/-- The character of an escape behind its backslash, and the number of characters it takes. -/
def escape? (text : Text) : Option (Char × Nat) :=
  match text with
  | 'x' :: rest => (escapedCode? (rest.take 2) 2).map (·, 3)
  | 'u' :: rest => (escapedCode? (rest.take 4) 4).map (·, 5)
  | 'U' :: rest => (escapedCode? (rest.take 8) 8).map (·, 9)
  | char :: _ => (escapedLetter? char).map (·, 1)
  | [] => none

/-- (readQuoted? fuel quote seen gap cursor) reads a quoted scalar up to its closing quote. What is
read is in `seen`, in reverse, and a gap follows it.
-/
def readQuoted? : Nat → Char → Text → Gap → Cursor → Option (Text × Cursor)
  | 0, _, _, _, _ => none
  | fuel + 1, quote, seen, gap, cursor =>
      if cursor.isDocumentMark then none
      else
        match cursor.rest with
        | [] => none
        | char :: rest =>
            let joined := gap.fold.reverse ++ seen
            if isBlank char then
              readQuoted? fuel quote seen (gap.pushBlank char) cursor.skip
            else if isBreak char then
              let (ending, cursor) := cursor.skipBreak
              readQuoted? fuel quote seen { gap with breaks := ending :: gap.breaks } cursor
            else if quote = '\'' ∧ char = '\'' ∧ rest.head? = some '\'' then
              readQuoted? fuel quote ('\'' :: joined) {} (cursor.skipMany 2)
            else if char = quote then some (joined.reverse, cursor.skip)
            else if quote = '"' ∧ char = '\\' then
              if rest.head?.any isBreak then
                let (_, cursor) := cursor.skip.skipBreak
                readQuoted? fuel quote joined { isEscaped := true } cursor
              else
                (escape? rest).bind fun (char, count) =>
                  readQuoted? fuel quote (char :: joined) {} (cursor.skipMany (count + 1))
            else readQuoted? fuel quote (char :: joined) {} cursor.skip

/-- The quoted scalar at a place, which is its opening quote. -/
def quoted? (quote : Char) (cursor : Cursor) : Option (Text × Cursor) :=
  readQuoted? (cursor.rest.length + 1) quote [] {} cursor.skip

/-- Which line ends at the end of a block are kept: none, one, or all. -/
inductive Chomping where
  | strip
  | clip
  | keep
deriving DecidableEq

/-- The head of a block: which line ends it keeps, and how far it is indented. -/
structure BlockHead where
  chomping : Chomping := .clip
  indent : Option Nat := none

/-- The head behind the indicator of a block, and what follows it. Its two parts may stand in
either order.
-/
def blockHead? (text : Text) : Option (BlockHead × Nat) :=
  let chomping := fun (char : Char) =>
    if char = '+' then some Chomping.keep else if char = '-' then some Chomping.strip else none
  let indent := fun (char : Char) =>
    if char.isDigit then some (char.toNat - '0'.toNat) else none
  match text.head?.bind chomping, text.head?.bind indent with
  | some kept, _ =>
      match text.tail.head?.bind indent with
      | some 0 => none
      | some count => some ({ chomping := kept, indent := some count }, 2)
      | none => some ({ chomping := kept }, 1)
  | none, some 0 => none
  | none, some count =>
      match text.tail.head?.bind chomping with
      | some kept => some ({ chomping := kept, indent := some count }, 2)
      | none => some ({ indent := some count }, 1)
  | none, none => some ({}, 0)

/-- (readEmptyLines? fuel indent deepest breaks cursor) reads lines of spaces, up to `indent` of
them each or any number when the indentation is still to be found. It answers with the
greatest number of spaces and with the line ends, in reverse. A tab may not stand for
indentation.
-/
def readEmptyLines? : Nat → Option Nat → Nat → Text → Cursor → Option (Nat × Text × Cursor)
  | 0, _, deepest, breaks, cursor => some (deepest, breaks, cursor)
  | fuel + 1, indent, deepest, breaks, cursor =>
      let isShort := indent.all (cursor.column < ·)
      match cursor.peek with
      | none => some (max deepest cursor.column, breaks, cursor)
      | some char =>
          if isShort ∧ char = ' ' then readEmptyLines? fuel indent deepest breaks cursor.skip
          else
            let deepest := max deepest cursor.column
            if isShort ∧ char = '\t' then none
            else if isBreak char then
              let (ending, cursor) := cursor.skipBreak
              readEmptyLines? fuel indent deepest (ending :: breaks) cursor
            else some (deepest, breaks, cursor)

/-- A block while it is read: its text and the line ends behind it, all in reverse, and whether
its last line began with a blank.
-/
structure Block where
  text : Text
  ending : Text
  empty : Text
  isIndented : Bool

/-- The text of a block with the line ends before its next line. Within a folded block one line
end between two lines that begin with no blank counts as a space.
-/
def Block.join (block : Block) (isFolded isIndented : Bool) : Text :=
  if isFolded ∧ block.ending = ['\n'] ∧ ¬ block.isIndented ∧ ¬ isIndented then
    if block.empty.isEmpty then ' ' :: block.text else block.empty ++ block.text
  else block.empty ++ block.ending ++ block.text

/-- (readBlock? fuel isFolded indent block cursor) reads the lines of a block that are indented by
`indent` columns.
-/
def readBlock? : Nat → Bool → Nat → Block → Cursor → Option (Block × Cursor)
  | 0, _, _, block, cursor => some (block, cursor)
  | fuel + 1, isFolded, indent, block, cursor =>
      if cursor.column = indent ∧ cursor.peek.isSome then
        let isIndented := cursor.peek.any isBlank
        let line := cursor.rest.takeWhile (fun char => !isBreak char)
        let text := line.reverse ++ block.join isFolded isIndented
        let cursor := cursor.skipMany line.length
        let (ending, cursor) :=
          if cursor.peek.isSome then
            let (ending, cursor) := cursor.skipBreak
            ([ending], cursor)
          else ([], cursor)
        (readEmptyLines? (cursor.rest.length + 1) (some indent) 0 [] cursor).bind
          fun (_, empty, cursor) =>
            readBlock? fuel isFolded indent { text, ending, empty, isIndented } cursor
      else some (block, cursor)

/-- The text of a block with the line ends at its end that are kept. -/
def Block.finish (block : Block) (chomping : Chomping) : Text :=
  match chomping with
  | .strip => block.text.reverse
  | .clip => (block.ending ++ block.text).reverse
  | .keep => (block.empty ++ block.ending ++ block.text).reverse

/-- The block scalar at a place, which is its indicator. The surrounding collection is indented
by `parent` columns, or there is none.
-/
def block? (isFolded : Bool) (parent : Option Nat) (cursor : Cursor) : Option (Text × Cursor) :=
  let cursor := cursor.skip
  (blockHead? cursor.rest).bind fun (head, count) =>
    let cursor := (cursor.skipMany count).skipWhile isBlank
    let cursor :=
      if cursor.peek = some '#' then cursor.skipWhile (fun char => !isBreak char) else cursor
    if ¬ cursor.peek.all isBreak then none
    else
      let cursor := if cursor.peek.isSome then cursor.skipBreak.2 else cursor
      let stated := head.indent.map (parent.getD 0 + ·)
      (readEmptyLines? (cursor.rest.length + 1) stated 0 [] cursor).bind
        fun (deepest, empty, cursor) =>
          let least := max 1 ((parent.map (· + 1)).getD 0)
          let indent := stated.getD (max deepest least)
          let block := { text := [], ending := [], empty, isIndented := false }
          (readBlock? (cursor.rest.length + 1) isFolded indent block cursor).map
            fun (block, cursor) => (block.finish head.chomping, cursor)

end PageAudit.Yaml
