import PageAudit.Text.Numeral
import PageAudit.Yaml.Scalar
import PageAudit.Yaml.Tag

/-! The tokens of YAML texts. Indentation shows in tokens that begin and end block collections,
and a key that no question mark announces shows in a token before it.
-/

namespace PageAudit.Yaml

/-- The parts of a YAML text. A plain scalar stands without quotes on its line. -/
inductive Token where
  | version (major minor : Nat)
  | tagHandle (handle : Text) (expansion : Name)
  | documentStart
  | documentEnd
  | blockSequence
  | blockMapping
  | blockEnd
  | flowSequence
  | flowSequenceEnd
  | flowMapping
  | flowMappingEnd
  | entry
  | separator
  | key
  | value
  | alias (name : Text)
  | anchor (name : Text)
  | tag (tag : Tag)
  | scalar (isPlain : Bool) (text : Text)
deriving DecidableEq

/-- A place where a key may have begun: how many tokens were before it, and its position. A
required key is the only thing that can stand there.
-/
structure Candidate where
  token : Nat
  line : Nat
  index : Nat
  column : Nat
  isRequired : Bool

/-- The state of reading tokens. There is one place for a candidate outside all flow collections
and in each of those that are open, the innermost first. Indentations are those of the open
block collections, the innermost first.
-/
structure Lexer where
  cursor : Cursor
  tokens : Array Token
  indents : List Nat
  candidates : List (Option Candidate)
  allowsKey : Bool

namespace Lexer

/-- The state before a text. -/
def start (text : Text) : Lexer :=
  { cursor := .start text
    tokens := #[]
    indents := []
    candidates := [none]
    allowsKey := true }

/-- Some flow collection is open. -/
def inFlow (lexer : Lexer) : Bool :=
  1 < lexer.candidates.length

/-- One more token. -/
def push (lexer : Lexer) (token : Token) : Lexer :=
  { lexer with tokens := lexer.tokens.push token }

/-- The block collections that are indented further than a column end. Without a column all of
them end.
-/
def unroll (lexer : Lexer) (column : Option Nat) : Lexer :=
  if lexer.inFlow then lexer
  else
    let ended := lexer.indents.takeWhile (fun indent => column.all (· < indent))
    { lexer with
      indents := lexer.indents.drop ended.length
      tokens := lexer.tokens ++ (List.replicate ended.length Token.blockEnd).toArray }

/-- A block collection begins before the token with a given number, when its column is further
in than the open ones.
-/
def roll (lexer : Lexer) (column number : Nat) (token : Token) : Lexer :=
  if lexer.inFlow ∨ ¬ lexer.indents.head?.all (· < column) then lexer
  else
    { lexer with
      indents := column :: lexer.indents
      tokens := lexer.tokens.insertIdxIfInBounds number token }

/-- The innermost candidate is given up, which a required one cannot be. -/
def dropCandidate? (lexer : Lexer) : Option Lexer :=
  match lexer.candidates with
  | some candidate :: outer =>
      if candidate.isRequired then none else some { lexer with candidates := none :: outer }
  | _ => some lexer

/-- A key may begin here, where one is allowed. -/
def addCandidate? (lexer : Lexer) : Option Lexer :=
  if lexer.allowsKey then
    lexer.dropCandidate?.map fun lexer =>
      let candidate :=
        { token := lexer.tokens.size
          line := lexer.cursor.line
          index := lexer.cursor.index
          column := lexer.cursor.column
          isRequired := !lexer.inFlow && lexer.indents.head? == some lexer.cursor.column }
      { lexer with candidates := some candidate :: lexer.candidates.tail }
  else some lexer

/-- A key has to end on its line, and within 1024 bytes. -/
def isStale (cursor : Cursor) (candidate : Candidate) : Bool :=
  candidate.line < cursor.line || candidate.index + 1024 < cursor.index

/-- The candidates that can be no keys any more are given up. -/
def dropStale? (lexer : Lexer) : Option Lexer :=
  (lexer.candidates.mapM fun candidate =>
    match candidate with
    | some candidate =>
        if isStale lexer.cursor candidate then
          if candidate.isRequired then none else some none
        else some (some candidate)
    | none => some none).map
    fun candidates => { lexer with candidates }

/-- (skipToToken fuel lexer) moves on behind blanks, comments and line ends, and behind a byte
order mark at the start of a line. Behind a line end outside flow collections a key may
begin. Tabs count as blanks only where none may.
-/
def skipToToken : Nat → Lexer → Lexer
  | 0, lexer => lexer
  | fuel + 1, lexer =>
      let isSkipped := fun (char : Char) =>
        char == ' ' || (char == '\t' && (lexer.inFlow || !lexer.allowsKey))
      let cursor := lexer.cursor.skipOrderMark.skipWhile isSkipped
      let cursor :=
        if cursor.peek = some '#' then cursor.skipWhile (fun char => !isBreak char) else cursor
      if cursor.peek.any isBreak then
        skipToToken fuel
          { lexer with
            cursor := cursor.skipBreak.2
            allowsKey := lexer.allowsKey || !lexer.inFlow }
      else { lexer with cursor }

/-- A token of so many characters that begins or ends nothing. -/
def pushMark (lexer : Lexer) (token : Token) (count : Nat) : Lexer :=
  { lexer.push token with cursor := lexer.cursor.skipMany count }

/-- The start of a flow collection. It may be a key, and a key may follow it. -/
def openFlow? (lexer : Lexer) (token : Token) : Option Lexer :=
  lexer.addCandidate?.map fun lexer =>
    { lexer.pushMark token 1 with candidates := none :: lexer.candidates, allowsKey := true }

/-- The end of a flow collection. -/
def closeFlow? (lexer : Lexer) (token : Token) : Option Lexer :=
  lexer.dropCandidate?.map fun lexer =>
    { lexer.pushMark token 1 with
      candidates := if lexer.inFlow then lexer.candidates.tail else lexer.candidates
      allowsKey := false }

/-- A comma between the entries of a flow collection. -/
def separate? (lexer : Lexer) : Option Lexer :=
  lexer.dropCandidate?.map fun lexer =>
    { lexer.pushMark .separator 1 with allowsKey := true }

/-- The dash of an entry of a block sequence, which may begin the sequence. -/
def blockEntry? (lexer : Lexer) : Option Lexer :=
  if ¬ lexer.inFlow ∧ ¬ lexer.allowsKey then none
  else
    (lexer.roll lexer.cursor.column lexer.tokens.size .blockSequence).dropCandidate?.map
      fun lexer => { lexer.pushMark .entry 1 with allowsKey := true }

/-- The question mark of a key, which may begin a block mapping. -/
def explicitKey? (lexer : Lexer) : Option Lexer :=
  if ¬ lexer.inFlow ∧ ¬ lexer.allowsKey then none
  else
    (lexer.roll lexer.cursor.column lexer.tokens.size .blockMapping).dropCandidate?.map
      fun lexer => { lexer.pushMark .key 1 with allowsKey := !lexer.inFlow }

/-- The colon of a value. It shows that the candidate is a key, which may begin a block mapping.
Without a candidate the key is empty.
-/
def value? (lexer : Lexer) : Option Lexer :=
  match lexer.candidates with
  | some candidate :: outer =>
      let lexer :=
        { lexer with
          candidates := none :: outer
          tokens := lexer.tokens.insertIdxIfInBounds candidate.token .key }
      let lexer := lexer.roll candidate.column candidate.token .blockMapping
      some { lexer.pushMark .value 1 with allowsKey := false }
  | _ =>
      if lexer.inFlow then some { lexer.pushMark .value 1 with allowsKey := false }
      else if lexer.allowsKey then
        let lexer := lexer.roll lexer.cursor.column lexer.tokens.size .blockMapping
        some { lexer.pushMark .value 1 with allowsKey := true }
      else none

/-- A mark at the start or the end of a document, which ends all block collections. -/
def documentMark? (lexer : Lexer) (token : Token) : Option Lexer :=
  (lexer.unroll none).dropCandidate?.map fun lexer =>
    { lexer.pushMark token 3 with allowsKey := false }

/-- The name of an anchor or of an alias, which an indicator announces. -/
def name? (lexer : Lexer) (token : Text → Token) : Option Lexer :=
  lexer.addCandidate?.bind fun lexer =>
    let cursor := lexer.cursor.skip
    let name := cursor.rest.takeWhile isNamePart
    let cursor := cursor.skipMany name.length
    let isEnded := isGap cursor.peek || cursor.peek.any ("?:,]\x7d%@\x60".toList).contains
    if name.isEmpty ∨ ¬ isEnded then none
    else some { lexer.push (token name) with cursor, allowsKey := false }

/-- A tag, which a gap or a comma in a flow collection has to follow. -/
def tag? (lexer : Lexer) : Option Lexer :=
  lexer.addCandidate?.bind fun lexer =>
    (tagAt? lexer.cursor.rest).bind fun (tag, count) =>
      let cursor := lexer.cursor.skipMany count
      if isGap cursor.peek ∨ (lexer.inFlow ∧ cursor.peek = some ',') then
        some { lexer.push (.tag tag) with cursor, allowsKey := false }
      else none

/-- A scalar in a block of lines. -/
def block? (lexer : Lexer) (isFolded : Bool) : Option Lexer :=
  lexer.dropCandidate?.bind fun lexer =>
    (Yaml.block? isFolded lexer.indents.head? lexer.cursor).map fun (text, cursor) =>
      { lexer.push (.scalar false text) with cursor, allowsKey := true }

/-- A scalar in quotes. -/
def quoted? (lexer : Lexer) (quote : Char) : Option Lexer :=
  lexer.addCandidate?.bind fun lexer =>
    (Yaml.quoted? quote lexer.cursor).map fun (text, cursor) =>
      { lexer.push (.scalar false text) with cursor, allowsKey := false }

/-- A plain scalar. -/
def plain? (lexer : Lexer) : Option Lexer :=
  lexer.addCandidate?.bind fun lexer =>
    let indent := (lexer.indents.head?.map (· + 1)).getD 0
    (Yaml.plain? lexer.inFlow indent lexer.cursor).map fun plain =>
      { lexer.push (.scalar true plain.text) with
        cursor := plain.cursor
        allowsKey := plain.isBroken }

/-- A number of a version, which has up to nine digits, and what follows it. -/
def versionNumber? (text : Text) : Option (Nat × Text) :=
  let (digits, rest) := Text.spanDigits text
  if digits.isEmpty ∨ 9 < digits.length then none else some (Text.digitsValue digits, rest)

/-- The version behind the name of its directive, and what follows it. -/
def version? (text : Text) : Option (Token × Text) :=
  (versionNumber? text).bind fun (major, rest) =>
    match rest with
    | '.' :: rest => (versionNumber? rest).map fun (minor, rest) => (.version major minor, rest)
    | _ => none

/-- The handle and its expansion behind the name of their directive, and what follows them. -/
def tagHandle? (text : Text) : Option (Token × Text) :=
  match text with
  | '!' :: rest =>
      let name := rest.takeWhile isNamePart
      let (handle, rest) :=
        match rest.drop name.length with
        | '!' :: rest => ('!' :: name ++ ['!'], rest)
        | rest => ('!' :: name, rest)
      let written := (rest.dropWhile isBlank).takeWhile isAddressPart
      let behind := (rest.dropWhile isBlank).drop written.length
      if (handle.length ≠ 1 ∧ handle.getLast? ≠ some '!') ∨ ¬ rest.head?.any isBlank
          ∨ written.isEmpty ∨ ¬ isGap behind.head? then none
      else (Name.ofWritten? written).map fun expansion => (.tagHandle handle expansion, behind)
  | _ => none

/-- The directive on a line behind its percent sign. Only a comment may follow it. -/
def directiveOf? (line : Text) : Option Token :=
  let (name, rest) := line.span isNamePart
  let argument := rest.dropWhile isBlank
  let found :=
    if ¬ isGap rest.head? then none
    else if name = "YAML".toList then version? argument
    else if name = "TAG".toList then tagHandle? argument
    else none
  found.bind fun (token, behind) =>
    if (behind.dropWhile isBlank).head?.all (· == '#') then some token else none

/-- A directive before a document, with the end of its line. -/
def directive? (lexer : Lexer) : Option Lexer :=
  (lexer.unroll none).dropCandidate?.bind fun lexer =>
    let cursor := lexer.cursor.skip
    let line := cursor.rest.takeWhile (fun char => !isBreak char)
    let cursor := cursor.skipMany line.length
    (directiveOf? line).map fun token =>
      { lexer.push token with
        cursor := if cursor.peek.isSome then cursor.skipBreak.2 else cursor
        allowsKey := false }

/-- A character that cannot begin a plain scalar on its own. -/
def isIndicator (char : Char) : Bool :=
  ("-?:,[]\x7b\x7d#&*!|>'\"%@\x60".toList).contains char

/-- A plain scalar begins here. Some indicators begin one when no gap follows. -/
def beginsPlain (lexer : Lexer) (char : Char) : Bool :=
  let second := lexer.cursor.peekSecond
  (!isGap (some char) && !isIndicator char)
    || (char == '-' && !second.any isBlank)
    || (!lexer.inFlow && (char == '?' || char == ':') && !isGap second)

/-- The next token, whose first character is given. -/
def token? (lexer : Lexer) (char : Char) : Option Lexer :=
  let isApart := isGap lexer.cursor.peekSecond
  if lexer.cursor.column = 0 ∧ char = '%' then lexer.directive?
  else if lexer.cursor.isDocumentMark then
    lexer.documentMark? (if char = '-' then .documentStart else .documentEnd)
  else if char = '[' then lexer.openFlow? .flowSequence
  else if char = '{' then lexer.openFlow? .flowMapping
  else if char = ']' then lexer.closeFlow? .flowSequenceEnd
  else if char = '}' then lexer.closeFlow? .flowMappingEnd
  else if char = ',' then lexer.separate?
  else if char = '-' ∧ isApart then lexer.blockEntry?
  else if char = '?' ∧ (lexer.inFlow ∨ isApart) then lexer.explicitKey?
  else if char = ':' ∧ (lexer.inFlow ∨ isApart) then lexer.value?
  else if char = '*' then lexer.name? .alias
  else if char = '&' then lexer.name? .anchor
  else if char = '!' then lexer.tag?
  else if char = '|' ∧ ¬ lexer.inFlow then lexer.block? false
  else if char = '>' ∧ ¬ lexer.inFlow then lexer.block? true
  else if char = '\'' ∨ char = '"' then lexer.quoted? char
  else if lexer.beginsPlain char then lexer.plain?
  else none

/-- (run? fuel lexer) reads all tokens. Each takes at least one character. -/
def run? : Nat → Lexer → Option (Array Token)
  | 0, _ => none
  | fuel + 1, lexer =>
      ((skipToToken (lexer.cursor.rest.length + 1) lexer).dropStale?).bind fun lexer =>
        match lexer.cursor.peek with
        | none => (lexer.unroll none).dropCandidate?.map (·.tokens)
        | some char =>
            ((lexer.unroll (some lexer.cursor.column)).token? char).bind (run? fuel)

end Lexer

/-- The tokens of a text. -/
def tokens? (text : Text) : Option (List Token) :=
  if text.all isPrintable then
    (Lexer.run? (text.length + 2) (.start text)).map Array.toList
  else none

end PageAudit.Yaml
