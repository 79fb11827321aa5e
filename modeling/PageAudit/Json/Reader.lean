import PageAudit.Json.Document
import PageAudit.Json.Numeral
import PageAudit.Text.Bytes

/-! Reading JSON, one character at a time.

The state of the reader holds the arrays and objects that are open, so that reading a text is
a fold over its characters, and reading two texts one after the other continues the first.
-/

namespace PageAudit.Json.Reader

/-- What is read of a string, in reverse. It is unsound behind half of a surrogate pair
without the other half. A first half waits for the second one.
-/
structure Reading where
  read : Text := []
  sound : Bool := true
  half : Option Nat := none

/-- Where the reader is within a string: between characters, behind a backslash, or in the
digits of a code unit, with their number and value so far.
-/
inductive Escape where
  | none
  | backslash
  | unit (digits value : Nat)

/-- An array or an object that is open. The items and members that are read already are in
reverse, and in an object a key waits for its value.
-/
inductive Frame where
  | items (items : List Document)
  | members (members : List (Option Text × Document)) (key : Option Text)

/-- The place of a string: it is a value, or it is a key behind the given members. -/
inductive Role where
  | value
  | key (members : List (Option Text × Document))

/-- What the reader waits for: a value, the first item of an array or its end, the first key
of an object or its end, a further key, the colon behind a key, what follows an item, what
follows a member, more of a word, of a numeral or of a string, or nothing more.
-/
inductive Mode where
  | value
  | firstItem
  | firstKey
  | key (members : List (Option Text × Document))
  | colon (members : List (Option Text × Document)) (key : Option Text)
  | afterItem (items : List Document)
  | afterMember (members : List (Option Text × Document))
  | word (rest : Text) (meaning : Document)
  | numeral (numeral : Numeral)
  | string (role : Role) (escape : Escape) (reading : Reading)
  | done (document : Document)

/-- The state of the reader. The innermost open array or object comes first. -/
structure State where
  mode : Mode
  frames : List Frame

/-- Space, tab, line feed and carriage return may stand between the parts of a document. -/
def isSpace (char : Char) : Bool :=
  char == ' ' || char == '\t' || char == '\n' || char == '\r'

/-- The state behind a complete value in the innermost of the given frames. -/
def complete (document : Document) : List Frame → State
  | [] => { mode := .done document, frames := [] }
  | .items items :: frames => { mode := .afterItem (document :: items), frames }
  | .members members key :: frames =>
      { mode := .afterMember ((key, document) :: members), frames }

/-- The text of a string that has been read to its end. -/
def Reading.text? (reading : Reading) : Option Text :=
  if reading.sound ∧ reading.half.isNone then some reading.read.reverse else none

/-- A string with one more character. A waiting half of a pair stays alone. -/
def Reading.push (reading : Reading) (char : Char) : Reading :=
  { read := char :: reading.read, sound := reading.sound && reading.half.isNone }

/-- A string with one more code unit that was written as an escape. Two halves of a surrogate
pair in a row are one character.
-/
def Reading.pushUnit (reading : Reading) (unit : Nat) : Reading :=
  if 0xD800 ≤ unit ∧ unit < 0xDC00 then
    { read := reading.read, sound := reading.sound && reading.half.isNone, half := some unit }
  else if 0xDC00 ≤ unit ∧ unit < 0xE000 then
    match reading.half with
    | some high =>
        let code := 0x10000 + (high - 0xD800) * 0x400 + (unit - 0xDC00)
        { read := Char.ofNat code :: reading.read, sound := reading.sound }
    | none => { read := reading.read, sound := false }
  else reading.push (Char.ofNat unit)

/-- The character that a letter behind a backslash stands for. -/
def escaped? (char : Char) : Option Char :=
  if char = '"' ∨ char = '\\' ∨ char = '/' then some char
  else if char = 'b' then some '\x08'
  else if char = 'f' then some '\x0c'
  else if char = 'n' then some '\n'
  else if char = 'r' then some '\r'
  else if char = 't' then some '\t'
  else none

/-- The state behind a complete string. -/
def completeString (role : Role) (reading : Reading) (frames : List Frame) : State :=
  match role with
  | .value => complete (.string reading.text?) frames
  | .key members => { mode := .colon members reading.text?, frames }

/-- One character within a string. Control characters have to be escaped. -/
def stepString? (role : Role) (escape : Escape) (reading : Reading) (frames : List Frame)
    (char : Char)
    : Option State :=
  let stay := fun (escape : Escape) (reading : Reading) =>
    some { mode := .string role escape reading, frames : State }
  match escape with
  | .none =>
      if char = '"' then some (completeString role reading frames)
      else if char = '\\' then stay .backslash reading
      else if char.toNat < 0x20 then none
      else stay .none (reading.push char)
  | .backslash =>
      if char = 'u' then stay (.unit 0 0) reading
      else (escaped? char).bind (fun char => stay .none (reading.push char))
  | .unit digits value =>
      (Text.hexDigit? char).bind fun digit =>
        let value := 16 * value + digit
        if digits = 3 then stay .none (reading.pushUnit value)
        else stay (.unit (digits + 1) value) reading

/-- The state behind the first character of a value. -/
def beginValue? (frames : List Frame) (char : Char) : Option State :=
  if char = '"' then some { mode := .string .value .none {}, frames }
  else if char = '[' then some { mode := .firstItem, frames }
  else if char = '{' then some { mode := .firstKey, frames }
  else if char = 'n' then some { mode := .word "ull" .null, frames }
  else if char = 't' then some { mode := .word "rue" (.bool true), frames }
  else if char = 'f' then some { mode := .word "alse" (.bool false), frames }
  else (Numeral.begin? char).map (fun numeral => { mode := .numeral numeral, frames })

/-- The state behind the quote that begins a key. -/
def beginKey? (members : List (Option Text × Document)) (frames : List Frame) (char : Char)
    : Option State :=
  if char = '"' then some { mode := .string (.key members) .none {}, frames } else none

/-- One character between words, numerals and strings. -/
def stepBetween? (state : State) (char : Char) : Option State :=
  if isSpace char then some state
  else
    match state.mode with
    | .value => beginValue? state.frames char
    | .firstItem =>
        if char = ']' then some (complete (.array []) state.frames)
        else beginValue? (.items [] :: state.frames) char
    | .firstKey =>
        if char = '}' then some (complete (.object []) state.frames)
        else beginKey? [] state.frames char
    | .key members => beginKey? members state.frames char
    | .colon members key =>
        if char = ':' then some { mode := .value, frames := .members members key :: state.frames }
        else none
    | .afterItem items =>
        if char = ',' then some { mode := .value, frames := .items items :: state.frames }
        else if char = ']' then some (complete (.array items.reverse) state.frames)
        else none
    | .afterMember members =>
        if char = ',' then some { mode := .key members, frames := state.frames }
        else if char = '}' then some (complete (.object members.reverse) state.frames)
        else none
    | .word _ _ | .numeral _ | .string _ _ _ | .done _ => none

/-- One more character. The one behind a numeral shows that the numeral is complete. -/
def step? (state : State) (char : Char) : Option State :=
  match state.mode with
  | .string role escape reading => stepString? role escape reading state.frames char
  | .word (expected :: rest) meaning =>
      if char = expected then
        if rest.isEmpty then some (complete meaning state.frames)
        else some { mode := .word rest meaning, frames := state.frames }
      else none
  | .numeral numeral =>
      match numeral.push? char with
      | some numeral => some { mode := .numeral numeral, frames := state.frames }
      | none =>
          if numeral.isComplete then
            stepBetween? (complete (.number numeral.number?) state.frames) char
          else none
  | _ => stepBetween? state char

/-- The document of a state in which nothing is missing. -/
def finish? (state : State) : Option Document :=
  match state.mode, state.frames with
  | .done document, _ => some document
  | .numeral numeral, [] =>
      if numeral.isComplete then some (.number numeral.number?) else none
  | _, _ => none

/-- The state before the first character. -/
def start : State :=
  { mode := .value, frames := [] }

end PageAudit.Json.Reader

namespace PageAudit.Json

/-- The document that a text spells. -/
def Document.ofText? (text : Text) : Option Document :=
  (text.foldlM Reader.step? Reader.start).bind Reader.finish?

/-- The value that a text spells. -/
def Value.ofText? (text : Text) : Option Value :=
  (Document.ofText? text).bind Document.value?

end PageAudit.Json
