import PageAudit.Markup.Expression
import PageAudit.Markup.Tag
import PageAudit.Text.Search

/-! The attributes of a tag, read from the text between its name and its end.

An attribute is a name, perhaps with `=` and a value that is quoted, braced or bare. A name
that begins with `:` or `v-bind:` binds an expression, as braces do.
-/

namespace PageAudit.Attribute

/-- A letter, `_`, `:` or `@` begins the name of an attribute. -/
def isNameStart (char : Char) : Bool :=
  char.isAlpha || char == '_' || char == ':' || char == '@'

/-- Digits, `.` and `-` may follow in the name of an attribute. -/
def isNamePart (char : Char) : Bool :=
  isNameStart char || char.isDigit || char == '.' || char == '-'

/-- A character of a bare value: no blank, quote, `=`, `<` or `>`. -/
def isBarePart (char : Char) : Bool :=
  !(Text.isBlank char || char == '"' || char == '\'' || char == '=' || char == '<'
    || char == '>' || char == '\x60')

/-- A value as written: taken literally, or an expression from within braces. -/
inductive Written where
  | plain (value : Text)
  | braced (expression : Text)

/-- What stands before the first `quote` in a text, and what follows it. -/
def untilQuote? (quote : Char) (text : Text) : Option (Text × Text) :=
  match text.span (· != quote) with
  | (_, []) => none
  | (inner, _ :: rest) => some (inner, rest)

/-- (untilBrace? nested seen text) reads up to the brace that ends an expression. Braces
within it may be nested once, and `nested` tells whether an inner pair is open. The
characters of the expression that are read already are in `seen`, in reverse.
-/
def untilBrace? : Bool → Text → Text → Option (Text × Text)
  | _, _, [] => none
  | nested, seen, char :: rest =>
      if char = '{' then
        if nested then none else untilBrace? true (char :: seen) rest
      else if char = '}' then
        if nested then untilBrace? false (char :: seen) rest else some (seen.reverse, rest)
      else untilBrace? nested (char :: seen) rest

/-- A run of at least one character that may stand in a bare value. -/
def bare? (text : Text) : Option (Written × Text) :=
  match text.span isBarePart with
  | ([], _) => none
  | (value, rest) => some (.plain value, rest)

/-- The value at the front of a text, and what follows it. A brace that does not end an
expression begins a bare value.
-/
def value? (text : Text) : Option (Written × Text) :=
  match text with
  | '"' :: rest => (untilQuote? '"' rest).map (fun (value, rest) => (.plain value, rest))
  | '\'' :: rest => (untilQuote? '\'' rest).map (fun (value, rest) => (.plain value, rest))
  | '{' :: rest =>
      match untilBrace? false [] rest with
      | some (expression, rest) => some (.braced expression, rest)
      | none => bare? text
  | _ => bare? text

/-- The value after an equals sign, which may have blanks around it. -/
def assigned? (text : Text) : Option (Written × Text) :=
  match Text.trimStart text with
  | '=' :: rest => value? (Text.trimStart rest)
  | _ => none

/-- The name behind the mark of a binding. -/
def bound? (name : Text) : Option Text :=
  let target := (Text.after? "v-bind:" name).orElse (fun _ => Text.after? ":" name)
  target.filter (fun target => !target.isEmpty)

/-- The attribute of a name and a value as written. -/
def ofWritten (name : Text) (value : Option Written) : Attribute :=
  match bound? name with
  | some target =>
      { name := target
        value := value.map fun
          | .plain expression => Expression.literal expression
          | .braced expression => Expression.literal expression }
  | none =>
      { name
        value := value.map fun
          | .plain value => value
          | .braced expression => Expression.literal expression }

/-- An attribute that stands at the front of a text, as a pattern. When no value can be read
behind the name, the name is a bare attribute.
-/
def pattern : Text.Pattern Attribute := fun _ text =>
  match text with
  | [] => none
  | first :: _ =>
      if isNameStart first then
        let (name, rest) := text.span isNamePart
        match assigned? rest with
        | some (value, after) =>
            some (ofWritten name (some value), text.length - after.length)
        | none => some (ofWritten name none, name.length)
      else none

/-- The attributes in a text, in order. What is no attribute is passed over. -/
def readAll (text : Text) : List Attribute :=
  (Text.hits pattern text).map (·.value)

end PageAudit.Attribute
