import PageAudit.Json.Value

/-! Writing JSON, compactly on one line or indented with one item or member on each line. -/

namespace PageAudit.Json

/-- The lower-case hexadecimal digit of a number below 16. -/
def hexDigit (value : Nat) : Char :=
  Nat.digitChar value

/-- A character within a string as it is written. Quotes, backslashes and control characters
are escaped, and every other character stands for itself.
-/
def escapeChar (char : Char) : Text :=
  if char = '"' then ['\\', '"']
  else if char = '\\' then ['\\', '\\']
  else if char = '\x08' then ['\\', 'b']
  else if char = '\x0c' then ['\\', 'f']
  else if char = '\n' then ['\\', 'n']
  else if char = '\r' then ['\\', 'r']
  else if char = '\t' then ['\\', 't']
  else if char.toNat < 0x20 then
    ['\\', 'u', '0', '0', hexDigit (char.toNat / 16), hexDigit (char.toNat % 16)]
  else [char]

/-- A string in quotes. -/
def quote (text : Text) : Text :=
  '"' :: text.flatMap escapeChar ++ ['"']

/-- The decimal digits of an integer behind its sign. -/
def writeInt : Int → Text
  | .ofNat value => Text.ofNat value
  | .negSucc value => '-' :: Text.ofNat (value + 1)

/-- A number as a numeral. A decimal is written with its exponent. -/
def Number.write : Number → Text
  | .integer value => writeInt value
  | .decimal significand exponent => writeInt significand ++ 'e' :: writeInt exponent

namespace Value

mutual

/-- A value without any space. -/
def compact : Value → Text
  | .null => "null"
  | .bool true => "true"
  | .bool false => "false"
  | .number value => value.write
  | .string value => quote value
  | .array [] => "[]"
  | .array (item :: items) => '[' :: compact item ++ compactItems items
  | .object [] => "\x7b\x7d"
  | .object ((key, member) :: members) =>
      '{' :: quote key ++ ':' :: compact member ++ compactMembers members

/-- The further items of an array, and its end. -/
def compactItems : List Value → Text
  | [] => [']']
  | item :: items => ',' :: compact item ++ compactItems items

/-- The further members of an object, and its end. -/
def compactMembers : List (Text × Value) → Text
  | [] => ['}']
  | (key, member) :: members =>
      ',' :: quote key ++ ':' :: compact member ++ compactMembers members

end

/-- A new line that is indented by two spaces for each level. -/
def newLine (level : Nat) : Text :=
  '\n' :: List.replicate (2 * level) ' '

mutual

/-- A value with each item and member on a line of its own, one level further in. -/
def prettyAt : Nat → Value → Text
  | _, .null => "null"
  | _, .bool true => "true"
  | _, .bool false => "false"
  | _, .number value => value.write
  | _, .string value => quote value
  | _, .array [] => "[]"
  | level, .array (item :: items) =>
      '[' :: newLine (level + 1) ++ prettyAt (level + 1) item ++ prettyItemsAt level items
  | _, .object [] => "\x7b\x7d"
  | level, .object ((key, member) :: members) =>
      '{' :: newLine (level + 1) ++ quote key ++ ':' :: ' ' :: prettyAt (level + 1) member
        ++ prettyMembersAt level members

/-- The further items of an array, and its end. -/
def prettyItemsAt : Nat → List Value → Text
  | level, [] => newLine level ++ [']']
  | level, item :: items =>
      ',' :: newLine (level + 1) ++ prettyAt (level + 1) item ++ prettyItemsAt level items

/-- The further members of an object, and its end. -/
def prettyMembersAt : Nat → List (Text × Value) → Text
  | level, [] => newLine level ++ ['}']
  | level, (key, member) :: members =>
      ',' :: newLine (level + 1) ++ quote key ++ ':' :: ' ' :: prettyAt (level + 1) member
        ++ prettyMembersAt level members

end

/-- A value on indented lines, without a line feed at the end. -/
def pretty (value : Value) : Text :=
  prettyAt 0 value

end Value

end PageAudit.Json
