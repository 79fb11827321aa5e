import PageAudit.Text.Basic

/-! White space in the sense of the Unicode property `White_Space`, and the narrower ASCII
white space that separates the tokens of an attribute value.
-/

namespace PageAudit.Text

/-- A character with the Unicode property `White_Space`. -/
def isBlank (char : Char) : Bool :=
  let code := char.toNat
  (0x09 ≤ code && code ≤ 0x0D) || code == 0x20 || code == 0x85 || code == 0xA0
    || code == 0x1680 || (0x2000 ≤ code && code ≤ 0x200A) || code == 0x2028
    || code == 0x2029 || code == 0x202F || code == 0x205F || code == 0x3000

/-- The blanks at the front of a text are dropped. -/
def trimStart (text : Text) : Text :=
  text.dropWhile isBlank

/-- The blanks at the end of a text are dropped. -/
def trimEnd (text : Text) : Text :=
  (text.reverse.dropWhile isBlank).reverse

/-- The blanks at both ends of a text are dropped. -/
def trim (text : Text) : Text :=
  trimEnd (trimStart text)

/-- Space, tab, line feed, form feed and carriage return separate tokens. -/
def isAsciiBlank (char : Char) : Bool :=
  char == ' ' || char == '\t' || char == '\n' || char == '\x0c' || char == '\r'

/-- The longest runs of characters that are no ASCII blanks, in order. -/
def tokens (text : Text) : List Text :=
  (text.splitBy (fun left right => isAsciiBlank left == isAsciiBlank right)).filter
    (fun run => run.any (fun char => !isAsciiBlank char))

end PageAudit.Text
