import PageAudit.Text.Basic
import PageAudit.Text.WordTable

/-! Words: which characters belong to words, where words begin and end, and when a
character matches a letter of a keyword regardless of case.
-/

namespace PageAudit.Text

/-- A character that is part of a word. The ASCII ones are letters, digits and `_`. -/
def isWordChar (char : Char) : Bool :=
  if char.toNat < 0x80 then char.isAlphanum || char == '_'
  else inRanges wordRanges char

/-- A word begins or ends between two neighbours when exactly one of them is a word
character. Beyond an end of the text there is none.
-/
def isWordBoundary (before after : Option Char) : Bool :=
  before.any isWordChar != after.any isWordChar

/-- A character stands for a letter of a keyword, which is written in lower case, when both
have one case folding. Beside the two ASCII forms these are the long s and the Kelvin sign.
-/
def foldsTo (letter char : Char) : Bool :=
  char.toLower == letter || (letter == 's' && char == '\u017f')
    || (letter == 'k' && char == '\u212a')

/-- What follows a keyword in a text that begins with it in any case. -/
def afterKeyword? : Text → Text → Option Text
  | [], text => some text
  | _ :: _, [] => none
  | letter :: keyword, char :: rest =>
      if foldsTo letter char then afterKeyword? keyword rest else none

end PageAudit.Text
