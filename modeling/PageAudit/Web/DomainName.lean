import PageAudit.Web.Direction
import PageAudit.Web.Folding
import PageAudit.Web.Joiner
import PageAudit.Web.Punycode

/-! Domain names as they are looked up: in small letters, composed, and in ASCII. -/

namespace PageAudit.Web.DomainName

/-- An ASCII character that no domain name holds: controls, the space, and those that separate
the parts of an address.
-/
def isForbidden (char : Char) : Bool :=
  char.toNat ≤ 0x20 || char.toNat == 0x7F || ("%#/:<>?@[\\]^|".toList).contains char

/-- A label begins with no mark, its joiners stand where they may, and all its characters are
allowed.
-/
def isProper (label : Text) : Bool :=
  !label.head?.any isMark && joinersFit [] label && !label.any isForbidden

/-- A character beyond ASCII. -/
def isWide (char : Char) : Bool :=
  0x80 ≤ char.toNat

/-- A label of a name, as it is read and as it is written in ASCII. -/
structure Label where
  text : Text
  ascii : Text

/-- A written label may have this many characters behind its mark. -/
def maxWritten : Nat :=
  2000

/-- A label with characters beyond ASCII may have this many characters. -/
def maxWide : Nat :=
  1000

/-- The label that is written in ASCII behind the mark of such labels. It has characters beyond
ASCII, and it is in normal form.
-/
def writtenLabel? (written : Text) : Option Label :=
  if written.any isWide ∨ maxWritten < written.length then none
  else
    (Punycode.decode? written).bind fun text =>
      if text.any isWide ∧ normalize? text = some text ∧ isProper text then
        some { text, ascii := "xn--".toList ++ written }
      else none

/-- A label of a name in normal form. -/
def label? (text : Text) : Option Label :=
  match Text.after? "xn--" text with
  | some written => writtenLabel? written
  | none =>
      if ¬ isProper text then none
      else if ¬ text.any isWide then some { text, ascii := text }
      else if maxWide < text.length then none
      else some { text, ascii := "xn--".toList ++ Punycode.encode text }

/-- The name in ASCII under which a domain is looked up. -/
def toAscii? (name : Text) : Option Text :=
  (normalize? name).bind fun name =>
    ((Text.splitOnChar '.' name).mapM label?).bind fun labels =>
      if labelsAreOrderly (labels.map (·.text)) then some (Text.join "." (labels.map (·.ascii)))
      else none

end PageAudit.Web.DomainName
