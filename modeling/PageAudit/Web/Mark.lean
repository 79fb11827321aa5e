import PageAudit.Text.Basic
import PageAudit.Web.MarkTable

/-! Marks that combine with the character before them. -/

namespace PageAudit.Web

/-- A mark that takes no room of its own. -/
def isNonspacing (char : Char) : Bool :=
  Text.inRanges nonspacingRanges char

/-- A mark that combines with the character before it. -/
def isMark (char : Char) : Bool :=
  isNonspacing char || Text.inRanges spacingRanges char

end PageAudit.Web
