import PageAudit.Finding.Severity
import PageAudit.Source.Ruler

/-! A finding is one remark about a document, tied to the construct that caused it. -/

namespace PageAudit

/-- A remark with its stable code. Rules leave the position at its default, and it is filled
in when the findings of a document are put together.
-/
structure Finding where
  code : Text
  severity : Severity
  category : Category
  message : Text
  span : Span
  position : Position := .origin
  help : Option Text := none
deriving DecidableEq

namespace Finding

/-- The finding with its span clamped into the measured text and the position of its start. -/
def settle (ruler : Ruler) (finding : Finding) : Finding :=
  let span := ruler.clamp finding.span
  { finding with span, position := ruler.position span.start }

/-- The findings of a document with clamped spans and positions. -/
def settleAll (text : Text) (findings : List Finding) : List Finding :=
  if findings.isEmpty then []
  else
    let ruler := Ruler.ofText text
    findings.map (settle ruler)

end Finding

end PageAudit
