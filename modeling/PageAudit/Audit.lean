import PageAudit.Rule.Registry

/-! The audit of one document: its text goes in and its findings come out. -/

namespace PageAudit

/-- What an audit depends on beside the document. -/
structure Auditor where
  policy : Policy
  tables : Tables
  rules : List Rule

namespace Auditor

/-- An auditor with the standard tables and all rules. -/
def ofPolicy (policy : Policy) : Auditor :=
  { policy, tables := .standard, rules := Rule.all }

/-- The findings that the rules of an auditor report for a page, in the order of the rules. -/
def evaluate (auditor : Auditor) (page : Page) : List Finding :=
  auditor.rules.flatMap (·.evaluate page)

/-- The findings of a document with their positions. -/
def audit (auditor : Auditor) (fileName text : Text) : List Finding :=
  Finding.settleAll text
    (auditor.evaluate (Page.ofText auditor.policy auditor.tables fileName text))

/-- A rule of an auditor overflows for a page. -/
def overflows (auditor : Auditor) (page : Page) : Bool :=
  auditor.rules.any (·.overflows page)

/-- The findings of a document with their positions, as far as no rule overflows. One that does
stops the whole audit.
-/
def audit? (auditor : Auditor) (fileName text : Text) : Option (List Finding) :=
  if auditor.overflows (Page.ofText auditor.policy auditor.tables fileName text) then none
  else some (auditor.audit fileName text)

end Auditor

end PageAudit
