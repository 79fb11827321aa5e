import PageAudit.Text.Basic

/-! How serious a finding is, and the part of a page that it is about. -/

namespace PageAudit

/-- A hint, a likely loss of ranking or speed, or an exceeded hard budget. -/
inductive Severity where
  | info
  | warning
  | error
deriving DecidableEq

namespace Severity

/-- More serious findings have the higher rank. -/
def rank : Severity → Nat
  | .info => 0
  | .warning => 1
  | .error => 2

/-- A severity is not below a given one. -/
def atLeast (severity least : Severity) : Bool :=
  least.rank ≤ severity.rank

/-- The name under which a severity is written. -/
def name : Severity → Text
  | .info => "info"
  | .warning => "warning"
  | .error => "error"

/-- The severity that a word stands for, in any case. Each has short forms or synonyms. -/
def ofWord? (word : Text) : Option Severity :=
  let word := Text.lower word
  if word ∈ (["info", "hint", "note"] : List Text) then some .info
  else if word ∈ (["warning", "warn"] : List Text) then some .warning
  else if word ∈ (["error", "err"] : List Text) then some .error
  else none

end Severity

/-- The concern of a rule: metadata for search engines, loading performance, the budgets of
a crawler that renders pages, or the weight of script bundles.
-/
inductive Category where
  | seo
  | performance
  | renderBudget
  | bundle
deriving DecidableEq

/-- The name under which a category is written. -/
def Category.name : Category → Text
  | .seo => "seo"
  | .performance => "performance"
  | .renderBudget => "render-budget"
  | .bundle => "bundle"

end PageAudit
