import PageAudit.Rule.Budget
import PageAudit.Rule.Bundle
import PageAudit.Rule.Connection
import PageAudit.Rule.Fonts
import PageAudit.Rule.Loading
import PageAudit.Rule.Metadata

/-! The rules in the order in which they report. -/

namespace PageAudit.Rule

/-- All rules: metadata, loading, budgets of the renderer, and bundles. -/
def all : List Rule :=
  [title, metaDescription, canonical, structuredData, openGraph, headOrder, blockingScripts,
    externalScripts, imageAttributes, imageComponent, inlineImageSize, fontLoading,
    resourceHints, htmlSize, domSize, domDepth, heavyImports]

/-- A rule reports a code, in any case. -/
def reports (rule : Rule) (code : Text) : Bool :=
  rule.codes.any (Text.sameLetters · code)

/-- The first of some rules that reports a code. -/
def findByCode? (rules : List Rule) (code : Text) : Option Rule :=
  rules.find? (·.reports code)

end PageAudit.Rule
