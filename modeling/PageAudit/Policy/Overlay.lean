import PageAudit.Json.Value
import PageAudit.Policy.Basic

/-! What a project configures, laid over the standard policy.

Each field is taken on its own. A value that is missing or of another type leaves the standard
one in place and does not disturb its neighbours.
-/

namespace PageAudit

/-- The value at a key of a section of a configuration. -/
def Json.Value.setting? (configuration : Json.Value) (section_ key : Text)
    : Option Json.Value :=
  (configuration.member? section_).bind (·.member? key)

namespace Policy

/-- The policy of a project with a given configuration. -/
def ofConfiguration (configuration : Json.Value) : Policy :=
  let seo := configuration.setting? "seo"
  let perf := configuration.setting? "perf"
  { titleMin := ((seo "titleMin").bind (·.count?)).getD standard.titleMin
    titleMax := ((seo "titleMax").bind (·.count?)).getD standard.titleMax
    descriptionMin :=
      ((seo "metaDescriptionMin").bind (·.count?)).getD standard.descriptionMin
    descriptionMax :=
      ((seo "metaDescriptionMax").bind (·.count?)).getD standard.descriptionMax
    requireCanonical :=
      ((seo "requireCanonical").bind (·.bool?)).getD standard.requireCanonical
    structuredTypes :=
      (((seo "requireJsonLdFor").bind (·.strings?)).map .ofList).getD standard.structuredTypes
    maxExternalScripts :=
      ((perf "maxThirdPartyScriptsPerPage").bind (·.count?)).getD standard.maxExternalScripts
    imageBudgetKb := ((perf "lcpImageKB").bind (·.count?)).getD standard.imageBudgetKb
    requireFontSwap :=
      ((perf "requireFontDisplaySwap").bind (·.bool?)).getD standard.requireFontSwap
    headMarkers :=
      ((seo "headManagedMarkers").bind (·.strings?)).getD standard.headMarkers }

end Policy

/-- The settings of a project: its policy, the codes that it suppresses, and the file from
which they come.
-/
structure Project where
  policy : Policy
  disabled : List Text
  source : Option Text

namespace Project

/-- The settings of a project without a configuration. -/
def standard : Project :=
  { policy := .standard, disabled := [], source := none }

/-- The settings of a project with a given configuration. -/
def ofConfiguration (configuration : Json.Value) : Project :=
  { policy := .ofConfiguration configuration
    disabled := ((configuration.setting? "rules" "disabled").bind (·.strings?)).getD []
    source := none }

/-- A code is suppressed, in any case. -/
def isDisabled (project : Project) (code : Text) : Bool :=
  project.disabled.any (Text.sameLetters · code)

end Project

end PageAudit
