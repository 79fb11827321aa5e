import PageAudit.Text.Set

/-! The policy of a project: the limits and demands that the rules compare a page with. -/

namespace PageAudit

/-- The limits and demands of a project. Lengths are in characters and both of their ends are
allowed. The markers are texts that show that a library manages the head of a page.
-/
structure Policy where
  titleMin : Nat
  titleMax : Nat
  descriptionMin : Nat
  descriptionMax : Nat
  requireCanonical : Bool
  structuredTypes : TextSet
  maxExternalScripts : Nat
  imageBudgetKb : Nat
  requireFontSwap : Bool
  headMarkers : List Text

namespace Policy

/-- The policy of a project that states none. -/
def standard : Policy :=
  { titleMin := 30
    titleMax := 60
    descriptionMin := 70
    descriptionMax := 160
    requireCanonical := true
    structuredTypes := .ofList ["Product", "Article"]
    maxExternalScripts := 5
    imageBudgetKb := 200
    requireFontSwap := true
    headMarkers :=
      ["next/head", "react-helmet", "react-helmet-async", "@vueuse/head", "@unhead/vue",
        "useHead(", "<svelte:head", "export const metadata", "generateMetadata"] }

/-- Pages of a type have to carry structured data. -/
def requiresStructuredData (policy : Policy) (pageType : Text) : Bool :=
  policy.structuredTypes.contains pageType

end Policy

end PageAudit
