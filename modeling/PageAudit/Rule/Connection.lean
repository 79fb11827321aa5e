import PageAudit.Rule.Loading
import PageAudit.Web.Origin

/-! The rule about early connections to the other origins that a page loads from. -/

namespace PageAudit.Rule

/-- The reference of a tag that loads a script or a stylesheet from elsewhere. -/
def loadedFrom? (tag : Tag) : Option Text :=
  if isExternalScript tag then tag.attribute? "src"
  else if tag.isStylesheet then tag.attribute? "href"
  else none

/-- The tags that load from an origin, with the origin. -/
def originsIn (originOf : Text → Option Text) (tags : List Tag) : List (Tag × Text) :=
  tags.filterMap fun tag => ((loadedFrom? tag).bind originOf).map (tag, ·)

/-- The different texts of a list in the order of their first appearance. -/
def distinct (texts : List Text) : List Text :=
  texts.foldl (fun seen text => if seen.contains text then seen else seen ++ [text]) []

/-- So many origins are listed. -/
def maxListedOrigins : Nat :=
  3

/-- (connections originOf tags) are the findings about a stream of tags that load from other
origins without a hint to connect early. The origin of a reference is given by `originOf`.
-/
def connections (originOf : Text → Option Text) (tags : List Tag) : List Finding :=
  if tags.any (fun tag => tag.opens "link" && tag.attributeHasToken "rel" "preconnect") then []
  else
    match originsIn originOf tags with
    | [] => []
    | (anchor, origin) :: others =>
        let listed := (distinct (origin :: others.map (·.2))).take maxListedOrigins
        [{ code := "PERF_PRECONNECT_MISSING"
           severity := .info
           category := .performance
           message :=
             "No preconnect hint for external origins: ".toList ++ Text.join ", " listed
           span := anchor.span
           help :=
             some "Add <link rel=\"preconnect\" href=\"...\"> for critical origins".toList }]

/-- Early connections to other origins. -/
def resourceHints : Rule :=
  { id := "resource-hints"
    description := "Pages that load from external origins should preconnect to them"
    category := .performance
    codes := ["PERF_PRECONNECT_MISSING"]
    evaluate := fun page => connections Web.externalOrigin? page.tags }

end PageAudit.Rule
