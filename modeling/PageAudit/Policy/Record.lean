import PageAudit.Json.Printer
import PageAudit.Json.Reader
import PageAudit.Json.Record
import PageAudit.Policy.Basic

/-! Policies as JSON records. -/

namespace PageAudit.Policy

/-- A list of strings as a value. -/
def textsToJson (texts : List Text) : Json.Value :=
  .array (texts.map .string)

/-- The members of the record of a policy. -/
def members (policy : Policy) : List (Text × Json.Value) :=
  [("titleMin", .count policy.titleMin),
    ("titleMax", .count policy.titleMax),
    ("metaDescriptionMin", .count policy.descriptionMin),
    ("metaDescriptionMax", .count policy.descriptionMax),
    ("requireCanonical", .bool policy.requireCanonical),
    ("requireJsonLdFor", textsToJson policy.structuredTypes.items),
    ("maxThirdPartyScriptsPerPage", .count policy.maxExternalScripts),
    ("lcpImageKB", .count policy.imageBudgetKb),
    ("requireFontDisplaySwap", .bool policy.requireFontSwap),
    ("headManagedMarkers", textsToJson policy.headMarkers)]

/-- The record of a policy. -/
def toJson (policy : Policy) : Json.Value :=
  .object policy.members

/-- The fields of the record of a policy. -/
def fields : List Text :=
  ["titleMin", "titleMax", "metaDescriptionMin", "metaDescriptionMax", "requireCanonical",
    "requireJsonLdFor", "maxThirdPartyScriptsPerPage", "lcpImageKB", "requireFontDisplaySwap",
    "headManagedMarkers"]

/-- The policy of a record, in which no field may be missing. -/
def ofJson? (document : Json.Document) : Option Policy :=
  match document.record? fields with
  | some [some titleMin, some titleMax, some descriptionMin, some descriptionMax,
      some requireCanonical, some structuredTypes, some maxExternalScripts, some imageBudgetKb,
      some requireFontSwap, some headMarkers] => do
      let titleMin ← titleMin.count?
      let titleMax ← titleMax.count?
      let descriptionMin ← descriptionMin.count?
      let descriptionMax ← descriptionMax.count?
      let requireCanonical ← requireCanonical.bool?
      let structuredTypes ← structuredTypes.texts?.map .ofList
      let maxExternalScripts ← maxExternalScripts.count?
      let imageBudgetKb ← imageBudgetKb.count?
      let requireFontSwap ← requireFontSwap.bool?
      let headMarkers ← headMarkers.texts?
      some
        { titleMin, titleMax, descriptionMin, descriptionMax, requireCanonical, structuredTypes
          maxExternalScripts, imageBudgetKb, requireFontSwap, headMarkers }
  | _ => none

/-- The policy that a text spells. -/
def ofText? (text : Text) : Option Policy :=
  (Json.Document.ofText? text).bind ofJson?

end PageAudit.Policy
