import PageAudit.Policy.Overlay
import PageAudit.Policy.Record
import PageAudit.Proofs.Json.Member
import PageAudit.Proofs.Text.Set

/-! A policy is read back from its record.

The record is described three times: by the members that are written, by the fields that are read
from a document, and by the settings that are laid over the standard policy. The names of the
members are distinct, so each of the readers finds the value that was written.
-/

namespace PageAudit.Policy

/-- The counts of a policy. -/
def counts (policy : Policy) : List Nat :=
  [policy.titleMin, policy.titleMax, policy.descriptionMin, policy.descriptionMax,
    policy.maxExternalScripts, policy.imageBudgetKb]

/-- A configuration whose two sections are the same record. -/
def sections (record : Json.Value) : Json.Value :=
  .object [("seo", record), ("perf", record)]

theorem keys_members (policy : Policy) : policy.members.map (·.1) = fields :=
  rfl

theorem nodup_fields : fields.Nodup := by
  decide +kernel

theorem nodup_keys_members (policy : Policy) : (policy.members.map (·.1)).Nodup := by
  rw [keys_members]
  exact nodup_fields

/-- A policy is read back from the document of its record. -/
theorem ofJson?_toJson (policy : Policy) : ofJson? (.ofValue policy.toJson) = some policy := by
  have read : (Json.Document.ofValue policy.toJson).record? (policy.members.map (·.1))
      = some (policy.members.map fun member => some (.ofValue member.2)) :=
    Json.Document.record?_ofValue policy.nodup_keys_members
  rw [keys_members] at read
  have types : (Json.Document.ofValue (textsToJson policy.structuredTypes.items)).texts?
      = some policy.structuredTypes.items :=
    Json.Document.texts?_texts _
  have markers : (Json.Document.ofValue (textsToJson policy.headMarkers)).texts?
      = some policy.headMarkers :=
    Json.Document.texts?_texts _
  rw [ofJson?, read]
  simp only [members, List.map_cons, List.map_nil, Json.Document.count?_count,
    Json.Document.bool?_bool, types, markers, Option.map_some, TextSet.ofList_items,
    Option.bind_eq_bind, Option.bind_some]

/-- Both sections of a configuration hold each member of their record. -/
theorem setting?_sections {policy : Policy} {key : Text} {value : Json.Value}
    (member : (key, value) ∈ policy.members)
    : (sections policy.toJson).setting? "seo" key = some value
      ∧ (sections policy.toJson).setting? "perf" key = some value := by
  have found : policy.toJson.member? key = some value :=
    Json.Value.member?_of_mem policy.nodup_keys_members member
  have seo : (sections policy.toJson).member? "seo" = some policy.toJson := rfl
  have perf : (sections policy.toJson).member? "perf" = some policy.toJson := rfl
  constructor
  · rw [Json.Value.setting?, seo]
    exact found
  · rw [Json.Value.setting?, perf]
    exact found

/-- A policy is what its record, laid over the standard policy in both sections, configures. -/
theorem ofConfiguration_sections (policy : Policy)
    : ofConfiguration (sections policy.toJson) = policy := by
  have all : ∀ member ∈ policy.members,
      (sections policy.toJson).setting? "seo" member.1 = some member.2
      ∧ (sections policy.toJson).setting? "perf" member.1 = some member.2 :=
    fun _ among => setting?_sections among
  simp only [members, List.forall_mem_cons] at all
  obtain ⟨titleMin, titleMax, descriptionMin, descriptionMax, canonical, types, scripts, images,
    fonts, markers, -⟩ := all
  have listed : (textsToJson policy.structuredTypes.items).strings?
      = some policy.structuredTypes.items :=
    Json.Value.strings?_texts _
  have marked : (textsToJson policy.headMarkers).strings? = some policy.headMarkers :=
    Json.Value.strings?_texts _
  unfold ofConfiguration
  simp only [titleMin.1, titleMax.1, descriptionMin.1, descriptionMax.1, canonical.1, types.1,
    scripts.2, images.2, fonts.2, markers.1, listed, marked, Option.bind_some, Option.map_some,
    Option.getD_some, TextSet.ofList_items]
  rfl

/-- The record of a policy is an object of counts, truth values and lists of strings. -/
theorem fits_toJson {policy : Policy} (depth : Nat)
    (words : ∀ count ∈ policy.counts, count < UInt64.size)
    : policy.toJson.Fits (depth + 2) := by
  simp only [counts, List.forall_mem_cons] at words
  obtain ⟨titleMin, titleMax, descriptionMin, descriptionMax, scripts, images, -⟩ := words
  exact ⟨Json.Value.fits_count titleMin, Json.Value.fits_count titleMax,
    Json.Value.fits_count descriptionMin, Json.Value.fits_count descriptionMax, trivial,
    Json.Value.itemsFit_texts depth _, Json.Value.fits_count scripts,
    Json.Value.fits_count images, trivial, Json.Value.itemsFit_texts depth _, trivial⟩

/-- A policy with counts of 64 bits is read back from its record: from the document of the record,
from both of its written forms, and as the configuration whose two sections are that record, also
when the configuration is written and read.
-/
theorem reread_toJson (policy : Policy) (words : ∀ count ∈ policy.counts, count < UInt64.size)
    : ofJson? (.ofValue policy.toJson) = some policy
      ∧ ofText? policy.toJson.compact = some policy
      ∧ ofText? policy.toJson.pretty = some policy
      ∧ ofConfiguration (sections policy.toJson) = policy
      ∧ (Json.Value.ofText? (sections policy.toJson).compact).map ofConfiguration = some policy
      ∧ (Json.Value.ofText? (sections policy.toJson).pretty).map ofConfiguration
        = some policy := by
  have document := policy.ofJson?_toJson
  have configured := policy.ofConfiguration_sections
  have fits := fits_toJson 0 words
  have within : policy.toJson.Fits 126 := fits_toJson 124 words
  have sectionsFit : (sections policy.toJson).Fits Json.Document.maxDepth :=
    ⟨within, within, trivial⟩
  refine ⟨document, ?_, ?_, configured, ?_, ?_⟩
  · rw [ofText?, Json.Document.ofText?_compact fits, Option.bind_some, document]
  · rw [ofText?, Json.Document.ofText?_pretty fits, Option.bind_some, document]
  · rw [Json.Value.ofText?_compact sectionsFit, Option.map_some, configured]
  · rw [Json.Value.ofText?_pretty sectionsFit, Option.map_some, configured]

/-- A policy with the greatest count there is and without types and markers. -/
def bare : Policy :=
  { Policy.standard with
    titleMax := UInt64.size - 1
    structuredTypes := .empty
    headMarkers := [] }

/-- Witness: a policy with the greatest count, an empty set and an empty list. -/
theorem reread_toJson_bare
    : (∀ count ∈ bare.counts, count < UInt64.size)
      ∧ ofText? bare.toJson.compact = some bare
      ∧ ofConfiguration (sections bare.toJson) = bare := by
  have words : ∀ count ∈ bare.counts, count < UInt64.size := by decide
  have read := reread_toJson bare words
  exact ⟨words, read.2.1, read.2.2.2.1⟩

end PageAudit.Policy
