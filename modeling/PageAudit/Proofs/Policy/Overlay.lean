import PageAudit.Proofs.Json.Setting
import PageAudit.Proofs.Text.Set

/-! What a project configures, field by field. Each field comes from the one value at its own
section and key, and what stands at any other place has no say in it.
-/

namespace PageAudit

open Json (Value)

-----------------------------------------------------------------------------------------
-- Types of fields
-----------------------------------------------------------------------------------------

/-- The types of the fields that a project can configure. -/
inductive FieldType
  | count
  | flag
  | texts
  | textSet

namespace FieldType

/-- What a field of a type holds. -/
def Content : FieldType → Type
  | .count => Nat
  | .flag => Bool
  | .texts => List Text
  | .textSet => TextSet

/-- (type.Denotes value content) says that a JSON value is of a type and what it means there: a
count of 64 bits, a truth value, or an array of nothing but strings. For a set neither their order
nor their number matters.
-/
def Denotes : (type : FieldType) → Value → type.Content → Prop
  | .count, value, (number : Nat) => value = .count number ∧ number < UInt64.size
  | .flag, value, truth => value = .bool truth
  | .texts, value, list => value = .array (List.map .string list)
  | .textSet, value, set =>
      ∃ list, value = .array (List.map .string list) ∧ ∀ text, text ∈ set.items ↔ text ∈ list

/-- The content of a field of a type that a value is read as. -/
def read? : (type : FieldType) → Value → Option type.Content
  | .count, value => value.count?
  | .flag, value => value.bool?
  | .texts, value => value.strings?
  | .textSet, value => value.strings?.map .ofList

/-- A value is read exactly as what it means. Only counts have to be words for that. -/
theorem read?_eq_some_iff {type : FieldType} {value : Value} {content : type.Content}
    (words : type = .count → value.WordSized)
    : type.read? value = some content ↔ type.Denotes value content := by
  cases type with
  | count =>
      refine Value.count?_eq_some_iff.trans ⟨?_, And.left⟩
      rintro rfl
      exact ⟨rfl, (words rfl).count_lt⟩
  | flag => exact Value.bool?_eq_some_iff
  | texts => exact Value.strings?_eq_some_iff
  | textSet =>
      refine Option.map_eq_some_iff.trans (exists_congr fun list => ?_)
      refine and_congr Value.strings?_eq_some_iff ⟨?_, fun same => ?_⟩
      · rintro rfl text
        exact TextSet.mem_items_ofList
      · refine TextSet.eq_of_mem_items_iff fun text => ?_
        rw [TextSet.mem_items_ofList, same]

end FieldType

-----------------------------------------------------------------------------------------
-- Fields of a project
-----------------------------------------------------------------------------------------

namespace Project

/-- The fields that a project can configure: those of its policy and the suppressed codes. -/
inductive Field
  | titleMin
  | titleMax
  | descriptionMin
  | descriptionMax
  | requireCanonical
  | structuredTypes
  | headMarkers
  | maxExternalScripts
  | imageBudgetKb
  | requireFontSwap
  | disabled

namespace Field

/-- The type of a field. -/
def type : Field → FieldType
  | .titleMin | .titleMax | .descriptionMin | .descriptionMax => .count
  | .maxExternalScripts | .imageBudgetKb => .count
  | .requireCanonical | .requireFontSwap => .flag
  | .structuredTypes => .textSet
  | .headMarkers | .disabled => .texts

/-- The section and the key where a configuration has the value of a field. -/
def place : Field → Text × Text
  | .titleMin => ("seo", "titleMin")
  | .titleMax => ("seo", "titleMax")
  | .descriptionMin => ("seo", "metaDescriptionMin")
  | .descriptionMax => ("seo", "metaDescriptionMax")
  | .requireCanonical => ("seo", "requireCanonical")
  | .structuredTypes => ("seo", "requireJsonLdFor")
  | .headMarkers => ("seo", "headManagedMarkers")
  | .maxExternalScripts => ("perf", "maxThirdPartyScriptsPerPage")
  | .imageBudgetKb => ("perf", "lcpImageKB")
  | .requireFontSwap => ("perf", "requireFontDisplaySwap")
  | .disabled => ("rules", "disabled")

/-- The content of a field of a project. -/
def content : (field : Field) → Project → field.type.Content
  | .titleMin, project => project.policy.titleMin
  | .titleMax, project => project.policy.titleMax
  | .descriptionMin, project => project.policy.descriptionMin
  | .descriptionMax, project => project.policy.descriptionMax
  | .requireCanonical, project => project.policy.requireCanonical
  | .structuredTypes, project => project.policy.structuredTypes
  | .headMarkers, project => project.policy.headMarkers
  | .maxExternalScripts, project => project.policy.maxExternalScripts
  | .imageBudgetKb, project => project.policy.imageBudgetKb
  | .requireFontSwap, project => project.policy.requireFontSwap
  | .disabled, project => project.disabled

/-- (field.IsSet configuration value) says that a value stands at the place of a field. -/
def IsSet (field : Field) (configuration value : Value) : Prop :=
  configuration.Sets field.place.1 field.place.2 value

/-- (field.Resolves configuration content) says what a configuration makes of a field: the meaning
of the value at the place of the field, and without a value of the type there the standard content.
-/
inductive Resolves (field : Field) (configuration : Value) : field.type.Content → Prop where
  | configured {value : Value} {content : field.type.Content}
    (found : field.IsSet configuration value) (denotes : field.type.Denotes value content)
    : Resolves field configuration content
  | standard
    (nothing : ∀ value, field.IsSet configuration value
      → ∀ content, ¬ field.type.Denotes value content)
    : Resolves field configuration (field.content .standard)

variable {field : Field} {configuration : Value}

theorem content_ofConfiguration
    : field.content (.ofConfiguration configuration)
      = ((configuration.setting? field.place.1 field.place.2).bind field.type.read?).getD
          (field.content .standard) := by
  cases field with
  | structuredTypes =>
      -- the list becomes a set behind the reading of the value, not within it
      exact congrArg (Option.getD · Policy.standard.structuredTypes) Option.map_bind
  | _ => rfl

/-- A field has one resolution, and a configuration makes that of it. -/
theorem resolves_iff (words : field.type = .count → configuration.WordSized)
    {content : field.type.Content}
    : field.Resolves configuration content
      ↔ field.content (.ofConfiguration configuration) = content := by
  rw [content_ofConfiguration]
  have read {value : Value} {content : field.type.Content} (set : field.IsSet configuration value)
      : field.type.read? value = some content ↔ field.type.Denotes value content :=
    FieldType.read?_eq_some_iff fun count => (words count).of_sets set
  constructor
  · intro resolves
    cases resolves with
    | configured set denotes =>
        rw [Value.setting?_eq_some_iff.mpr set, Option.bind_some, (read set).mpr denotes]
        rfl
    | standard nothing =>
        have none : (configuration.setting? field.place.1 field.place.2).bind field.type.read?
            = none := by
          refine Option.bind_eq_none_iff.mpr fun value found => ?_
          have set := Value.setting?_eq_some_iff.mp found
          refine Option.eq_none_iff_forall_ne_some.mpr fun content reads => ?_
          exact nothing value set content ((read set).mp reads)
        rw [none]
        rfl
  · rintro rfl
    cases found : (configuration.setting? field.place.1 field.place.2).bind field.type.read? with
    | some content =>
        obtain ⟨value, found, reads⟩ := Option.bind_eq_some_iff.mp found
        have set := Value.setting?_eq_some_iff.mp found
        exact .configured set ((read set).mp reads)
    | none =>
        refine .standard fun value set content denotes => ?_
        have unread := Option.bind_eq_none_iff.mp found value (Value.setting?_eq_some_iff.mpr set)
        cases unread.symm.trans ((read set).mpr denotes)

end Field

/-- The fields make up a project beside the file that it comes from. -/
theorem eq_iff_forall_content {first second : Project}
    : first = second
      ↔ first.source = second.source
        ∧ ∀ field : Field, field.content first = field.content second := by
  constructor
  · rintro rfl
    exact ⟨rfl, fun _ => rfl⟩
  · rintro ⟨source, same⟩
    obtain ⟨policy, _, _⟩ := first
    obtain ⟨other, _, _⟩ := second
    have policies : policy = other := by
      cases policy
      cases other
      congr
      · exact same .titleMin
      · exact same .titleMax
      · exact same .descriptionMin
      · exact same .descriptionMax
      · exact same .requireCanonical
      · exact same .structuredTypes
      · exact same .maxExternalScripts
      · exact same .imageBudgetKb
      · exact same .requireFontSwap
      · exact same .headMarkers
    congr
    exact same .disabled

/-- The project of a configuration is the one whose fields are what the configuration makes of them,
each from the value at its own place. Two configurations that differ at a single key of a single
section agree on every field with another place.
-/
theorem ofConfiguration_resolves {configuration : Value} (words : configuration.WordSized)
    : (∀ project,
        ofConfiguration configuration = project
        ↔ project.source = none
          ∧ ∀ field : Field, field.Resolves configuration (field.content project))
      ∧ ∀ other section_ key,
          configuration.OnlyDiffersAt section_ key other
          → ∀ field : Field,
              field.place ≠ (section_, key)
              → field.content (ofConfiguration configuration)
                = field.content (ofConfiguration other) := by
  constructor
  · intro project
    rw [eq_iff_forall_content]
    refine and_congr eq_comm (forall_congr' fun field => ?_)
    exact (Field.resolves_iff fun _ => words).symm
  · intro other section_ key differs field elsewhere
    rw [Field.content_ofConfiguration, Field.content_ofConfiguration,
      differs.setting?_eq elsewhere]

/-- A configuration with values of wrong types beside a good one. -/
def mistyped (imageBudget : Value) : Value :=
  .object
    [("seo",
      .object
        [("titleMin", .string "thirty"),
          ("titleMax", .count 70),
          ("requireJsonLdFor", .array [.string "Product", .count 3])]),
      ("perf",
        .object [("requireFontDisplaySwap", .string "yes"), ("lcpImageKB", imageBudget)])]

theorem wordSized_mistyped {imageBudget : Value} (words : imageBudget.WordSized)
    : (mistyped imageBudget).WordSized := by
  have titleMax : (Value.count 70).WordSized := .integer ⟨by decide, by decide⟩
  have three : (Value.count 3).WordSized := .integer ⟨by decide, by decide⟩
  have types : (Value.array [.string "Product", .count 3]).WordSized :=
    .array (List.forall_mem_cons.mpr ⟨.string _, List.forall_mem_singleton.mpr three⟩)
  refine .object (List.forall_mem_cons.mpr ⟨.object ?_, List.forall_mem_singleton.mpr (.object ?_)⟩)
  · exact List.forall_mem_cons.mpr
      ⟨.string _, List.forall_mem_cons.mpr ⟨titleMax, List.forall_mem_singleton.mpr types⟩⟩
  · exact List.forall_mem_cons.mpr ⟨.string _, List.forall_mem_singleton.mpr words⟩

/-- A budget below zero leaves the standard one in place and disturbs no other field, and neither do
the other values of wrong types.
-/
theorem ofConfiguration_resolves_mistyped
    : let negative := mistyped (.number (.integer (-5)))
      let repaired := mistyped (.count 120)
      negative.WordSized
      ∧ (∀ field : Field,
          field.Resolves negative (field.content (ofConfiguration negative)))
      ∧ negative.OnlyDiffersAt "perf" "lcpImageKB" repaired
      ∧ (∀ field : Field,
          field.place ≠ ("perf".toList, "lcpImageKB".toList)
          → field.content (ofConfiguration negative) = field.content (ofConfiguration repaired))
      ∧ (ofConfiguration negative).policy.titleMin = Policy.standard.titleMin
      ∧ (ofConfiguration negative).policy.titleMax = 70
      ∧ (ofConfiguration negative).policy.imageBudgetKb = Policy.standard.imageBudgetKb
      ∧ (ofConfiguration repaired).policy.imageBudgetKb = 120 := by
  intro negative repaired
  have words : negative.WordSized := wordSized_mistyped (.integer ⟨by decide, by decide⟩)
  have differs : negative.OnlyDiffersAt "perf" "lcpImageKB" repaired :=
    Value.onlyDiffersAt_of_members [_] [] [_] []
  obtain ⟨fields, others⟩ := ofConfiguration_resolves words
  exact ⟨words, ((fields _).mp rfl).2, differs, others repaired _ _ differs, rfl, rfl, rfl, rfl⟩

end Project

end PageAudit
