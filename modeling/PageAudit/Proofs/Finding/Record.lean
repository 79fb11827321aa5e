import PageAudit.Finding.Record
import PageAudit.Proofs.Json.Member

/-! A finding is read back from its record as it was, with a span that may stop in front of its
start. Its help text is in the record exactly when there is one, and without its position the record
is read as that of the same finding at the origin.
-/

namespace PageAudit

/-- The places of a finding are offsets into a text in memory, which have 64 bits. -/
structure Finding.Storable (finding : Finding) : Prop where
  line : finding.position.line < UInt64.size
  column : finding.position.column < UInt64.size
  start : finding.span.start < UInt64.size
  stop : finding.span.stop < UInt64.size

instance (finding : Finding) : Decidable finding.Storable :=
  decidable_of_iff
    (finding.position.line < UInt64.size ∧ finding.position.column < UInt64.size
      ∧ finding.span.start < UInt64.size ∧ finding.span.stop < UInt64.size)
    ⟨fun ⟨line, column, start, stop⟩ => ⟨line, column, start, stop⟩,
      fun ⟨line, column, start, stop⟩ => ⟨line, column, start, stop⟩⟩

-----------------------------------------------------------------------------------------
-- The parts of a record
-----------------------------------------------------------------------------------------

theorem Severity.ofName?_name (severity : Severity) : ofName? severity.name = some severity := by
  cases severity <;> rfl

theorem Category.ofName?_name (category : Category) : ofName? category.name = some category := by
  cases category <;> rfl

theorem Span.ofJson?_toJson (span : Span) : ofJson? (.ofValue span.toJson) = some span :=
  rfl

theorem Position.ofJson?_toJson (position : Position)
    : ofJson? (.ofValue position.toJson) = some position :=
  rfl

namespace Finding

open Json (Value Document)

/-- The members of the record of a finding in front of its position. -/
def leadingMembers (finding : Finding) : List (Text × Value) :=
  [("severity", .string finding.severity.name),
    ("category", .string finding.category.name),
    ("message", .string finding.message),
    ("span", finding.span.toJson)]

/-- The member of the record of a finding behind its position, if it has a help text. -/
def helpMembers (finding : Finding) : List (Text × Value) :=
  (finding.help.map (fun help => ("help".toList, Value.string help))).toList

/-- The members of the record of a finding, with a position or without one. -/
def membersAt (position : Option Position) (finding : Finding) : List (Text × Value) :=
  ("code".toList, .string finding.code)
    :: (finding.leadingMembers
      ++ ((position.map (fun position => ("position".toList, position.toJson))).toList
        ++ finding.helpMembers))

/-- The record of a finding with a position or without one. -/
def recordAt (position : Option Position) (finding : Finding) : Value :=
  .object (finding.membersAt position)

theorem toJson_eq_recordAt (finding : Finding)
    : finding.toJson = finding.recordAt (some finding.position) :=
  rfl

theorem without_position (finding : Finding)
    : finding.toJson.without "position" = finding.recordAt none := by
  obtain ⟨code, severity, category, message, span, position, help⟩ := finding
  cases help <;> rfl

-----------------------------------------------------------------------------------------
-- Reading the record
-----------------------------------------------------------------------------------------

/-- The keys of a record are the fields of a finding, but for a position and a help text that are not
there.
-/
theorem keys_membersAt (position : Option Position) (finding : Finding)
    : (finding.membersAt position).map (·.1)
      = fields.filter fun field =>
          (field != "position".toList || position.isSome)
          && (field != "help".toList || finding.help.isSome) := by
  obtain ⟨code, severity, category, message, span, -, help⟩ := finding
  cases position <;> cases help <;> rfl

theorem nodup_fields : fields.Nodup := by
  decide +kernel

theorem nodup_keys_membersAt (position : Option Position) (finding : Finding)
    : ((finding.membersAt position).map (·.1)).Nodup := by
  rw [keys_membersAt]
  exact nodup_fields.filter _

/-- The members of a record at the fields of a finding. -/
theorem map_member?_recordAt (position : Option Position) (finding : Finding)
    : fields.map (fun field => (finding.recordAt position).member? field)
      = [some (.string finding.code), some (.string finding.severity.name),
          some (.string finding.category.name), some (.string finding.message),
          some finding.span.toJson, position.map Position.toJson, finding.help.map .string] := by
  obtain ⟨code, severity, category, message, span, -, help⟩ := finding
  cases position <;> cases help <;> rfl

/-- A finding is read from the document of its record. Where the position is missing, it is the
origin.
-/
theorem ofJson?_recordAt (position : Option Position) (finding : Finding)
    : ofJson? (.ofValue (finding.recordAt position))
      = some { finding with position := position.getD .origin } := by
  have read : (Document.ofValue (finding.recordAt position)).record? fields
      = some ((fields.map fun field => (finding.recordAt position).member? field).map
          (·.map .ofValue)) := by
    rw [List.map_map]
    exact Document.record?_object (nodup_keys_membersAt position finding) fields
  rw [map_member?_recordAt] at read
  rw [ofJson?, read]
  have severity
      : (Document.ofValue (.string finding.severity.name)).choice?.bind Severity.ofName?
        = some finding.severity :=
    finding.severity.ofName?_name
  have category
      : (Document.ofValue (.string finding.category.name)).choice?.bind Category.ofName?
        = some finding.category :=
    finding.category.ofName?_name
  have text (text : Text) : (Document.ofValue (.string text)).text? = some text := rfl
  have place : (((position.map Position.toJson).map Document.ofValue).map Position.ofJson?).getD
      (some .origin) = some (position.getD .origin) := by
    cases position <;> rfl
  have help : (((finding.help.map Value.string).map Document.ofValue).map
      Document.optionalText?).getD (some none) = some finding.help := by
    cases finding.help <;> rfl
  simp only [List.map_cons, List.map_nil, Option.map_some, text, severity, category,
    Span.ofJson?_toJson, place, help, Option.bind_eq_bind, Option.bind_some]

-----------------------------------------------------------------------------------------
-- Reading the written record
-----------------------------------------------------------------------------------------

theorem fits_spanToJson (depth : Nat) {finding : Finding} (storable : finding.Storable)
    : finding.span.toJson.Fits (depth + 1) :=
  ⟨Value.fits_count storable.start, Value.fits_count storable.stop, trivial⟩

theorem fits_positionToJson (depth : Nat) {finding : Finding} (storable : finding.Storable)
    : finding.position.toJson.Fits (depth + 1) :=
  ⟨Value.fits_count storable.line, Value.fits_count storable.column, trivial⟩

/-- The record of a finding is an object of strings and of two objects of counts. -/
theorem fits_recordAt (depth : Nat) {finding : Finding} (storable : finding.Storable)
    (position : Option Position) (own : ∀ place ∈ position, place = finding.position)
    : (finding.recordAt position).Fits (depth + 2) := by
  have span := fits_spanToJson depth storable
  have place := fits_positionToJson depth storable
  unfold recordAt membersAt helpMembers
  cases position with
  | none =>
      cases finding.help with
      | none => exact ⟨trivial, trivial, trivial, trivial, span, trivial⟩
      | some help => exact ⟨trivial, trivial, trivial, trivial, span, trivial, trivial⟩
  | some position =>
      obtain rfl := own position rfl
      cases finding.help with
      | none => exact ⟨trivial, trivial, trivial, trivial, span, place, trivial⟩
      | some help => exact ⟨trivial, trivial, trivial, trivial, span, place, trivial, trivial⟩

/-- A record that is written in either layout is read as a finding. -/
theorem ofText?_recordAt {finding : Finding} (storable : finding.Storable)
    (position : Option Position) (own : ∀ place ∈ position, place = finding.position)
    : let read := { finding with position := position.getD .origin }
      ofText? (finding.recordAt position).compact = some read
      ∧ ofText? (finding.recordAt position).pretty = some read := by
  have fits := fits_recordAt 0 storable position own
  have document := finding.ofJson?_recordAt position
  constructor
  · rw [ofText?, Document.ofText?_compact fits, Option.bind_some, document]
  · rw [ofText?, Document.ofText?_pretty fits, Option.bind_some, document]

/-- Any finding whose span and position have 64 bits is read back from its record as it was, in both
layouts. What the record spells is an object that has a help text exactly when the finding has one.
Without its position, which takes one part out of the text, it is read as the same finding at the
origin.
-/
theorem ofText?_toJson (finding : Finding) (storable : finding.Storable)
    : ofText? finding.toJson.compact = some finding
      ∧ ofText? finding.toJson.pretty = some finding
      ∧ (∃ members,
          Value.ofText? finding.toJson.compact = some (.object members)
          ∧ ("help".toList ∈ members.map (·.1) ↔ finding.help.isSome))
      ∧ (∃ before after,
          finding.toJson.compact
            = before ++ (',' :: Json.quote "position" ++ ':' :: finding.position.toJson.compact)
              ++ after
          ∧ (finding.toJson.without "position").compact = before ++ after
          ∧ ofText? (before ++ after) = some { finding with position := .origin })
      ∧ ofText? (finding.toJson.without "position").pretty
        = some { finding with position := .origin } := by
  obtain ⟨compact, pretty⟩ := ofText?_recordAt storable finding.position (by simp)
  obtain ⟨shorter, shorterPretty⟩ := ofText?_recordAt storable none (by simp)
  rw [← toJson_eq_recordAt] at compact pretty
  rw [← without_position] at shorter shorterPretty
  refine ⟨compact, pretty, ⟨finding.membersAt finding.position, ?_, ?_⟩, ?_, shorterPretty⟩
  · have fits : finding.toJson.Fits Document.maxDepth :=
      fits_recordAt 125 storable finding.position (by simp)
    exact Value.ofText?_compact fits
  · have listed : "help".toList ∈ fields := by decide
    have apart : ("help".toList != "position".toList) = true := by decide
    simp only [keys_membersAt, List.mem_filter, listed, apart, bne_self_eq_false, Bool.true_or,
      Bool.false_or, Bool.true_and, true_and]
  · obtain ⟨before, after, whole, rest⟩ :=
      Value.exists_compact_split ("code", .string finding.code)
        ("position", finding.position.toJson) finding.leadingMembers finding.helpMembers
    have cut : (finding.toJson.without "position").compact = before ++ after := by
      rw [without_position]
      exact rest
    exact ⟨before, after, whole, cut, cut ▸ shorter⟩

/-- A finding whose span stops in front of its start, at the last position there is, and whose texts
hold quotes, backslashes, control characters and others beyond ASCII. Its help text is empty.
-/
def awkward : Finding :=
  { code := "A\"B\\"
    severity := .error
    category := .renderBudget
    message := "\x00 é\n\u2028😀"
    span := { start := UInt64.size - 1, stop := 2 }
    position := { line := UInt64.size - 1, column := 0 }
    help := some [] }

/-- Witness: that finding is read back as it is, and at the origin when its position is missing. -/
theorem ofText?_toJson_awkward
    : awkward.Storable
      ∧ ofText? awkward.toJson.compact = some awkward
      ∧ ofText? (awkward.toJson.without "position").pretty
        = some { awkward with position := .origin } := by
  have storable : awkward.Storable := by decide
  obtain ⟨compact, -, -, -, withoutPosition⟩ := ofText?_toJson awkward storable
  exact ⟨storable, compact, withoutPosition⟩

end Finding

end PageAudit
