import PageAudit.Proofs.Json.Spelling

/-! A written value is read as that value, in both of its layouts.

The layouts differ only in the space between the parts, so each case of a proof about one of them is
one lemma on what the parts of a document spell. A number of more than 64 bits is read as another
number, the same one in both layouts.
-/

namespace PageAudit.Json

-----------------------------------------------------------------------------------------
-- Documents of values
-----------------------------------------------------------------------------------------

namespace Document

mutual

/-- The document of a value, in which every number and string denotes something. -/
def ofValue : Value → Document
  | .null => .null
  | .bool value => .bool value
  | .number value => .number (some value)
  | .string value => .string (some value)
  | .array items => .array (ofItems items)
  | .object members => .object (ofMembers members)

/-- The documents of the items of an array. -/
def ofItems : List Value → List Document
  | [] => []
  | item :: items => ofValue item :: ofItems items

/-- The keys and documents of the members of an object. -/
def ofMembers : List (Text × Value) → List (Option Text × Document)
  | [] => []
  | (key, member) :: members => (some key, ofValue member) :: ofMembers members

end

end Document

namespace Value

mutual

/-- (Fits depth value) says that the arrays and objects of a value are nested at most `depth` deep
and that all of its numbers are integers of 64 bits.
-/
def Fits : Nat → Value → Prop
  | _, .null => True
  | _, .bool _ => True
  | _, .number value => value.IsWord
  | _, .string _ => True
  | 0, .array _ => False
  | depth + 1, .array items => ItemsFit depth items
  | 0, .object _ => False
  | depth + 1, .object members => MembersFit depth members

/-- All items of an array fit. -/
def ItemsFit : Nat → List Value → Prop
  | _, [] => True
  | depth, item :: items => Fits depth item ∧ ItemsFit depth items

/-- All members of an object fit. -/
def MembersFit : Nat → List (Text × Value) → Prop
  | _, [] => True
  | depth, (_, member) :: members => Fits depth member ∧ MembersFit depth members

end

mutual

/-- (Rereads depth written read) says that the arrays and objects of a value are nested at most
`depth` deep and that it is read back as another one. They differ only in their numbers, each of
which is read as what its numeral spells.
-/
inductive Rereads : Nat → Value → Value → Prop where
  | null (depth : Nat) : Rereads depth .null .null
  | bool (depth : Nat) (value : Bool) : Rereads depth (.bool value) (.bool value)
  | number (depth : Nat) {written read : Number}
    (spells : Reader.Spells written.write (.number (some read)))
    : Rereads depth (.number written) (.number read)
  | string (depth : Nat) (text : Text) : Rereads depth (.string text) (.string text)
  | array {depth : Nat} {written read : List Value} (items : ItemsReread depth written read)
    : Rereads (depth + 1) (.array written) (.array read)
  | object {depth : Nat} {written read : List (Text × Value)}
    (members : MembersReread depth written read)
    : Rereads (depth + 1) (.object written) (.object read)

/-- Each item of an array is read back as an item of another one. -/
inductive ItemsReread : Nat → List Value → List Value → Prop where
  | nil (depth : Nat) : ItemsReread depth [] []
  | cons {depth : Nat} {written read : Value} {others further : List Value}
    (first : Rereads depth written read) (rest : ItemsReread depth others further)
    : ItemsReread depth (written :: others) (read :: further)

/-- Each member of an object is read back as a member of another one with the same key. -/
inductive MembersReread : Nat → List (Text × Value) → List (Text × Value) → Prop where
  | nil (depth : Nat) : MembersReread depth [] []
  | cons {depth : Nat} (key : Text) {written read : Value} {others further : List (Text × Value)}
    (first : Rereads depth written read) (rest : MembersReread depth others further)
    : MembersReread depth ((key, written) :: others) ((key, read) :: further)

end

end Value

mutual

/-- A value whose integers all have 64 bits is read back as it is. -/
theorem Value.Fits.rereads (depth : Nat) (value : Value) (fits : value.Fits depth)
    : value.Rereads depth value := by
  match depth, value, fits with
  | depth, .null, _ => exact .null depth
  | depth, .bool value, _ => exact .bool depth value
  | depth, .number (.integer _), word =>
      exact .number depth (Reader.spells_number (numerates_writeInt word))
  | depth, .string text, _ => exact .string depth text
  | depth + 1, .array items, fit => exact .array (Value.Fits.itemsReread depth items fit)
  | depth + 1, .object members, fit => exact .object (Value.Fits.membersReread depth members fit)
termination_by sizeOf value

theorem Value.Fits.itemsReread (depth : Nat) (items : List Value)
    (fit : Value.ItemsFit depth items)
    : Value.ItemsReread depth items items := by
  match items, fit with
  | [], _ => exact .nil depth
  | item :: items, ⟨first, others⟩ =>
      exact .cons (Value.Fits.rereads depth item first) (Value.Fits.itemsReread depth items others)
termination_by sizeOf items

theorem Value.Fits.membersReread (depth : Nat) (members : List (Text × Value))
    (fit : Value.MembersFit depth members)
    : Value.MembersReread depth members members := by
  match members, fit with
  | [], _ => exact .nil depth
  | (key, member) :: members, ⟨first, others⟩ =>
      exact .cons key (Value.Fits.rereads depth member first)
        (Value.Fits.membersReread depth members others)
termination_by sizeOf members

end

mutual

/-- What is read back is the value of its document. -/
theorem Value.Rereads.valueWithin?_ofValue {depth : Nat} {written read : Value}
    (rereads : written.Rereads depth read)
    : (Document.ofValue read).valueWithin? depth = some read := by
  cases rereads with
  | null => cases depth <;> rfl
  | bool => cases depth <;> rfl
  | number => cases depth <;> rfl
  | string => cases depth <;> rfl
  | array items =>
      rw [Document.ofValue, Document.valueWithin?, items.itemsWithin?_ofItems]
      rfl
  | object members =>
      rw [Document.ofValue, Document.valueWithin?, members.membersWithin?_ofMembers]
      rfl

theorem Value.ItemsReread.itemsWithin?_ofItems {depth : Nat} {written read : List Value}
    (reread : Value.ItemsReread depth written read)
    : Document.itemsWithin? depth (Document.ofItems read) = some read := by
  cases reread with
  | nil => rfl
  | cons first rest =>
      rw [Document.ofItems, Document.itemsWithin?, first.valueWithin?_ofValue,
        rest.itemsWithin?_ofItems]
      rfl

theorem Value.MembersReread.membersWithin?_ofMembers {depth : Nat}
    {written read : List (Text × Value)} (reread : Value.MembersReread depth written read)
    : Document.membersWithin? depth (Document.ofMembers read) = some read := by
  cases reread with
  | nil => rfl
  | cons key first rest =>
      rw [Document.ofMembers, Document.membersWithin?, first.valueWithin?_ofValue,
        rest.membersWithin?_ofMembers]
      rfl

end

-----------------------------------------------------------------------------------------
-- The two layouts
-----------------------------------------------------------------------------------------

open Reader

mutual

theorem Value.Rereads.spells_compact {depth : Nat} {written read : Value}
    (rereads : written.Rereads depth read)
    : Spells written.compact (.ofValue read) := by
  cases rereads with
  | null => exact spells_null
  | bool _ value =>
      cases value with
      | true => exact spells_true
      | false => exact spells_false
  | number _ spells => exact spells
  | string _ text => exact spells_quote text
  | array items =>
      cases items with
      | nil => exact spells_emptyArray
      | cons first rest =>
          exact spells_array blank_nil first.spells_compact rest.spellsItems_compact
  | object members =>
      cases members with
      | nil => exact spells_emptyObject
      | cons key first rest =>
          exact spells_object blank_nil key blank_nil first.spells_compact
            rest.spellsMembers_compact

theorem Value.ItemsReread.spellsItems_compact {depth : Nat} {written read : List Value}
    (reread : Value.ItemsReread depth written read)
    : SpellsItems (Value.compactItems written) (Document.ofItems read) := by
  cases reread with
  | nil => exact spellsItems_nil blank_nil
  | cons first rest =>
      exact spellsItems_cons blank_nil first.spells_compact rest.spellsItems_compact

theorem Value.MembersReread.spellsMembers_compact {depth : Nat}
    {written read : List (Text × Value)} (reread : Value.MembersReread depth written read)
    : SpellsMembers (Value.compactMembers written) (Document.ofMembers read) := by
  cases reread with
  | nil => exact spellsMembers_nil blank_nil
  | cons key first rest =>
      exact spellsMembers_cons blank_nil key blank_nil first.spells_compact
        rest.spellsMembers_compact

end

theorem blank_newLine (level : Nat) : Blank (Value.newLine level) := by
  intro char member
  rcases List.mem_cons.mp member with rfl | member
  · rfl
  · rw [List.eq_of_mem_replicate member]
    rfl

theorem blank_space : Blank [' '] := by
  intro char member
  rw [List.mem_singleton.mp member]
  rfl

mutual

theorem Value.Rereads.spells_prettyAt {depth : Nat} {written read : Value} (level : Nat)
    (rereads : written.Rereads depth read)
    : Spells (written.prettyAt level) (.ofValue read) := by
  cases rereads with
  | null => exact spells_null
  | bool _ value =>
      cases value with
      | true => exact spells_true
      | false => exact spells_false
  | number _ spells => exact spells
  | string _ text => exact spells_quote text
  | array items =>
      cases items with
      | nil => exact spells_emptyArray
      | cons first rest =>
          exact spells_array (blank_newLine (level + 1)) (first.spells_prettyAt (level + 1))
            (rest.spellsItems_prettyAt level)
  | object members =>
      cases members with
      | nil => exact spells_emptyObject
      | cons key first rest =>
          have object := spells_object (blank_newLine (level + 1)) key blank_space
            (first.spells_prettyAt (level + 1)) (rest.spellsMembers_prettyAt level)
          exact object

theorem Value.ItemsReread.spellsItems_prettyAt {depth : Nat} {written read : List Value}
    (level : Nat) (reread : Value.ItemsReread depth written read)
    : SpellsItems (Value.prettyItemsAt level written) (Document.ofItems read) := by
  cases reread with
  | nil => exact spellsItems_nil (blank_newLine level)
  | cons first rest =>
      exact spellsItems_cons (blank_newLine (level + 1)) (first.spells_prettyAt (level + 1))
        (rest.spellsItems_prettyAt level)

theorem Value.MembersReread.spellsMembers_prettyAt {depth : Nat}
    {written read : List (Text × Value)} (level : Nat)
    (reread : Value.MembersReread depth written read)
    : SpellsMembers (Value.prettyMembersAt level written) (Document.ofMembers read) := by
  cases reread with
  | nil => exact spellsMembers_nil (blank_newLine level)
  | cons key first rest =>
      have further := spellsMembers_cons (blank_newLine (level + 1)) key blank_space
        (first.spells_prettyAt (level + 1)) (rest.spellsMembers_prettyAt level)
      exact further

end

section

variable {written read : Value}

/-- A value that is not nested too deep is read back from its written form on one line. -/
theorem Value.Rereads.ofText?_compact (rereads : written.Rereads Document.maxDepth read)
    : Value.ofText? written.compact = some read := by
  rw [Value.ofText?, rereads.spells_compact.ofText?]
  exact rereads.valueWithin?_ofValue

/-- A value that is not nested too deep is read back from its written form on indented lines. -/
theorem Value.Rereads.ofText?_pretty (rereads : written.Rereads Document.maxDepth read)
    : Value.ofText? written.pretty = some read := by
  rw [Value.ofText?, Value.pretty, (rereads.spells_prettyAt 0).ofText?]
  exact rereads.valueWithin?_ofValue

end

variable {depth : Nat} {value : Value}

theorem Document.ofText?_compact (fits : value.Fits depth)
    : Document.ofText? value.compact = some (.ofValue value) :=
  (Value.Fits.rereads depth value fits).spells_compact.ofText?

theorem Document.ofText?_pretty (fits : value.Fits depth)
    : Document.ofText? value.pretty = some (.ofValue value) :=
  ((Value.Fits.rereads depth value fits).spells_prettyAt 0).ofText?

/-- A value of 64-bit integers is read back from its written form on one line. -/
theorem Value.ofText?_compact (fits : value.Fits Document.maxDepth)
    : Value.ofText? value.compact = some value :=
  (Value.Fits.rereads Document.maxDepth value fits).ofText?_compact

/-- A value of 64-bit integers is read back from its written form on indented lines. -/
theorem Value.ofText?_pretty (fits : value.Fits Document.maxDepth)
    : Value.ofText? value.pretty = some value :=
  (Value.Fits.rereads Document.maxDepth value fits).ofText?_pretty

end PageAudit.Json
