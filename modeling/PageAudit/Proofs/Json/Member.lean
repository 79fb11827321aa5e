import Mathlib.Data.List.Nodup
import PageAudit.Json.Record
import PageAudit.Proofs.Json.Layout

/-! The members of an object with distinct keys, read by their keys. -/

namespace PageAudit.Json

/-- Of members with distinct keys one alone has its key, by induction over the members. -/
theorem filter_key_eq_singleton {α : Type} {members : List (Text × α)} {key : Text} {value : α}
    (distinct : (members.map (·.1)).Nodup) (mem : (key, value) ∈ members)
    : members.filter (fun member => member.1 == key) = [(key, value)] := by
  induction members with
  | nil => exact absurd mem List.not_mem_nil
  | cons first others ih =>
      rw [List.map_cons, List.nodup_cons] at distinct
      obtain ⟨fresh, distinct⟩ := distinct
      cases mem with
      | head =>
          have none : others.filter (fun member => member.1 == key) = [] := by
            refine List.filter_eq_nil_iff.mpr fun other among same => fresh ?_
            exact List.mem_map.mpr ⟨other, among, beq_iff_eq.mp same⟩
          simp [none]
      | tail _ mem =>
          have differs : first.1 ≠ key := by
            rintro rfl
            exact fresh (List.mem_map.mpr ⟨_, mem, rfl⟩)
          simpa [differs] using ih distinct mem

namespace Value

variable {members : List (Text × Value)} {key : Text} {value : Value}

/-- In an object with distinct keys a member is found at its key. -/
theorem member?_of_mem (distinct : (members.map (·.1)).Nodup) (mem : (key, value) ∈ members)
    : (Value.object members).member? key = some value := by
  have alone := filter_key_eq_singleton distinct mem
  rw [member?, ← List.head?_filter, List.filter_reverse, alone]
  rfl

theorem strings?_texts (texts : List Text)
    : (Value.array (texts.map .string)).strings? = some texts := by
  have read : (texts.map Value.string).mapM string? = some texts := by
    induction texts with
    | nil => rfl
    | cons text texts ih => simp [string?, ih]
  exact read

theorem itemsFit_of_forall {depth : Nat} {items : List Value}
    (each : ∀ item ∈ items, item.Fits depth)
    : ItemsFit depth items := by
  induction items with
  | nil => trivial
  | cons item items ih =>
      rw [List.forall_mem_cons] at each
      exact ⟨each.1, ih each.2⟩

theorem itemsFit_texts (depth : Nat) (texts : List Text)
    : ItemsFit depth (texts.map .string) := by
  refine itemsFit_of_forall fun item member => ?_
  obtain ⟨text, -, rfl⟩ := List.mem_map.mp member
  cases depth <;> trivial

/-- A count fits when it is a number of 64 bits. -/
theorem fits_count {depth count : Nat} (word : count < UInt64.size)
    : (Value.count count).Fits depth := by
  have bounds : (Number.integer count).IsWord := by
    have high : (count : Int) < UInt64.size := Int.ofNat_lt.mpr word
    exact ⟨by omega, high⟩
  cases depth <;> exact bounds

end Value

namespace Document

theorem ofMembers_eq_map (members : List (Text × Value))
    : ofMembers members = members.map fun member => (some member.1, ofValue member.2) := by
  induction members with
  | nil => rfl
  | cons member members ih => rw [ofMembers, ih, List.map_cons]

theorem ofItems_eq_map (items : List Value) : ofItems items = items.map ofValue := by
  induction items with
  | nil => rfl
  | cons item items ih => rw [ofItems, ih, List.map_cons]

theorem count?_count (count : Nat) : (ofValue (.count count)).count? = some count :=
  rfl

theorem bool?_bool (value : Bool) : (ofValue (.bool value)).bool? = some value :=
  rfl

theorem texts?_texts (texts : List Text)
    : (ofValue (.array (texts.map .string))).texts? = some texts := by
  have read : (texts.map (fun text => ofValue (.string text))).mapM text? = some texts := by
    induction texts with
    | nil => rfl
    | cons text texts ih =>
        have first : (ofValue (.string text)).text? = some text := rfl
        simp [first, ih]
  rw [ofValue, ofItems_eq_map, List.map_map]
  exact read

variable {members : List (Text × Value)} {key : Text} {value : Value}

theorem valuesOf_ofMembers (members : List (Text × Value)) (key : Text)
    : valuesOf (ofMembers members) key
      = (members.filter (fun member => member.1 == key)).map (fun member => ofValue member.2) := by
  have same : (fun (member : Option Text × Document) => member.1 == some key)
      ∘ (fun (member : Text × Value) => (some member.1, ofValue member.2))
      = fun member => member.1 == key := by
    funext member
    simp
  rw [valuesOf, ofMembers_eq_map, List.filter_map, List.map_map, same]
  rfl

theorem fieldOf?_of_mem (distinct : (members.map (·.1)).Nodup) (mem : (key, value) ∈ members)
    : fieldOf? (ofMembers members) key = some (some (ofValue value)) := by
  have alone := filter_key_eq_singleton distinct mem
  have values : valuesOf (ofMembers members) key = [ofValue value] := by
    rw [valuesOf_ofMembers, alone]
    rfl
  rw [fieldOf?, values]

/-- What is read of a field is the member at its key, or nothing where no member has the key. -/
theorem fieldOf?_ofMembers (distinct : (members.map (·.1)).Nodup) (key : Text)
    : fieldOf? (ofMembers members) key
      = some (((Value.object members).member? key).map ofValue) := by
  by_cases there : key ∈ members.map (·.1)
  · obtain ⟨⟨key, value⟩, mem, rfl⟩ := List.mem_map.mp there
    rw [fieldOf?_of_mem distinct mem, Value.member?_of_mem distinct mem]
    rfl
  · have none : members.filter (fun member => member.1 == key) = [] := by
      refine List.filter_eq_nil_iff.mpr fun member among same => there ?_
      exact List.mem_map.mpr ⟨member, among, beq_iff_eq.mp same⟩
    have values : valuesOf (ofMembers members) key = [] := by
      rw [valuesOf_ofMembers, none]
      rfl
    have missing : (Value.object members).member? key = Option.none := by
      rw [Value.member?, ← List.head?_filter, List.filter_reverse, none]
      rfl
    rw [fieldOf?, values, missing]
    rfl

/-- The fields of a record with distinct keys are its members, as far as they are there. -/
theorem record?_object (distinct : (members.map (·.1)).Nodup) (fields : List Text)
    : (ofValue (.object members)).record? fields
      = some (fields.map fun field => ((Value.object members).member? field).map ofValue) := by
  have named : (ofMembers members).any (·.1.isNone) = false := by
    rw [ofMembers_eq_map, List.any_map, List.any_eq_false]
    intro member _
    simp
  have each : fields.mapM (fieldOf? (ofMembers members))
      = some (fields.map fun field => ((Value.object members).member? field).map ofValue) := by
    induction fields with
    | nil => rfl
    | cons field fields ih => simp [fieldOf?_ofMembers distinct, ih]
  rw [ofValue, record?, named]
  exact each

/-- The fields of a record with distinct keys are the values at those keys. -/
theorem record?_ofValue (distinct : (members.map (·.1)).Nodup)
    : (ofValue (.object members)).record? (members.map (·.1))
      = some (members.map fun member => some (ofValue member.2)) := by
  rw [record?_object distinct, List.map_map]
  refine congrArg some (List.map_congr_left fun member among => ?_)
  rw [Function.comp_apply, Value.member?_of_mem distinct among, Option.map_some]

end Document

-----------------------------------------------------------------------------------------
-- Members that are left out
-----------------------------------------------------------------------------------------

namespace Value

/-- (value.without key) is an object without its members of a key. -/
def without (key : Text) : Value → Value
  | .object members => .object (members.filter (fun member => member.1 != key))
  | value => value

/-- A further member of an object as it is written, with the comma in front of it. -/
def compactMember (member : Text × Value) : Text :=
  ',' :: quote member.1 ++ ':' :: member.2.compact

theorem compactMembers_append (front back : List (Text × Value))
    : compactMembers (front ++ back) = front.flatMap compactMember ++ compactMembers back := by
  induction front with
  | nil => rfl
  | cons member front ih =>
      rw [List.cons_append, compactMembers, ih, List.flatMap_cons, compactMember,
        ← List.append_assoc]

/-- Taking a member that is not the first one out of an object takes what is written of it out of
the text, and nothing else.
-/
theorem exists_compact_split (first member : Text × Value) (front back : List (Text × Value))
    : ∃ before after,
        (Value.object (first :: (front ++ member :: back))).compact
          = before ++ compactMember member ++ after
        ∧ (Value.object (first :: (front ++ back))).compact = before ++ after := by
  refine ⟨'{' :: quote first.1 ++ ':' :: first.2.compact ++ front.flatMap compactMember,
    compactMembers back, ?_, ?_⟩
  · rw [compact, compactMembers_append, compactMembers, ← compactMember]
    simp only [List.append_assoc]
  · rw [compact, compactMembers_append]
    simp only [List.append_assoc]

end Value

end PageAudit.Json
