import PageAudit.Policy.Overlay
import PageAudit.Proofs.Json.Member

/-! The value at a key of a section of a configuration, and the types that it can have. -/

namespace PageAudit.Json.Value

-----------------------------------------------------------------------------------------
-- Keys and sections
-----------------------------------------------------------------------------------------

/-- (object.Holds key value) says that a value is an object with a member at the key. Of several
such members the last one counts.
-/
def Holds (object : Value) (key : Text) (value : Value) : Prop :=
  ∃ front behind,
    object = .object (front ++ (key, value) :: behind) ∧ ∀ member ∈ behind, member.1 ≠ key

/-- (configuration.Sets section_ key value) says that a configuration holds a section and the
section holds a value at the key.
-/
def Sets (configuration : Value) (section_ key : Text) (value : Value) : Prop :=
  ∃ part, configuration.Holds section_ part ∧ part.Holds key value

theorem member?_eq_some_iff {object value : Value} {key : Text}
    : object.member? key = some value ↔ object.Holds key value := by
  constructor
  · intro found
    cases object with
    | object members =>
        obtain ⟨⟨key', value'⟩, last, rfl⟩ := Option.map_eq_some_iff.mp found
        obtain ⟨same, behind, front, split, others⟩ := List.find?_eq_some_iff_append.mp last
        obtain rfl := beq_iff_eq.mp same
        have order : members = front.reverse ++ (key', value') :: behind.reverse := by
          rw [← List.reverse_reverse members, split]
          simp
        refine ⟨front.reverse, behind.reverse, by rw [order], fun member among => ?_⟩
        simpa using others member (List.mem_reverse.mp among)
    | _ => cases found
  · rintro ⟨front, behind, rfl, others⟩
    have last : (front ++ (key, value) :: behind).reverse.find? (fun member => member.1 == key)
        = some (key, value) := by
      refine List.find?_eq_some_iff_append.mpr
        ⟨beq_self_eq_true key, behind.reverse, front.reverse, by simp, fun member among => ?_⟩
      simpa using others member (List.mem_reverse.mp among)
    rw [member?, last]
    rfl

theorem setting?_eq_some_iff {configuration value : Value} {section_ key : Text}
    : configuration.setting? section_ key = some value
      ↔ configuration.Sets section_ key value := by
  rw [setting?, Option.bind_eq_some_iff]
  exact exists_congr fun _ => and_congr member?_eq_some_iff member?_eq_some_iff

/-- Two configurations set the same values at every place but one key of one section. -/
def OnlyDiffersAt (section_ key : Text) (first second : Value) : Prop :=
  ∀ otherSection otherKey,
    (otherSection, otherKey) ≠ (section_, key)
    → ∀ value, first.Sets otherSection otherKey value ↔ second.Sets otherSection otherKey value

theorem OnlyDiffersAt.setting?_eq {first second : Value} {section_ key : Text}
    (differs : first.OnlyDiffersAt section_ key second) {place : Text × Text}
    (elsewhere : place ≠ (section_, key))
    : first.setting? place.1 place.2 = second.setting? place.1 place.2 := by
  refine Option.ext fun value => ?_
  exact setting?_eq_some_iff.trans
    ((differs place.1 place.2 elsewhere value).trans setting?_eq_some_iff.symm)

/-- The members behind one with a key come first, and those in front of it last. -/
theorem member?_append {front behind : List (Text × Value)} {key other : Text} {value : Value}
    : (object (front ++ (key, value) :: behind)).member? other
      = ((object behind).member? other).or
          (if key = other then some value else (object front).member? other) := by
  unfold member?
  dsimp only
  rw [List.reverse_append, List.reverse_cons, List.append_assoc, List.find?_append, Option.map_or,
    List.singleton_append]
  congr 1
  by_cases same : key = other
  · rw [if_pos same, List.find?_cons_of_pos (by simp [same])]
    rfl
  · rw [if_neg same, List.find?_cons_of_neg (by simp [same])]

/-- Two configurations with one value in the place of another differ at its key alone. -/
theorem onlyDiffersAt_of_members (front behind innerFront innerBehind : List (Text × Value))
    {section_ key : Text} {first second : Value}
    : let configuration := fun value =>
        object (front ++ (section_, object (innerFront ++ (key, value) :: innerBehind)) :: behind)
      (configuration first).OnlyDiffersAt section_ key (configuration second) := by
  intro configuration otherSection otherKey elsewhere value
  rw [← setting?_eq_some_iff, ← setting?_eq_some_iff]
  unfold configuration setting?
  rw [member?_append, member?_append]
  by_cases inside : section_ = otherSection
  · have different : key ≠ otherKey := by
      rintro rfl
      exact elsewhere (by rw [inside])
    rw [if_pos inside, if_pos inside]
    cases (object behind).member? otherSection with
    | some part => rfl
    | none =>
        rw [Option.none_or, Option.none_or, Option.bind_some, Option.bind_some, member?_append,
          member?_append, if_neg different, if_neg different]
  · rw [if_neg inside, if_neg inside]

-----------------------------------------------------------------------------------------
-- Numbers of 64 bits
-----------------------------------------------------------------------------------------

/-- All integers within a value have 64 bits. An integer beyond them is a decimal. -/
inductive WordSized : Value → Prop where
  | null : WordSized .null
  | bool (value : Bool) : WordSized (.bool value)
  | integer {value : Int} (word : (Number.integer value).IsWord)
    : WordSized (.number (.integer value))
  | decimal (significand exponent : Int) : WordSized (.number (.decimal significand exponent))
  | string (value : Text) : WordSized (.string value)
  | array {items : List Value} (each : ∀ item ∈ items, WordSized item) : WordSized (.array items)
  | object {members : List (Text × Value)} (each : ∀ member ∈ members, WordSized member.2)
    : WordSized (.object members)

theorem WordSized.of_holds {object value : Value} {key : Text} (words : object.WordSized)
    (holds : object.Holds key value)
    : value.WordSized := by
  obtain ⟨front, behind, rfl, -⟩ := holds
  cases words with
  | object each => exact each (key, value) (by simp)

theorem WordSized.of_sets {configuration value : Value} {section_ key : Text}
    (words : configuration.WordSized) (sets : configuration.Sets section_ key value)
    : value.WordSized := by
  obtain ⟨part, holds, inner⟩ := sets
  exact (words.of_holds holds).of_holds inner

theorem WordSized.count_lt {number : Nat} (words : (count number).WordSized)
    : number < UInt64.size := by
  cases words with
  | integer word => exact Int.ofNat_lt.mp word.2

-----------------------------------------------------------------------------------------
-- Types
-----------------------------------------------------------------------------------------

theorem count?_eq_some_iff {value : Value} {number : Nat}
    : value.count? = some number ↔ value = .count number := by
  constructor
  · intro read
    unfold count? at read
    split at read
    · obtain rfl := Option.some.inj read
      rfl
    · cases read
  · rintro rfl
    rfl

theorem bool?_eq_some_iff {value : Value} {flag : Bool}
    : value.bool? = some flag ↔ value = .bool flag := by
  cases value <;> simp [bool?]

theorem string?_eq_some_iff {value : Value} {text : Text}
    : value.string? = some text ↔ value = .string text := by
  cases value <;> simp [string?]

/-- A list of strings is an array of nothing else, by induction over its items. -/
theorem mapM_string?_eq_some_iff {items : List Value} {texts : List Text}
    : items.mapM string? = some texts ↔ items = texts.map .string := by
  induction items generalizing texts with
  | nil => cases texts <;> simp
  | cons item items ih =>
      rw [List.mapM_cons]
      cases texts <;> simp [Option.bind_eq_some_iff, string?_eq_some_iff, ih]

theorem strings?_eq_some_iff {value : Value} {texts : List Text}
    : value.strings? = some texts ↔ value = .array (texts.map .string) := by
  cases value <;> simp [strings?, array?, mapM_string?_eq_some_iff]

end PageAudit.Json.Value
