import PageAudit.Proofs.Json.Numeral
import PageAudit.Proofs.Json.Quoted

/-! What the parts of a document spell, with space between them.

A numeral has no end of its own: the character behind it shows that it is complete. What a text
spells is therefore stated between a state that awaits a value and one that stands behind it.
-/

namespace PageAudit.Json

namespace Reader

/-- A text of nothing but space. -/
def Blank (text : Text) : Prop :=
  ∀ char ∈ text, isSpace char = true

theorem blank_nil : Blank [] :=
  fun _ member => nomatch member

/-- The reader stands between words, numerals and strings. -/
def State.IsBetween (state : State) : Prop :=
  ∀ char, step? state char = stepBetween? state char

/-- Space between the parts of a document changes nothing. -/
theorem State.IsBetween.reaches {state : State} (between : state.IsBetween) {blank : Text}
    (spaces : Blank blank)
    : state.Reaches blank state := by
  induction blank with
  | nil => exact .nil state
  | cons char blank ih =>
      have space : isSpace char = true := spaces char List.mem_cons_self
      have step : step? state char = some state := by rw [between char, stepBetween?, if_pos space]
      exact .cons step (ih fun char member => spaces char (.tail _ member))

/-- (Awaits frames state) says that the next value is a part of the innermost of the frames. -/
inductive Awaits : List Frame → State → Prop where
  | value (frames : List Frame) : Awaits frames { mode := .value, frames }
  | firstItem (frames : List Frame) : Awaits (.items [] :: frames) { mode := .firstItem, frames }

/-- (Behind document frames state) says that a document has been read in the innermost of the
frames. It may be a numeral that could go on.
-/
inductive Behind : Document → List Frame → State → Prop where
  | ended (document : Document) (frames : List Frame)
    : Behind document frames (complete document frames)
  | digits {numeral : Numeral} (frames : List Frame) (whole : numeral.IsWhole)
    : Behind (.number numeral.number?) frames { mode := .numeral numeral, frames }

variable {frames : List Frame} {state next : State} {document : Document} {char : Char}

theorem Awaits.isBetween (awaits : Awaits frames state) : state.IsBetween := by
  cases awaits with
  | value => exact fun _ => rfl
  | firstItem => exact fun _ => rfl

theorem Awaits.step? (awaits : Awaits frames state) (noSpace : isSpace char = false)
    (noEnd : char ≠ ']')
    : step? state char = beginValue? frames char := by
  rw [awaits.isBetween char, stepBetween?, if_neg (Bool.eq_false_iff.mp noSpace)]
  cases awaits with
  | value => rfl
  | firstItem => exact if_neg noEnd

theorem isBetween_complete (document : Document) (frames : List Frame)
    : (complete document frames).IsBetween := by
  cases frames with
  | nil => exact fun _ => rfl
  | cons frame frames => cases frame <;> exact fun _ => rfl

/-- A character that continues no numeral is read as if the document were complete. -/
theorem Behind.step? (behind : Behind document frames state) (noDigit : char.isDigit = false)
    (noMark : char ∉ ['.', 'e', 'E'])
    : step? state char = stepBetween? (complete document frames) char := by
  cases behind with
  | ended => exact isBetween_complete document frames char
  | digits frames whole =>
      have ends := whole.push?_eq_none noDigit noMark
      simp only [Reader.step?, ends, whole.isComplete, if_true]

/-- Space shows that the document is complete. -/
theorem Behind.reaches_blank (behind : Behind document frames state) {blank : Text}
    (spaces : Blank blank)
    : ∃ next, state.Reaches blank next ∧ Behind document frames next := by
  cases blank with
  | nil => exact ⟨state, .nil state, behind⟩
  | cons char blank =>
      have space : isSpace char = true := spaces char List.mem_cons_self
      have noDigit : char.isDigit = false ∧ char ∉ ['.', 'e', 'E'] := by
        simp only [isSpace, Bool.or_eq_true, beq_iff_eq] at space
        rcases space with ((rfl | rfl) | rfl) | rfl <;> decide
      have step : Reader.step? state char = some (complete document frames) := by
        rw [behind.step? noDigit.1 noDigit.2, stepBetween?, if_pos space]
      have others := (isBetween_complete document frames).reaches
        fun char member => spaces char (.tail _ member)
      exact ⟨_, .cons step others, .ended document frames⟩

/-- What follows a document, behind space. -/
theorem Behind.reaches (behind : Behind document frames state) {blank : Text}
    (spaces : Blank blank) (noDigit : char.isDigit = false) (noMark : char ∉ ['.', 'e', 'E'])
    (step : stepBetween? (complete document frames) char = some next)
    : state.Reaches (blank ++ [char]) next := by
  obtain ⟨middle, first, still⟩ := behind.reaches_blank spaces
  exact first.append (.single ((still.step? noDigit noMark).trans step))

/-- Behind all of a document that is part of no other one, nothing is missing. -/
theorem Behind.finish? (behind : Behind document [] state) : finish? state = some document := by
  cases behind with
  | ended => rfl
  | digits _ whole => simp [Reader.finish?, whole.isComplete]

-----------------------------------------------------------------------------------------
-- What a text spells
-----------------------------------------------------------------------------------------

/-- (Spells text document) says that a text is read as a document wherever a value may stand. -/
def Spells (text : Text) (document : Document) : Prop :=
  ∀ ⦃frames state⦄,
    Awaits frames state → ∃ next, state.Reaches text next ∧ Behind document frames next

/-- (SpellsItems text items) says that a text behind an item of an array is read as further items
and as the end of the array.
-/
def SpellsItems (text : Text) (items : List Document) : Prop :=
  ∀ ⦃frames state seen item⦄,
    Behind item (.items seen :: frames) state
    → state.Reaches text (complete (.array (seen.reverse ++ item :: items)) frames)

/-- (SpellsMembers text members) says that a text behind a member of an object is read as further
members and as the end of the object.
-/
def SpellsMembers (text : Text) (members : List (Option Text × Document)) : Prop :=
  ∀ ⦃frames state seen key member⦄,
    Behind member (.members seen key :: frames) state
    → state.Reaches text (complete (.object (seen.reverse ++ (key, member) :: members)) frames)

/-- A text that spells a document has that document. -/
theorem Spells.ofText? {text : Text} (spells : Spells text document)
    : Document.ofText? text = some document := by
  obtain ⟨next, reaches, behind⟩ := spells (.value [])
  unfold State.Reaches at reaches
  rw [Document.ofText?, start, reaches]
  exact behind.finish?

/-- Space in front of a value is no part of it. -/
theorem Spells.reaches {text : Text} (spells : Spells text document) {blank : Text}
    (spaces : Blank blank) (awaits : Awaits frames state)
    : ∃ next, state.Reaches (blank ++ text) next ∧ Behind document frames next := by
  obtain ⟨next, reaches, behind⟩ := spells awaits
  exact ⟨next, (awaits.isBetween.reaches spaces).append reaches, behind⟩

theorem spells_null : Spells "null" .null := by
  intro frames state awaits
  have first : step? state 'n' = some { mode := .word "ull" .null, frames } :=
    awaits.step? rfl (by decide)
  exact ⟨_, .cons first rfl, .ended _ _⟩

theorem spells_true : Spells "true" (.bool true) := by
  intro frames state awaits
  have first : step? state 't' = some { mode := .word "rue" (.bool true), frames } :=
    awaits.step? rfl (by decide)
  exact ⟨_, .cons first rfl, .ended _ _⟩

theorem spells_false : Spells "false" (.bool false) := by
  intro frames state awaits
  have first : step? state 'f' = some { mode := .word "alse" (.bool false), frames } :=
    awaits.step? rfl (by decide)
  exact ⟨_, .cons first rfl, .ended _ _⟩

theorem spells_quote (text : Text) : Spells (quote text) (.string (some text)) := by
  intro frames state awaits
  have first : step? state '"' = some (inString .value [] frames) := awaits.step? rfl (by decide)
  have rest := reaches_quoted text [] .value frames
  refine ⟨complete (.string (some text)) frames, .cons first ?_, .ended _ _⟩
  simpa [completeString, Reading.text?] using rest

theorem beginValue?_of_begin? {numeral : Numeral} (begins : Numeral.begin? char = some numeral)
    : beginValue? frames char = some { mode := .numeral numeral, frames } := by
  have differs {other : Char} (none : Numeral.begin? other = none) : char ≠ other := by
    rintro rfl
    exact Option.some_ne_none numeral (begins.symm.trans none)
  have noQuote : char ≠ '"' := differs rfl
  have noArray : char ≠ '[' := differs rfl
  have noObject : char ≠ '{' := differs rfl
  have noNull : char ≠ 'n' := differs rfl
  have noTrue : char ≠ 't' := differs rfl
  have noFalse : char ≠ 'f' := differs rfl
  simp [beginValue?, noQuote, noArray, noObject, noNull, noTrue, noFalse, begins]

/-- A character that begins a numeral is no space and ends no array. -/
theorem Awaits.step?_of_begin? (awaits : Awaits frames state) {numeral : Numeral}
    (begins : Numeral.begin? char = some numeral)
    : Reader.step? state char = some { mode := .numeral numeral, frames } := by
  have noSpace : isSpace char = false := by
    cases space : isSpace char with
    | false => rfl
    | true =>
        simp only [isSpace, Bool.or_eq_true, beq_iff_eq] at space
        rcases space with ((rfl | rfl) | rfl) | rfl <;> simp [Numeral.begin?] at begins
  have noEnd : char ≠ ']' := by
    rintro rfl
    simp [Numeral.begin?] at begins
  exact (awaits.step? noSpace noEnd).trans (beginValue?_of_begin? begins)

/-- Each character that continues a numeral is read into it. -/
theorem reaches_numeral {rest : Text} {begun numeral : Numeral}
    (continues : rest.foldlM Numeral.push? begun = some numeral) (frames : List Frame)
    : State.Reaches { mode := .numeral begun, frames } rest
        { mode := .numeral numeral, frames } := by
  induction rest generalizing begun with
  | nil =>
      obtain rfl : begun = numeral := Option.some.inj continues
      exact .nil _
  | cons char rest ih =>
      rw [List.foldlM_cons] at continues
      obtain ⟨next, pushed, others⟩ := Option.bind_eq_some_iff.mp continues
      refine .cons ?_ (ih others)
      simp only [step?, pushed]

/-- A numeral of whole digits spells the number that it denotes. -/
theorem spells_numeral {rest : Text} {begun numeral : Numeral}
    (begins : Numeral.begin? char = some begun)
    (continues : rest.foldlM Numeral.push? begun = some numeral) (whole : numeral.IsWhole)
    : Spells (char :: rest) (.number numeral.number?) := by
  intro frames state awaits
  have reaches := State.Reaches.cons (awaits.step?_of_begin? begins)
    (reaches_numeral continues frames)
  exact ⟨_, reaches, .digits frames whole⟩

theorem spells_number {text : Text} {value : Int} (numerates : Numerates text value)
    : Spells text (.number (some (.integer value))) := by
  obtain ⟨first, rest, begun, numeral, rfl, begins, continues, whole, denotes⟩ := numerates
  rw [← denotes]
  exact spells_numeral begins continues whole

/-- A number of more than 64 bits is read as some number as well. -/
theorem exists_spells_ofNat {value : Nat} (small : value < 2 ^ 200)
    : ∃ number, Spells (Text.ofNat value) (.number (some number)) := by
  rcases Nat.eq_zero_or_pos value with rfl | positive
  · exact ⟨_, spells_number (numerates_ofNat (by decide))⟩
  · obtain ⟨first, rest, digits, digit, nonzero, read⟩ := exists_digits positive
    obtain ⟨number, denotes⟩ := Numeral.exists_number?_of_digits small
    have spells := spells_numeral (Numeral.begin?_of_isDigit digit nonzero) (read false) (.inr rfl)
    rw [← digits, denotes] at spells
    exact ⟨number, spells⟩

-----------------------------------------------------------------------------------------
-- Arrays and objects
-----------------------------------------------------------------------------------------

variable {text more blank space key : Text} {items : List Document}
  {members : List (Option Text × Document)}

theorem spells_emptyArray : Spells "[]" (.array []) := by
  intro frames state awaits
  have first : step? state '[' = some { mode := .firstItem, frames } :=
    awaits.step? rfl (by decide)
  exact ⟨_, .cons first (.single rfl), .ended _ _⟩

theorem spells_array (spaces : Blank blank) (first : Spells text document)
    (others : SpellsItems more items)
    : Spells ('[' :: blank ++ text ++ more) (.array (document :: items)) := by
  intro frames state awaits
  have begins : step? state '[' = some { mode := .firstItem, frames } :=
    awaits.step? rfl (by decide)
  obtain ⟨next, reaches, behind⟩ := first.reaches spaces (.firstItem frames)
  exact ⟨_, .append (.cons begins reaches) (others behind), .ended _ _⟩

theorem spellsItems_nil (spaces : Blank blank) : SpellsItems (blank ++ [']']) [] := by
  intro frames state seen item behind
  refine behind.reaches spaces rfl (by decide) ?_
  simp [complete, stepBetween?, isSpace]

theorem spellsItems_cons (spaces : Blank blank) (first : Spells text document)
    (others : SpellsItems more items)
    : SpellsItems (',' :: blank ++ text ++ more) (document :: items) := by
  intro frames state seen item behind
  let within : List Frame := .items (item :: seen) :: frames
  have separator : step? state ',' = some { mode := .value, frames := within } :=
    behind.step? rfl (by decide)
  obtain ⟨next, reaches, further⟩ := first.reaches spaces (.value within)
  have rest := others further
  rw [List.reverse_cons, List.append_assoc] at rest
  exact .append (.cons separator reaches) rest

theorem spells_emptyObject : Spells "\x7b\x7d" (.object []) := by
  intro frames state awaits
  have first : step? state '{' = some { mode := .firstKey, frames } :=
    awaits.step? rfl (by decide)
  exact ⟨_, .cons first (.single rfl), .ended _ _⟩

/-- (AwaitsKey seen frames state) says that the next member of an object is read behind the members
`seen`.
-/
inductive AwaitsKey : List (Option Text × Document) → List Frame → State → Prop where
  | firstKey (frames : List Frame) : AwaitsKey [] frames { mode := .firstKey, frames }
  | key (seen : List (Option Text × Document)) (frames : List Frame)
    : AwaitsKey seen frames { mode := .key seen, frames }

variable {seen : List (Option Text × Document)}

theorem AwaitsKey.isBetween (awaits : AwaitsKey seen frames state) : state.IsBetween := by
  cases awaits with
  | firstKey => exact fun _ => rfl
  | key => exact fun _ => rfl

theorem AwaitsKey.step?_quote (awaits : AwaitsKey seen frames state)
    : Reader.step? state '"' = some (inString (.key seen) [] frames) := by
  cases awaits with
  | firstKey => rfl
  | key => rfl

/-- A member is read as its key and then, behind the colon, as its value. -/
theorem AwaitsKey.reaches (awaits : AwaitsKey seen frames state) (blanks : Blank blank)
    (key : Text) (spaces : Blank space) (value : Spells text document)
    : ∃ next,
        state.Reaches (blank ++ quote key ++ ':' :: (space ++ text)) next
        ∧ Behind document (.members seen (some key) :: frames) next := by
  let inColon : State := { mode := .colon seen (some key), frames }
  have named
      : (inString (.key seen) [] frames).Reaches (key.flatMap escapeChar ++ ['"']) inColon := by
    have read := reaches_quoted key [] (.key seen) frames
    simpa [completeString, Reading.text?] using read
  let within : List Frame := .members seen (some key) :: frames
  have colon : Reader.step? inColon ':' = some { mode := .value, frames := within } := rfl
  obtain ⟨next, reaches, behind⟩ := value.reaches spaces (.value within)
  have quoted := (awaits.isBetween.reaches blanks).append (.cons awaits.step?_quote named)
  exact ⟨next, quoted.append (.cons colon reaches), behind⟩

theorem spells_object (blanks : Blank blank) (key : Text) (spaces : Blank space)
    (first : Spells text document) (others : SpellsMembers more members)
    : Spells ('{' :: blank ++ quote key ++ ':' :: (space ++ text) ++ more)
        (.object ((some key, document) :: members)) := by
  intro frames state awaits
  have begins : step? state '{' = some { mode := .firstKey, frames } :=
    awaits.step? rfl (by decide)
  obtain ⟨next, reaches, behind⟩ :=
    (AwaitsKey.firstKey frames).reaches blanks key spaces first
  exact ⟨_, .append (.cons begins reaches) (others behind), .ended _ _⟩

theorem spellsMembers_nil (blanks : Blank blank) : SpellsMembers (blank ++ ['}']) [] := by
  intro frames state seen key member behind
  refine behind.reaches blanks rfl (by decide) ?_
  simp [complete, stepBetween?, isSpace]

theorem spellsMembers_cons (blanks : Blank blank) (key : Text) (spaces : Blank space)
    (first : Spells text document) (others : SpellsMembers more members)
    : SpellsMembers (',' :: blank ++ quote key ++ ':' :: (space ++ text) ++ more)
        ((some key, document) :: members) := by
  intro frames state seen lastKey last behind
  have separator : step? state ','
      = some { mode := .key ((lastKey, last) :: seen), frames } :=
    behind.step? rfl (by decide)
  obtain ⟨next, reaches, further⟩ :=
    (AwaitsKey.key ((lastKey, last) :: seen) frames).reaches blanks key spaces first
  have rest := others further
  rw [List.reverse_cons, List.append_assoc] at rest
  exact .append (.cons separator reaches) rest

end Reader

end PageAudit.Json
