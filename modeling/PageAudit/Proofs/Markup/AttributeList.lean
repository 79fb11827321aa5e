import PageAudit.Proofs.Markup.Lexeme
import PageAudit.Proofs.Text.Hits

/-! Attributes as they are spelled in a tag, and what is read from them: each attribute with its
name and its value, in order.
-/

namespace PageAudit.Attribute

/-- A name of an attribute begins with a letter, `_`, `:` or `@`, and digits, `.` and `-` may
follow.
-/
def IsName (name : Text) : Prop :=
  name.head?.any isNameStart ∧ name.all isNamePart

instance (name : Text) : Decidable (IsName name) :=
  inferInstanceAs (Decidable (_ ∧ _))

/-- An attribute is spelled without a value, or with a value between two quotes of a kind that it
does not hold.
-/
inductive Spelling where
  | bare
  | quoted (quote : Char) (value : Text) (mark : quote = '"' ∨ quote = '\'')
    (closed : quote ∉ value)

/-- An attribute as it is spelled. Its name is not the one of a binding. -/
structure Spelled where
  name : Text
  spelling : Spelling
  valid : IsName name
  unbound : ¬ ":".toList <+: name ∧ ¬ "v-bind:".toList <+: name

namespace Spelled

/-- The characters of an attribute. -/
def written (spelled : Spelled) : Text :=
  match spelled.spelling with
  | .bare => spelled.name
  | .quoted quote value _ _ => spelled.name ++ '=' :: quote :: (value ++ [quote])

/-- The attribute that is meant. -/
def meaning (spelled : Spelled) : Attribute :=
  { name := spelled.name
    value :=
      match spelled.spelling with
      | .bare => none
      | .quoted _ value _ _ => some value }

/-- The characters of attributes, each behind a blank. -/
def writtenAll (attributes : List Spelled) : Text :=
  attributes.flatMap (fun spelled => ' ' :: spelled.written)

end Spelled

-----------------------------------------------------------------------------------------
-- Reading one attribute
-----------------------------------------------------------------------------------------

/-- A quoted value ends at the first quote of its kind. -/
theorem untilQuote?_append {quote : Char} {value rest : Text} (closed : quote ∉ value)
    : untilQuote? quote (value ++ quote :: rest) = some (value, rest) := by
  have run : (value ++ quote :: rest).span (· != quote) = (value, quote :: rest) := by
    refine Text.span_eq_iff.mpr ⟨rfl, fun char member => ?_, by simp⟩
    rw [bne_iff_ne]
    rintro rfl
    exact closed member
  rw [untilQuote?, run]

theorem value?_quoted {quote : Char} {value rest : Text} (mark : quote = '"' ∨ quote = '\'')
    (closed : quote ∉ value)
    : value? (quote :: (value ++ quote :: rest)) = some (.plain value, rest) := by
  rcases mark with rfl | rfl <;> simp [value?, untilQuote?_append closed]

/-- A name without the mark of a binding binds nothing. -/
theorem bound?_eq_none {name : Text}
    (unbound : ¬ ":".toList <+: name ∧ ¬ "v-bind:".toList <+: name)
    : bound? name = none := by
  have missing {opening : Text} (other : ¬ opening <+: name)
      : Text.after? opening name = none := by
    cases found : Text.after? opening name with
    | none => rfl
    | some rest => exact absurd ⟨rest, (Text.after?_eq_some_iff.mp found).symm⟩ other
  have colon := missing unbound.1
  have long := missing unbound.2
  simp only [bound?, long, colon]
  rfl

/-- The characters of names are ASCII characters from `-` to `z`. -/
theorem toNat_of_isNamePart {char : Char} (part : isNamePart char)
    : 0x2D ≤ char.toNat ∧ char.toNat ≤ 0x7A := by
  have alphanumeric (which : char.isAlphanum) : 0x2D ≤ char.toNat ∧ char.toNat ≤ 0x7A := by
    have bounds := Text.toNat_of_isAlphanum which
    omega
  simp only [isNamePart, isNameStart, Bool.or_eq_true, beq_iff_eq] at part
  rcases part with (((((letter | rfl) | rfl) | rfl) | digit) | rfl) | rfl
  · exact alphanumeric (by simp [Char.isAlphanum, letter])
  · decide
  · decide
  · decide
  · exact alphanumeric (by simp [Char.isAlphanum, digit])
  · decide
  · decide

theorem IsName.eq_cons {name : Text} (valid : IsName name)
    : ∃ first others, name = first :: others ∧ isNameStart first := by
  obtain ⟨starts, _⟩ := valid
  cases name with
  | nil => simp at starts
  | cons first others => exact ⟨first, others, rfl, by simpa using starts⟩

/-- The last character of a name is neither a blank nor a slash. -/
theorem IsName.eq_concat {name : Text} (valid : IsName name)
    : ∃ front last, name = front ++ [last] ∧ Text.isBlank last = false ∧ last ≠ '/' := by
  obtain ⟨first, others, same, -⟩ := valid.eq_cons
  have nonempty : name ≠ [] := by simp [same]
  have part := List.all_eq_true.mp valid.2 _ (List.getLast_mem nonempty)
  obtain ⟨low, high⟩ := toNat_of_isNamePart part
  refine ⟨_, _, (List.dropLast_concat_getLast nonempty).symm,
    Text.isBlank_eq_false (by omega) (by omega), fun slash => ?_⟩
  rw [slash] at part
  exact absurd part (by decide)

/-- (Follows rest) says that `rest` may stand behind an attribute: it neither continues a name nor
begins with an equals sign behind blanks.
-/
structure Follows (rest : Text) : Prop where
  ends : ∀ char ∈ rest.head?, isNamePart char = false
  unassigned : (Text.trimStart rest).head? ≠ some '='

/-- A name in front of what may follow it is the longest run of its characters. -/
theorem span_name {name rest : Text} (valid : IsName name)
    (ends : ∀ char ∈ rest.head?, isNamePart char = false)
    : (name ++ rest).span isNamePart = (name, rest) :=
  Text.span_eq_iff.mpr ⟨rfl, List.all_eq_true.mp valid.2, ends⟩

theorem assigned?_eq_none {rest : Text} (unassigned : (Text.trimStart rest).head? ≠ some '=')
    : assigned? rest = none := by
  unfold assigned?
  split
  · next behind same => simp [same] at unassigned
  · rfl

/-- A value between quotes is read behind an equals sign. -/
theorem assigned?_quoted {quote : Char} {value rest : Text} (mark : quote = '"' ∨ quote = '\'')
    (closed : quote ∉ value)
    : assigned? ('=' :: quote :: (value ++ quote :: rest)) = some (.plain value, rest) := by
  have quoteSolid : Text.isBlank quote = false := by
    rcases mark with rfl | rfl <;> decide
  have equals : Text.trimStart ('=' :: quote :: (value ++ quote :: rest))
      = '=' :: quote :: (value ++ quote :: rest) :=
    Text.trimStart_eq_self (by simpa using (by decide : Text.isBlank '=' = false))
  have opened : Text.trimStart (quote :: (value ++ quote :: rest))
      = quote :: (value ++ quote :: rest) :=
    Text.trimStart_eq_self (by simpa using quoteSolid)
  rw [assigned?, equals]
  simp only [opened, value?_quoted mark closed]

/-- A name behind which no value can be read is a bare attribute. -/
theorem pattern_bare {name rest : Text} (before : Option Char) (valid : IsName name)
    (ends : ∀ char ∈ rest.head?, isNamePart char = false) (missing : assigned? rest = none)
    : pattern before (name ++ rest) = some (ofWritten name none, name.length) := by
  have run := span_name valid ends
  obtain ⟨first, others, rfl, starts⟩ := valid.eq_cons
  rw [List.cons_append] at run ⊢
  simp only [pattern, if_pos starts, run, missing]

/-- A value that can be read behind a name belongs to its attribute. -/
theorem pattern_assigned {name rest after : Text} {value : Written} (before : Option Char)
    (valid : IsName name) (ends : ∀ char ∈ rest.head?, isNamePart char = false)
    (found : assigned? rest = some (value, after))
    : pattern before (name ++ rest)
      = some (ofWritten name (some value), (name ++ rest).length - after.length) := by
  have run := span_name valid ends
  obtain ⟨first, others, rfl, starts⟩ := valid.eq_cons
  rw [List.cons_append] at run ⊢
  simp only [pattern, if_pos starts, run, found]

/-- An attribute is read as it is meant, and no further than it is spelled. -/
theorem pattern_written (spelled : Spelled) (before : Option Char) {rest : Text}
    (follows : Follows rest)
    : pattern before (spelled.written ++ rest)
      = some (spelled.meaning, spelled.written.length) := by
  have unbound := bound?_eq_none spelled.unbound
  cases spelling : spelled.spelling with
  | bare =>
      simp only [Spelled.written, Spelled.meaning, spelling]
      rw [pattern_bare before spelled.valid follows.ends (assigned?_eq_none follows.unassigned)]
      simp [ofWritten, unbound]
  | quoted quote value mark closed =>
      simp only [Spelled.written, Spelled.meaning, spelling, List.append_assoc, List.cons_append,
        List.nil_append]
      have stops : ∀ char ∈ ('=' :: quote :: (value ++ quote :: rest)).head?,
          isNamePart char = false := by
        simpa using (by decide : isNamePart '=' = false)
      rw [pattern_assigned before spelled.valid stops (assigned?_quoted mark closed)]
      have taken : (spelled.name ++ '=' :: quote :: (value ++ quote :: rest)).length - rest.length
          = (spelled.name ++ '=' :: quote :: (value ++ [quote])).length := by
        simp only [List.length_append, List.length_cons, List.length_nil]
        omega
      simp only [taken, ofWritten, unbound, Option.map_some]

-----------------------------------------------------------------------------------------
-- Reading all attributes
-----------------------------------------------------------------------------------------

/-- (endOfTag selfClosing) are the characters between the attributes of a tag and its `>`. -/
def endOfTag (selfClosing : Bool) : Text :=
  if selfClosing then " /".toList else []

theorem Spelled.written_eq_cons (spelled : Spelled)
    : ∃ first rest, spelled.written = first :: rest ∧ isNameStart first := by
  obtain ⟨first, others, name, starts⟩ := spelled.valid.eq_cons
  unfold written
  split
  · exact ⟨first, others, name, starts⟩
  · exact ⟨first, _, by rw [name, List.cons_append], starts⟩

/-- What begins with a blank and goes on with another character than `=` may follow an attribute. -/
theorem follows_blank {first : Char} {rest : Text} (solid : Text.isBlank first = false)
    (other : first ≠ '=')
    : Follows (' ' :: first :: rest) := by
  refine { ends := ?_, unassigned := ?_ }
  · simpa using (by decide : isNamePart ' ' = false)
  · rw [Text.trimStart_cons_blank (by decide), Text.trimStart_eq_self (by simpa using solid)]
    simpa using other

/-- The next attribute, or the end of the tag, may stand behind an attribute. -/
theorem follows_writtenAll (attributes : List Spelled) (selfClosing : Bool)
    : Follows (Spelled.writtenAll attributes ++ endOfTag selfClosing) := by
  cases attributes with
  | nil =>
      cases selfClosing with
      | false => exact { ends := by simp [Spelled.writtenAll, endOfTag], unassigned := nofun }
      | true => exact follows_blank (by decide) (by decide)
  | cons spelled attributes =>
      obtain ⟨first, rest, written, starts⟩ := spelled.written_eq_cons
      have part : isNamePart first := by simp [isNamePart, starts]
      obtain ⟨low, high⟩ := toNat_of_isNamePart part
      rw [Spelled.writtenAll, List.flatMap_cons, written]
      refine follows_blank (Text.isBlank_eq_false (by omega) (by omega)) ?_
      rintro rfl
      exact absurd starts (by decide)

/-- The attributes are read as they are meant, in order, by induction over them: a blank begins no
attribute, and behind it one is read as a whole.
-/
theorem hitsFrom_writtenAll (attributes : List Spelled) (selfClosing : Bool) (offset : Nat)
    (before : Option Char)
    : (Text.hitsFrom pattern 0 offset before
          (Spelled.writtenAll attributes ++ endOfTag selfClosing)).map (·.value)
      = attributes.map Spelled.meaning := by
  induction attributes generalizing offset before with
  | nil => cases selfClosing <;> rfl
  | cons spelled attributes ih =>
      obtain ⟨first, rest, written, -⟩ := spelled.written_eq_cons
      have nonempty : spelled.written ≠ [] := by simp [written]
      have matched := pattern_written spelled (some ' ')
        (follows_writtenAll attributes selfClosing)
      have split : Spelled.writtenAll (spelled :: attributes) ++ endOfTag selfClosing
          = ' ' :: (spelled.written
              ++ (Spelled.writtenAll attributes ++ endOfTag selfClosing)) := by
        simp [Spelled.writtenAll]
      rw [split, Text.hitsFrom_none rfl, Text.hitsFrom_some nonempty matched, List.map_cons, ih,
        List.map_cons]

theorem readAll_writtenAll (attributes : List Spelled) (selfClosing : Bool)
    : readAll (Spelled.writtenAll attributes ++ endOfTag selfClosing)
      = attributes.map Spelled.meaning :=
  hitsFrom_writtenAll attributes selfClosing 0 none

-----------------------------------------------------------------------------------------
-- Attributes within a lexeme
-----------------------------------------------------------------------------------------

namespace Spelled

/-- The characters of an attribute are closed runs. -/
theorem runs_written (spelled : Spelled) {rest : Text} (next : Lexeme.Runs rest)
    : Lexeme.Runs (spelled.written ++ rest) := by
  have plain (char : Char) (member : char ∈ spelled.name) : Lexeme.IsPlain char :=
    Lexeme.plain_of_kind (by decide) (List.all_eq_true.mp spelled.valid.2 char member)
  unfold written
  split
  · exact next.append plain
  · next quote value mark closed _ =>
      have pair : Lexeme.Delimits quote quote := by
        rcases mark with rfl | rfl
        · exact .double
        · exact .single
      have run : Lexeme.Runs ('=' :: quote :: (value ++ quote :: rest)) :=
        .plain ⟨by decide, nofun⟩ (.closed pair closed next)
      have whole := run.append plain
      simpa using whole

/-- The text between the name of a tag and its `>` are closed runs, by induction over the
attributes.
-/
theorem runs_writtenAll (attributes : List Spelled) (selfClosing : Bool)
    : Lexeme.Runs (writtenAll attributes ++ endOfTag selfClosing) := by
  induction attributes with
  | nil =>
      cases selfClosing with
      | false => exact .nil
      | true => exact .plain ⟨by decide, nofun⟩ (.plain ⟨by decide, nofun⟩ .nil)
  | cons spelled attributes ih =>
      have whole : Lexeme.Runs
          (' ' :: (spelled.written ++ (writtenAll attributes ++ endOfTag selfClosing))) :=
        .plain ⟨by decide, nofun⟩ (spelled.runs_written ih)
      simpa [writtenAll] using whole

/-- The last character of an attribute is neither a blank nor a slash. -/
theorem written_eq_concat (spelled : Spelled)
    : ∃ front last, spelled.written = front ++ [last] ∧ Text.isBlank last = false ∧ last ≠ '/' := by
  unfold written
  split
  · exact spelled.valid.eq_concat
  · next quote value mark closed _ =>
      refine ⟨spelled.name ++ '=' :: quote :: value, quote, by simp, ?_⟩
      rcases mark with rfl | rfl <;> decide

/-- The text of the attributes ends with a slash exactly when the tag closes itself. -/
theorem getLast?_trimEnd_writtenAll (attributes : List Spelled) (selfClosing : Bool)
    : (Text.trimEnd (writtenAll attributes ++ endOfTag selfClosing)).getLast? = some '/'
      ↔ selfClosing := by
  cases selfClosing with
  | true =>
      have split : writtenAll attributes ++ endOfTag true
          = (writtenAll attributes ++ [' ']) ++ ['/'] := by simp [endOfTag]
      rw [split, Text.trimEnd_concat (by decide), List.getLast?_concat]
      simp
  | false =>
      rw [endOfTag, if_neg Bool.false_ne_true, List.append_nil]
      rcases List.eq_nil_or_concat attributes with rfl | ⟨others, spelled, rfl⟩
      · decide
      · obtain ⟨front, last, written, solid, notSlash⟩ := spelled.written_eq_concat
        have split : writtenAll (others ++ [spelled])
            = (writtenAll others ++ ' ' :: front) ++ [last] := by
          simp [writtenAll, written]
        rw [List.concat_eq_append, split, Text.trimEnd_concat solid, List.getLast?_concat]
        simp [notSlash]

end Spelled

end PageAudit.Attribute
