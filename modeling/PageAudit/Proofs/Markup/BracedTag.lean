import PageAudit.Proofs.Markup.Braces
import PageAudit.Proofs.Markup.Tokenize

/-! Tags whose attributes have expressions in braces as their values, and the attributes that are
found in such a tag: the ones it was written with, and those that begin within expressions that are
not read as a whole.
-/

namespace PageAudit.Attribute

/-- An attribute with an expression in braces. Its name is not the one of a binding, the braces of
the expression are balanced, and the expression holds no quotes and no angles.
-/
structure Braced where
  name : Text
  expression : Text
  valid : IsName name
  unbound : bound? name = none
  balanced : ∃ depth, Nests depth expression
  unquoted : ∀ char ∈ expression, IsUnquoted char

namespace Braced

/-- The characters of an attribute behind a blank. -/
def written (braced : Braced) : Text :=
  ' ' :: (braced.name ++ '=' :: '{' :: (braced.expression ++ ['}']))

/-- The characters of attributes, each behind a blank. -/
def writtenAll (items : List Braced) : Text :=
  items.flatMap written

/-- The value of an attribute holds its expression: the braces nest at most one level deep, or no
name of an attribute could begin behind the first blank or equals sign.
-/
def IsContained (braced : Braced) : Prop :=
  Nests 1 braced.expression
  ∨ ∀ char ∈ braced.expression.dropWhile isBarePart, isNameStart char = false

end Braced

-----------------------------------------------------------------------------------------
-- Reading the attributes
-----------------------------------------------------------------------------------------

/-- A value that can be read behind a name belongs to its attribute, and what follows the value is
searched for more attributes.
-/
theorem readAll_assigned {name rest after : Text} {value : Written} (valid : IsName name)
    (ends : ∀ char ∈ rest.head?, isNamePart char = false)
    (found : assigned? rest = some (value, after)) (behind : after <:+ rest)
    : readAll (name ++ rest) = ofWritten name (some value) :: readAll after := by
  obtain ⟨taken, rfl⟩ := behind
  have positive : 0 < name.length := by
    obtain ⟨first, others, rfl, -⟩ := valid.eq_cons
    exact Nat.succ_pos _
  have matched := pattern_assigned none valid ends found
  have count : (name ++ (taken ++ after)).length - after.length = (name ++ taken).length := by
    simp only [List.length_append]
    omega
  rw [count] at matched
  rw [readAll_eq_cons (by simp; omega) (by simp) matched, ← List.append_assoc, List.drop_left]

theorem assigned?_eq_value? {char : Char} (solid : Text.isBlank char = false) (text : Text)
    : assigned? ('=' :: char :: text) = value? (char :: text) := by
  have equals : Text.trimStart ('=' :: char :: text) = '=' :: char :: text :=
    Text.trimStart_eq_self (by simpa using (by decide : Text.isBlank '=' = false))
  have first : Text.trimStart (char :: text) = char :: text :=
    Text.trimStart_eq_self (by simpa using solid)
  rw [assigned?, equals]
  simp only [first]

/-- An attribute that binds nothing keeps its name, whatever its value is. -/
theorem ofWritten_unbound {name : Text} (unbound : bound? name = none) (value : Option Written)
    : ∃ read, ofWritten name value = { name, value := read } := by
  simp only [ofWritten, unbound]
  exact ⟨_, rfl⟩

namespace Braced

/-- What is read behind the name of an attribute, and what is left of its text. The whole expression
is a value when it is read as one, and else a bare value ends within it or behind its brace.
-/
theorem assigned?_written (braced : Braced) (tail : Text)
    : ∃ value after,
        assigned? ('=' :: '{' :: (braced.expression ++ '}' :: tail)) = some (value, after)
        ∧ (Nests 1 braced.expression → after = tail)
        ∧ (¬ Nests 1 braced.expression →
            after = (braced.expression ++ '}' :: tail).dropWhile isBarePart) := by
  obtain ⟨depth, nests⟩ := braced.balanced
  rw [assigned?_eq_value? (by decide), value?]
  by_cases shallow : Nests 1 braced.expression
  · rw [untilBrace?_of_nests shallow]
    exact ⟨_, _, rfl, fun _ => rfl, fun deep => absurd shallow deep⟩
  · rw [untilBrace?_eq_none nests shallow]
    have part : isBarePart '{' := by decide
    simp [bare?, List.span_eq_takeWhile_dropWhile, part, shallow]

/-- An attribute that was written is found, and behind it those that begin within its expression.
There are none exactly when the value holds the expression.
-/
theorem readAll_written (braced : Braced) {tail : Text} (ends : Ends tail)
    : ∃ value leaks,
        readAll (braced.written ++ tail)
          = { name := braced.name, value } :: (leaks ++ readAll tail)
        ∧ (leaks = [] ↔ braced.IsContained) := by
  have split : braced.written ++ tail
      = ' ' :: (braced.name ++ '=' :: '{' :: (braced.expression ++ '}' :: tail)) := by
    simp [written]
  have stops (rest : Text) : ∀ char ∈ ('=' :: rest).head?, isNamePart char = false := by
    simpa using (by decide : isNamePart '=' = false)
  obtain ⟨depth, nests⟩ := braced.balanced
  obtain ⟨value, after, read, whole, part⟩ := braced.assigned?_written tail
  obtain ⟨kept, same⟩ := ofWritten_unbound braced.unbound (some value)
  have behind : after <:+ '=' :: '{' :: (braced.expression ++ '}' :: tail) := by
    refine List.IsSuffix.trans ?_ ((List.suffix_cons _ _).trans (List.suffix_cons _ _))
    by_cases shallow : Nests 1 braced.expression
    · rw [whole shallow]
      simpa using List.suffix_append (braced.expression ++ ['}']) tail
    · rw [part shallow]
      exact List.dropWhile_suffix _
  rw [split, readAll_cons (by decide), readAll_assigned braced.valid (stops _) read behind, same]
  by_cases shallow : Nests 1 braced.expression
  · exact ⟨kept, [], by rw [whole shallow]; rfl, by simp [IsContained, shallow]⟩
  -- the value is a bare one, which ends at the first blank or equals sign of the expression
  have contained : braced.IsContained
      ↔ ∀ char ∈ braced.expression.dropWhile isBarePart, isNameStart char = false := by
    simp [IsContained, shallow]
  rw [part shallow, contained, List.dropWhile_append]
  cases left : braced.expression.dropWhile isBarePart with
  | nil =>
      have closer : isBarePart '}' := by decide
      have stopped : tail.dropWhile isBarePart = tail := by
        cases tail with
        | nil => rfl
        | cons char tail => simp [ends char rfl]
      exact ⟨kept, [], by simp [closer, stopped], by simp⟩
  | cons first rest =>
      have inside : Inside braced.expression := ⟨nests.closes, braced.unquoted⟩
      obtain ⟨leaks, others, clean⟩ :=
        (inside.of_suffix (left ▸ List.dropWhile_suffix isBarePart)).readAll ends
      exact ⟨kept, leaks, by simpa using others, clean⟩

/-- What stands behind an attribute ends a bare value. -/
theorem ends_writtenAll (items : List Braced) : Ends (writtenAll items) := by
  cases items with
  | nil => simp [Ends, writtenAll]
  | cons item items => simpa [Ends, writtenAll, written] using (by decide : isBarePart ' ' = false)

/-- The attributes that were written are found in their order, and no others exactly when each of
them holds its expression, by induction over them: as many names as attributes stand there only when
no attribute brings another one with it.
-/
theorem names_readAll_writtenAll (items : List Braced)
    : (items.map Braced.name).Sublist ((readAll (writtenAll items)).map (·.name))
      ∧ ((readAll (writtenAll items)).map (·.name) = items.map Braced.name
        ↔ ∀ item ∈ items, item.IsContained) := by
  induction items with
  | nil => simp [writtenAll, readAll, Text.hits, Text.hitsFrom]
  | cons item items ih =>
      obtain ⟨sublist, same⟩ := ih
      obtain ⟨value, leaks, read, clean⟩ := item.readAll_written (ends_writtenAll items)
      have front : writtenAll (item :: items) = item.written ++ writtenAll items := rfl
      rw [front, read]
      simp only [List.map_cons, List.map_append, List.forall_mem_cons, List.cons.injEq, true_and]
      refine ⟨.cons_cons _ (sublist.trans (List.sublist_append_right _ _)), ?_⟩
      rw [← clean, ← same]
      constructor
      · intro whole
        have size := congrArg List.length whole
        have less := sublist.length_le
        simp only [List.length_append, List.length_map] at size less
        have none : leaks = [] := List.length_eq_zero_iff.mp (by omega)
        subst none
        exact ⟨rfl, by simpa using whole⟩
      · rintro ⟨rfl, whole⟩
        simpa using whole

end Braced

-----------------------------------------------------------------------------------------
-- The whole tag
-----------------------------------------------------------------------------------------

open Lexeme (Runs RunsFrom)

/-- What holds no quotes and no angles is closed runs up to a brace behind it, and also when an
opening brace stands in front of it, by induction over the characters.
-/
theorem runs_append_closer {text rest : Text} (unquoted : ∀ char ∈ text, IsUnquoted char)
    (next : Runs rest)
    : Runs (text ++ '}' :: rest) ∧ RunsFrom (some '}') (text ++ '}' :: rest) := by
  induction text with
  | nil =>
      exact ⟨.plain ⟨by decide, nofun⟩ next, RunsFrom.cons_some next⟩
  | cons char text ih =>
      obtain ⟨runs, within⟩ := ih (fun other member => unquoted other (.tail _ member))
      have mark := unquoted char List.mem_cons_self
      simp only [IsUnquoted, List.mem_cons, List.not_mem_nil, or_false, not_or] at mark
      constructor
      · refine Runs.cons mark.2.2.2.2 ?_
        by_cases opener : char = '{'
        · subst opener
          exact within
        · have none : Lexeme.closer? char = none := by simp [Lexeme.closer?, mark, opener]
          rw [none]
          exact runs
      · refine RunsFrom.cons_some ?_
        by_cases closer : char = '}'
        · rw [if_pos closer]
          exact runs
        · rw [if_neg closer]
          exact within

namespace Braced

/-- The characters of attributes are closed runs, by induction over the attributes. -/
theorem runs_writtenAll (items : List Braced) : Runs (writtenAll items) := by
  induction items with
  | nil => exact .nil
  | cons item items ih =>
      have plain (char : Char) (member : char ∈ item.name) : Lexeme.IsPlain char :=
        Lexeme.plain_of_kind (by decide) (List.all_eq_true.mp item.valid.2 char member)
      have value : Runs ('{' :: (item.expression ++ '}' :: writtenAll items)) :=
        Runs.cons (by decide) (runs_append_closer item.unquoted ih).2
      have assigned : Runs ('=' :: '{' :: (item.expression ++ '}' :: writtenAll items)) :=
        .plain ⟨by decide, nofun⟩ value
      have whole : Runs (' ' :: (item.name
          ++ '=' :: '{' :: (item.expression ++ '}' :: writtenAll items))) :=
        .plain ⟨by decide, nofun⟩ (assigned.append plain)
      simpa [writtenAll, written] using whole

/-- No slash stands at the end of the attributes. -/
theorem getLast?_trimEnd_writtenAll (items : List Braced)
    : (Text.trimEnd (writtenAll items)).getLast? ≠ some '/' := by
  rcases List.eq_nil_or_concat items with rfl | ⟨others, item, rfl⟩
  · decide
  · have split : writtenAll (others ++ [item])
        = (writtenAll others ++ ' ' :: (item.name ++ '=' :: '{' :: item.expression)) ++ ['}'] := by
      simp [writtenAll, written]
    rw [List.concat_eq_append, split, Text.trimEnd_concat (by decide), List.getLast?_concat]
    decide

end Braced

/-- The characters of an opening tag. -/
def writtenBraced (name : Text) (items : List Braced) : Text :=
  '<' :: (name ++ (Braced.writtenAll items ++ ['>']))

end PageAudit.Attribute

namespace PageAudit.Markup

open Attribute (Braced writtenBraced)

/-- A tag that is the whole text is the only one, also when it begins an element whose content is
no markup.
-/
theorem tokenize_of_atFront {text : Text} {lexeme : Lexeme} (front : lexeme.AtFront text)
    (last : lexeme.rest = [])
    : tokenize text = [lexeme.tag 0] := by
  have here : lexeme.AtFront (Place.start text).rest := front
  obtain ⟨next, atEnd, step⟩ : ∃ next : Place,
      next.rest = [] ∧ Step (Place.start text) (some (lexeme.tag 0)) next := by
    by_cases content : ∃ name, BeginsRawText lexeme name
    · obtain ⟨name, begins⟩ := content
      have ends : Text.Until (EndsElement name) [] [] := .nowhere (Text.clear_nil [])
      exact ⟨_, rfl, .rawText here begins last ends⟩
    · exact ⟨_, last, .markup here (not_exists.mp content)⟩
  exact (scan_tokenize text).unique (.step step (.finish atEnd))

/-- A tag whose attributes have expressions in braces as their values is found as one opening tag
that covers the whole text. The attributes are found with their names and in their order, and no
others are found exactly when each value holds its expression.
-/
theorem tokenize_writtenBraced (name : Text) (items : List Braced) (valid : Lexeme.IsName name)
    : ∃ tag,
        tokenize (writtenBraced name items) = [tag]
        ∧ tag.kind = .opening
        ∧ tag.name = name
        ∧ tag.span = { start := 0, stop := Text.byteSize (writtenBraced name items) }
        ∧ (items.map Braced.name).Sublist (tag.attributes.map Attribute.name)
        ∧ (tag.attributes.map Attribute.name = items.map Braced.name
          ↔ ∀ item ∈ items, item.IsContained) := by
  let lexeme : Lexeme :=
    { closing := false, name, attributes := Braced.writtenAll items, rest := [] }
  have written : lexeme.written = writtenBraced name items := by
    simp [lexeme, writtenBraced, Lexeme.written]
  have longest : ∀ char ∈ (Braced.writtenAll items).head?, Lexeme.isNamePart char = false := by
    cases items with
    | nil => simp [Braced.writtenAll]
    | cons item items =>
        simpa [Braced.writtenAll, Braced.written] using (by decide : Lexeme.isNamePart ' ' = false)
  have front : lexeme.AtFront (writtenBraced name items) :=
    ⟨⟨by rw [written]; simp [lexeme], valid, Braced.runs_writtenAll items⟩, longest⟩
  have opening : lexeme.kind = .opening := by
    simp [lexeme, Lexeme.kind, Braced.getLast?_trimEnd_writtenAll items]
  obtain ⟨sublist, same⟩ := Braced.names_readAll_writtenAll items
  refine ⟨lexeme.tag 0, tokenize_of_atFront front rfl, opening, rfl, ?_, sublist, same⟩
  rw [← written, Lexeme.byteSize_written, Lexeme.tag, Nat.zero_add]

/-- An attribute with two braces behind its equals sign is the only one of its tag. -/
theorem tokenize_writtenBraced_style
    : let style : Braced :=
        { name := "style", expression := "{ color }", valid := by decide, unbound := by decide,
          balanced := ⟨1, .braces (.of_plain " color " (by simp)) .nil⟩,
          unquoted := by simp [Attribute.IsUnquoted] }
      Lexeme.IsName "p".toList
      ∧ style.IsContained
      ∧ ∃ tag,
          tokenize "<p style={{ color }}>".toList = [tag]
          ∧ tag.attributes.map Attribute.name = ["style".toList] := by
  intro style
  have valid : Lexeme.IsName "p".toList := by decide
  have contained : style.IsContained :=
    .inl (.braces (.of_plain " color " (by simp)) .nil)
  obtain ⟨tag, found, -, -, -, -, same⟩ := tokenize_writtenBraced "p" [style] valid
  refine ⟨valid, contained, tag, found, same.mpr ?_⟩
  simpa using contained

/-- A name within three braces is found as an attribute of its own. -/
theorem tokenize_nested_source
    : let source : Braced :=
        { name := "src", expression := " { { alt } } ", valid := by decide, unbound := by decide,
          balanced :=
            have blank {depth : Nat} : Attribute.Nests depth " ".toList := .of_plain _ (by simp)
            have inner : Attribute.Nests 1 " { alt } ".toList :=
              .plain (by decide) (by decide) (.braces (.of_plain " alt " (by simp)) blank)
            ⟨2, .plain (by decide) (by decide) (.braces inner blank)⟩,
          unquoted := by simp [Attribute.IsUnquoted] }
      writtenBraced "img" [source] = "<img src={ { { alt } } }>".toList
      ∧ tokenize (writtenBraced "img" [source])
        = [{ kind := .opening, name := "img", span := { start := 0, stop := 25 },
             attributes :=
               [{ name := "src", value := some ['{'] }, { name := "alt", value := none }] }]
      ∧ ∀ tag ∈ tokenize (writtenBraced "img" [source]),
          tag.attributes.map Attribute.name ≠ [source.name] := by
  decide +kernel

end PageAudit.Markup
