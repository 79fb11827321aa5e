import Mathlib.Data.List.Infix
import PageAudit.Proofs.Text.Decimal
import PageAudit.Rule.Connection
import PageAudit.Rule.Metadata

/-! Which expressions are taken for literals. An expression keeps its braces unless it is a
literal, or unless its first and last characters are those of a string or its letters those of a
number that has no digits. An expression in braces is not measured.
-/

namespace PageAudit.Expression

/-- The quotes of string literals. -/
def quotes : List Char :=
  ['"', '\'', '\x60']

theorem forall_mem_quotes {kind : Char → Prop}
    : (∀ quote ∈ quotes, kind quote) ↔ kind '"' ∧ kind '\'' ∧ kind '\x60' := by
  simp [quotes]

/-- (holdsUnescaped quote text) says that a quote stands in a text without a backslash that escapes
it.
-/
def holdsUnescaped (quote : Char) : Text → Bool
  | [] => false
  | '\\' :: _ :: rest => holdsUnescaped quote rest
  | char :: rest => char == quote || holdsUnescaped quote rest

/-- (Quoted quote body text) says that a text is a body between two equal quotes, which holds no
interpolation.
-/
structure Quoted (quote : Char) (body text : Text) : Prop where
  mark : quote ∈ quotes
  text_eq : text = quote :: (body ++ [quote])
  plain : ¬ "$\x7b".toList <:+: body

/-- A static literal is a string, which ends at its next quote, a truth value, or a decimal. -/
inductive IsLiteral : Text → Prop where
  | string {quote body text} (quoted : Quoted quote body text)
    (closed : holdsUnescaped quote body = false)
    : IsLiteral text
  | truth : IsLiteral "true"
  | falsehood : IsLiteral "false"
  | number {text} (decimal : Text.IsDecimal text) : IsLiteral text

/-- A text begins and ends with the same quote, though the string that begins it ends earlier. -/
def EndsEarly (text : Text) : Prop :=
  ∃ quote body, Quoted quote body text ∧ holdsUnescaped quote body

/-- An expression in braces, without the blanks around it. -/
def braced (expression : Text) : Text :=
  '{' :: Text.trim expression ++ ['}']

-----------------------------------------------------------------------------------------
-- Texts between quotes
-----------------------------------------------------------------------------------------

/-- A text contains another one exactly when that one stands within it. -/
theorem contains_iff {needle text : Text} : Text.contains needle text ↔ needle <:+: text := by
  induction text with
  | nil => simp [Text.contains]
  | cons char text ih =>
      simp [Text.contains, Text.startsWith, ih, List.infix_cons_iff]

/-- No interpolation begins or ends with a quote. -/
theorem infix_quoted_iff {quote : Char} {body : Text} (mark : quote ∈ quotes)
    : "$\x7b".toList <:+: quote :: (body ++ [quote]) ↔ "$\x7b".toList <:+: body := by
  have others : ∀ quote ∈ quotes, quote ≠ '$' ∧ quote ≠ '{' :=
    forall_mem_quotes.mpr (by decide)
  obtain ⟨noDollar, noBrace⟩ := others quote mark
  rw [List.infix_cons_iff, List.infix_concat_iff]
  constructor
  · rintro (⟨rest, same⟩ | ⟨front, same⟩ | within)
    · exact absurd (List.cons.inj same).1.symm noDollar
    · have last := congrArg List.getLast? same
      simp [Ne.symm noBrace] at last
    · exact within
  · exact fun within => .inr (.inr within)

/-- What stands between quotes is found exactly where a text is quoted. -/
theorem unquote?_eq_some_iff {quote : Char} {text inner : Text} (mark : quote ∈ quotes)
    : unquote? quote text = some inner ↔ Quoted quote inner text := by
  constructor
  · intro found
    unfold unquote? at found
    split at found
    · cases found
    · next first rest =>
        split at found
        · next ends =>
            obtain ⟨rfl, last, plain⟩ := ends
            obtain rfl := Option.some.inj found
            obtain ⟨body, rfl⟩ := List.getLast?_eq_some_iff.mp last
            rw [List.dropLast_concat]
            refine ⟨mark, rfl, ?_⟩
            rw [← infix_quoted_iff mark, ← contains_iff]
            exact plain
        · cases found
  · rintro ⟨-, rfl, plain⟩
    have absent : Text.contains "$\x7b" (quote :: (inner ++ [quote])) = false := by
      rw [← Bool.not_eq_true, contains_iff, infix_quoted_iff mark]
      exact plain
    rw [unquote?, if_pos ⟨rfl, List.getLast?_concat, by simp only [absent]; decide⟩,
      List.dropLast_concat]

/-- A text is a truth value or is taken for a number. -/
def IsConstant (text : Text) : Prop :=
  text = "true" ∨ text = "false" ∨ Text.isFloatNumeral text

/-- The literal of an expression: what stands between its quotes, else a truth value or a number,
and else the expression in braces.
-/
theorem literal_cases (expression : Text)
    : (∃ quote body, Quoted quote body (Text.trim expression) ∧ literal expression = body)
      ∨ IsConstant (Text.trim expression) ∧ literal expression = Text.trim expression
      ∨ (∀ quote body, ¬ Quoted quote body (Text.trim expression))
        ∧ ¬ IsConstant (Text.trim expression)
        ∧ literal expression = braced expression := by
  unfold literal
  dsimp only
  cases found : ['"', '\'', '\x60'].findSome? (unquote? · (Text.trim expression)) with
  | some inner =>
      obtain ⟨quote, mark, same⟩ := List.exists_of_findSome?_eq_some found
      exact .inl ⟨quote, inner, (unquote?_eq_some_iff mark).mp same, rfl⟩
  | none =>
      refine .inr ?_
      by_cases constant : IsConstant (Text.trim expression)
      · exact .inl ⟨constant, if_pos constant⟩
      · refine .inr ⟨fun quote body quoted => ?_, constant, if_neg constant⟩
        have missing := List.findSome?_eq_none_iff.mp found quote quoted.mark
        rw [(unquote?_eq_some_iff quoted.mark).mpr quoted] at missing
        cases missing

-----------------------------------------------------------------------------------------
-- Expressions that keep their braces
-----------------------------------------------------------------------------------------

theorem Quoted.unique {quote other : Char} {body inner text : Text}
    (quoted : Quoted quote body text) (also : Quoted other inner text)
    : quote = other ∧ body = inner := by
  obtain ⟨rfl, tail⟩ := List.cons.inj (quoted.text_eq.symm.trans also.text_eq)
  exact ⟨rfl, List.append_cancel_right tail⟩

/-- No truth value and no decimal has quotes. -/
theorem Quoted.eq_string {quote : Char} {body text : Text} (quoted : Quoted quote body text)
    (static : IsLiteral text)
    : holdsUnescaped quote body = false := by
  have member : quote ∈ text := by simp [quoted.text_eq]
  have absent {letters : List Char} (none : ∀ quote ∈ quotes, quote ∉ letters)
      : quote ∉ letters :=
    none quote quoted.mark
  cases static with
  | string also closed =>
      obtain ⟨rfl, rfl⟩ := quoted.unique also
      exact closed
  | truth => exact absurd member (absent (forall_mem_quotes.mpr (by decide)))
  | falsehood => exact absurd member (absent (forall_mem_quotes.mpr (by decide)))
  | number decimal =>
      have noDigit : ∀ quote ∈ quotes, quote.isDigit = false :=
        forall_mem_quotes.mpr (by decide)
      rcases decimal.mem quote member with digit | mark
      · simp [noDigit quote quoted.mark] at digit
      · exact absurd mark (absent (forall_mem_quotes.mpr (by decide)))

theorem EndsEarly.not_isLiteral {text : Text} (early : EndsEarly text) : ¬ IsLiteral text := by
  obtain ⟨quote, body, quoted, unescaped⟩ := early
  intro static
  rw [quoted.eq_string static] at unescaped
  cases unescaped

/-- The letters of the names of numbers spell no literal. -/
theorem not_isLiteral_of_namesNumber {text : Text} (names : Text.NamesNumber text)
    : ¬ IsLiteral text := by
  intro static
  cases static with
  | @string quote body _ quoted _ =>
      have member : quote ∈ text := by simp [quoted.text_eq]
      have none : ∀ quote ∈ quotes, quote.toLower ∉ "+-infaty".toList :=
        forall_mem_quotes.mpr (by decide)
      exact none quote quoted.mark (names.mem quote member)
  | truth => exact absurd (names.mem 'r' (by decide)) (by decide)
  | falsehood => exact absurd (names.mem 's' (by decide)) (by decide)
  | number decimal => exact names.not_isDecimal decimal

theorem isConstant_iff {text : Text}
    : IsConstant text
      ↔ text = "true" ∨ text = "false" ∨ Text.IsDecimal text ∨ Text.NamesNumber text := by
  rw [IsConstant, Text.isFloatNumeral_iff]

theorem IsLiteral.quoted_or_constant {text : Text} (static : IsLiteral text)
    : (∃ quote body, Quoted quote body text) ∨ IsConstant text := by
  cases static with
  | string quoted _ => exact .inl ⟨_, _, quoted⟩
  | truth => exact .inr (isConstant_iff.mpr (.inl rfl))
  | falsehood => exact .inr (isConstant_iff.mpr (.inr (.inl rfl)))
  | number decimal => exact .inr (isConstant_iff.mpr (.inr (.inr (.inl decimal))))

/-- An expression loses its braces exactly when it is a literal, when its first and last characters
are the same quote, or when it names a number.
-/
theorem literal_ne_braced_iff {expression : Text}
    : literal expression ≠ braced expression
      ↔ IsLiteral (Text.trim expression)
        ∨ EndsEarly (Text.trim expression)
        ∨ Text.NamesNumber (Text.trim expression) := by
  have longer : (braced expression).length = (Text.trim expression).length + 2 := by
    simp [braced]
  rcases literal_cases expression with
    ⟨quote, body, quoted, same⟩ | ⟨constant, same⟩ | ⟨unquoted, other, same⟩
  · refine iff_of_true (fun equal => ?_) ?_
    · have size := congrArg List.length (same.symm.trans equal)
      rw [longer, quoted.text_eq] at size
      simp only [List.length_cons, List.length_append] at size
      omega
    · cases closed : holdsUnescaped quote body with
      | false => exact .inl (.string quoted closed)
      | true => exact .inr (.inl ⟨quote, body, quoted, closed⟩)
  · refine iff_of_true (fun equal => ?_) ?_
    · have size := congrArg List.length (same.symm.trans equal)
      omega
    · rcases isConstant_iff.mp constant with truth | falsehood | decimal | names
      · exact .inl (truth ▸ .truth)
      · exact .inl (falsehood ▸ .falsehood)
      · exact .inl (.number decimal)
      · exact .inr (.inr names)
  · refine iff_of_false (fun differs => differs same) ?_
    rintro (static | ⟨quote, body, quoted, -⟩ | names)
    · rcases static.quoted_or_constant with ⟨quote, body, quoted⟩ | constant
      · exact unquoted quote body quoted
      · exact other constant
    · exact unquoted quote body quoted
    · exact other (isConstant_iff.mpr (.inr (.inr (.inr names))))

-----------------------------------------------------------------------------------------
-- Expressions that are not measured
-----------------------------------------------------------------------------------------

theorem trim_braced (expression : Text) : Text.trim (braced expression) = braced expression := by
  have opened : Text.trimStart (braced expression) = braced expression :=
    Text.trimStart_eq_self (by simpa [braced] using (by decide : Text.isBlank '{' = false))
  rw [Text.trim, opened, braced, Text.trimEnd_concat (by decide)]

/-- Braces mark a value as one that is computed when the page runs. -/
theorem isDynamic_braced (expression : Text) : isDynamic (braced expression) := by
  unfold isDynamic
  rw [trim_braced]
  simp [braced, Text.startsWith]

/-- (Unmeasured value) says that no rule reads a number or an origin off the value of an attribute:
neither the length of a description, nor the size of inline data, nor the origin of a reference.
-/
structure Unmeasured (value : Text) : Prop where
  description : ∀ policy tag, tag.attribute? "content" = some value →
    Rule.descriptionLength policy tag = []
  data : Rule.dataSize? value = none
  origin : Web.externalOrigin? value = none

theorem unmeasured_braced (expression : Text) : Unmeasured (braced expression) where
  description policy tag content := by
    simp only [Rule.descriptionLength, content, Option.getD_some, trim_braced, isDynamic_braced,
      if_true]
  data := by
    rw [Rule.dataSize?, trim_braced]
    rfl
  origin := by
    simp [Web.externalOrigin?, trim_braced, isDynamic_braced]

/-- An expression that loses its braces is a static literal, unless a string that begins it ends
within it and another one ends it, or unless it names a number without a digit. Only in these two
cases one that is no literal loses them. One that keeps its braces is known for computed, and no
rule measures it.
-/
theorem isLiteral_of_literal_iff (expression : Text)
    : ((literal expression ≠ braced expression → IsLiteral (Text.trim expression))
        ↔ ¬ EndsEarly (Text.trim expression) ∧ ¬ Text.NamesNumber (Text.trim expression))
      ∧ (IsLiteral (Text.trim expression) → literal expression ≠ braced expression)
      ∧ (literal expression = braced expression →
          isDynamic (literal expression) ∧ Unmeasured (literal expression)) := by
  refine ⟨⟨fun only => ?_, fun none lost => ?_⟩, fun static => ?_, fun kept => ?_⟩
  · constructor
    · intro early
      exact early.not_isLiteral (only (literal_ne_braced_iff.mpr (.inr (.inl early))))
    · intro names
      exact not_isLiteral_of_namesNumber names
        (only (literal_ne_braced_iff.mpr (.inr (.inr names))))
  · rcases literal_ne_braced_iff.mp lost with static | early | names
    · exact static
    · exact absurd early none.1
    · exact absurd names none.2
  · exact literal_ne_braced_iff.mpr (.inl static)
  · rw [kept]
    exact ⟨isDynamic_braced expression, unmeasured_braced expression⟩

/-- A concatenation between two strings is taken for one string, and for text that can be
measured.
-/
theorem literal_concatenation
    : let expression : Text := "\"a\" + x + \"b\""
      literal expression = "a\" + x + \"b".toList
      ∧ literal expression ≠ braced expression
      ∧ ¬ IsLiteral (Text.trim expression)
      ∧ isDynamic (literal expression) = false := by
  intro expression
  have early : EndsEarly (Text.trim expression) :=
    ⟨'"', "a\" + x + \"b".toList, ⟨by decide, by decide, by decide⟩, by decide⟩
  exact ⟨by decide, by decide, early.not_isLiteral, by decide⟩

/-- The name of the undefined number is taken for a numeral. -/
example : literal "NaN" = "NaN".toList := by
  decide

end PageAudit.Expression
