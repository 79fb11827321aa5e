import PageAudit.Proofs.Markup.AttributeList

/-! Expressions in braces, as values of attributes. An expression is read as a whole when its own
braces nest at most one level deep. Of a deeper one no more than a bare value is read, and what
follows that value within the braces is searched for attributes.
-/

namespace PageAudit.Attribute

/-- (Nests depth text) says that the braces of a text are balanced, and that they nest at most
`depth` levels deep.
-/
inductive Nests : Nat → Text → Prop where
  | nil {depth} : Nests depth []
  | plain {depth char rest} (noOpener : char ≠ '{') (noCloser : char ≠ '}')
    (next : Nests depth rest)
    : Nests depth (char :: rest)
  | braces {depth inner rest} (deeper : Nests depth inner) (next : Nests (depth + 1) rest)
    : Nests (depth + 1) ('{' :: (inner ++ '}' :: rest))

/-- A character that neither ends a tag nor begins a quoted value within one. -/
def IsUnquoted (char : Char) : Prop :=
  char ∉ ['"', '\'', '\x60', '<', '>']

instance (char : Char) : Decidable (IsUnquoted char) :=
  inferInstanceAs (Decidable (¬ _))

-----------------------------------------------------------------------------------------
-- Balanced braces
-----------------------------------------------------------------------------------------

/-- A text without braces is balanced. -/
theorem Nests.of_plain {depth : Nat} (text : Text)
    (plain : ∀ char ∈ text, char ≠ '{' ∧ char ≠ '}')
    : Nests depth text := by
  induction text with
  | nil => exact .nil
  | cons char text ih =>
      obtain ⟨noOpener, noCloser⟩ := plain char List.mem_cons_self
      exact .plain noOpener noCloser (ih fun other member => plain other (.tail _ member))

theorem Nests.count_eq {depth : Nat} {text : Text} (nests : Nests depth text)
    : text.count '{' = text.count '}' := by
  induction nests with
  | nil => rfl
  | plain noOpener noCloser _ ih => simp [noOpener, noCloser, ih]
  | braces _ _ first next =>
      simp [first, next]
      omega

/-- (Closes text) says that no rest of a text opens more braces than it closes. -/
def Closes (text : Text) : Prop :=
  ∀ rest, rest <:+ text → rest.count '{' ≤ rest.count '}'

theorem Closes.of_suffix {text rest : Text} (closes : Closes text) (suffix : rest <:+ text)
    : Closes rest :=
  fun later behind => closes later (behind.trans suffix)

/-- A text with balanced braces closes in each of its rests the braces that it opens there, by
induction over the braces.
-/
theorem Nests.closes {depth : Nat} {text : Text} (nests : Nests depth text) : Closes text := by
  induction nests with
  | nil =>
      intro rest suffix
      simp [List.suffix_nil.mp suffix]
  | plain noOpener noCloser next ih =>
      intro rest suffix
      rcases List.suffix_cons_iff.mp suffix with rfl | deeper
      · exact Nat.le_of_eq (next.plain noOpener noCloser).count_eq
      · exact ih rest deeper
  | @braces depth inner others deeper next first ih =>
      intro rest suffix
      rcases List.suffix_cons_iff.mp suffix with rfl | ⟨front, split⟩
      · exact Nat.le_of_eq (deeper.braces next).count_eq
      · rcases List.append_eq_append_iff.mp split with ⟨within, rfl, rfl⟩ | ⟨passed, rfl, tail⟩
        · have balanced := next.count_eq
          have inside := first within (List.suffix_append _ _)
          simp only [List.count_append, List.count_cons_self, List.count_cons_of_ne, ne_eq,
            Char.reduceEq, not_false_eq_true]
          omega
        · rcases List.suffix_cons_iff.mp ⟨passed, tail.symm⟩ with rfl | behind
          · have balanced := next.count_eq
            simp [balanced]
          · exact ih rest behind

-----------------------------------------------------------------------------------------
-- Reading an expression
-----------------------------------------------------------------------------------------

/-- Within an inner pair of braces, characters other than braces are read up to its end. -/
theorem untilBrace?_inner {inner : Text} (flat : Nests 0 inner) (seen rest : Text)
    : untilBrace? true seen (inner ++ '}' :: rest)
      = untilBrace? false ('}' :: (inner.reverse ++ seen)) rest := by
  generalize zero : 0 = depth at flat
  induction flat generalizing seen with
  | nil => simp [untilBrace?]
  | plain noOpener noCloser _ ih => simp [untilBrace?, noOpener, noCloser, ih _ zero]
  | braces => cases zero

/-- An expression whose braces nest at most one level deep is read up to the brace behind it. -/
theorem untilBrace?_of_nests {expression : Text} (shallow : Nests 1 expression) (seen rest : Text)
    : untilBrace? false seen (expression ++ '}' :: rest)
      = some (seen.reverse ++ expression, rest) := by
  generalize one : 1 = depth at shallow
  induction shallow generalizing seen with
  | nil => simp [untilBrace?]
  | plain noOpener noCloser _ ih => simp [untilBrace?, noOpener, noCloser, ih _ one]
  | braces flat _ _ ih =>
      obtain rfl := Nat.succ.inj one
      simp [untilBrace?, untilBrace?_inner flat, ih _ one]

/-- A brace within an inner pair ends the reading. -/
theorem untilBrace?_inner_eq_none {depth : Nat} {inner : Text} (nests : Nests depth inner)
    (deep : ¬ Nests 0 inner) (seen rest : Text)
    : untilBrace? true seen (inner ++ rest) = none := by
  induction nests generalizing seen with
  | nil => exact absurd .nil deep
  | plain noOpener noCloser _ ih =>
      have deeper := fun flat => deep (.plain noOpener noCloser flat)
      simp [untilBrace?, noOpener, noCloser, ih deeper]
  | braces => simp [untilBrace?]

/-- An expression whose braces nest deeper is not read. -/
theorem untilBrace?_eq_none {depth : Nat} {expression : Text} (nests : Nests depth expression)
    (deep : ¬ Nests 1 expression) (seen rest : Text)
    : untilBrace? false seen (expression ++ rest) = none := by
  induction nests generalizing seen with
  | nil => exact absurd .nil deep
  | plain noOpener noCloser _ ih =>
      have deeper := fun shallow => deep (.plain noOpener noCloser shallow)
      simp [untilBrace?, noOpener, noCloser, ih deeper]
  | @braces _ inner others nests next _ ih =>
      by_cases flat : Nests 0 inner
      · have deeper := fun shallow => deep (flat.braces shallow)
        simp [untilBrace?, untilBrace?_inner flat, ih deeper]
      · simp [untilBrace?, untilBrace?_inner_eq_none nests flat]

/-- What reading leaves behind an expression is a rest of the text. Where the text closes more
braces than it opens, the reading stops within it.
-/
theorem suffix_of_untilBrace? {nested : Bool} {seen text more expression after : Text}
    (found : untilBrace? nested seen (text ++ more) = some (expression, after))
    (closed : text.count '{' + (if nested then 1 else 0) < text.count '}')
    : more <:+ after ∧ after <:+ text ++ more := by
  induction text generalizing nested seen with
  | nil => simp at closed
  | cons char text ih =>
      have longer {rest : Text} (suffix : rest <:+ text ++ more) : rest <:+ char :: text ++ more :=
        suffix.trans (List.suffix_cons _ _)
      rw [List.cons_append, untilBrace?] at found
      split at found
      · next opener =>
          subst opener
          cases nested with
          | true => cases found
          | false =>
              obtain ⟨kept, suffix⟩ := ih found (by simpa using closed)
              exact ⟨kept, longer suffix⟩
      · next noOpener =>
          split at found
          · next closer =>
              subst closer
              cases nested with
              | true =>
                  obtain ⟨kept, suffix⟩ := ih found (by simpa using closed)
                  exact ⟨kept, longer suffix⟩
              | false =>
                  obtain ⟨-, rfl⟩ := Prod.mk.inj (Option.some.inj found)
                  exact ⟨List.suffix_append _ _, longer List.suffix_rfl⟩
          · next noCloser =>
              obtain ⟨kept, suffix⟩ := ih found (by simpa [noOpener, noCloser] using closed)
              exact ⟨kept, longer suffix⟩

-----------------------------------------------------------------------------------------
-- Reading attributes one after the other
-----------------------------------------------------------------------------------------

/-- What is read from the attributes of a text depends on nothing in front of it. -/
theorem map_value_hitsFrom (skip offset : Nat) (before : Option Char) (text : Text)
    : (Text.hitsFrom pattern skip offset before text).map (·.value)
      = (Text.hitsFrom pattern skip 0 none text).map (·.value) := by
  induction text generalizing skip offset before with
  | nil => cases skip <;> rfl
  | cons char rest ih =>
      cases skip with
      | succ skip =>
          simp only [Text.hitsFrom]
          rw [ih, ih skip (0 + char.utf8Size)]
      | zero =>
          have ignored : pattern before (char :: rest) = pattern none (char :: rest) := rfl
          cases found : pattern none (char :: rest) with
          | none =>
              rw [Text.hitsFrom_none (ignored.trans found), Text.hitsFrom_none found, ih,
                ih 0 (0 + char.utf8Size)]
          | some hit =>
              obtain ⟨value, count⟩ := hit
              simp only [Text.hitsFrom, ignored, found, List.map_cons]
              rw [ih, ih (count - 1) (0 + char.utf8Size)]

/-- A character that begins no name is passed over. -/
theorem readAll_cons {char : Char} {rest : Text} (other : isNameStart char = false)
    : readAll (char :: rest) = readAll rest := by
  have mismatch : pattern none (char :: rest) = none := by simp [pattern, other]
  rw [readAll, Text.hits, Text.hitsFrom_none mismatch, map_value_hitsFrom]
  rfl

/-- An attribute that is found is followed by those behind the characters it took. -/
theorem readAll_eq_cons {text : Text} {found : Attribute} {count : Nat} (positive : 0 < count)
    (less : count ≤ text.length) (matched : pattern none text = some (found, count))
    : readAll text = found :: readAll (text.drop count) := by
  have size : (text.take count).length = count := by simp [less]
  have nonempty : text.take count ≠ [] := by
    rw [← List.length_pos_iff, size]
    exact positive
  rw [← List.take_append_drop count text, ← size] at matched
  conv => left; rw [← List.take_append_drop count text]
  rw [readAll, Text.hits, Text.hitsFrom_some nonempty (by simpa [less] using matched),
    List.map_cons, map_value_hitsFrom]
  rfl

-----------------------------------------------------------------------------------------
-- Names within an expression
-----------------------------------------------------------------------------------------

/-- A character that is not of a kind ends what is dropped while the kind lasts. -/
theorem dropWhile_append_stop {kind : Char → Bool} {stop : Char} (stops : kind stop = false)
    (front tail : Text)
    : (front ++ stop :: tail).dropWhile kind = front.dropWhile kind ++ stop :: tail := by
  induction front with
  | nil => simp [stops]
  | cons char front ih => by_cases of : kind char <;> simp [of, ih]

theorem suffix_dropWhile {kind : Char → Bool} {tail : Text}
    (stops : ∀ char ∈ tail.head?, kind char = false) (front : Text)
    : tail <:+ (front ++ tail).dropWhile kind := by
  induction front with
  | nil =>
      cases tail with
      | nil => simp
      | cons char tail => simp [stops char rfl]
  | cons char front ih =>
      by_cases of : kind char
      · simpa [of] using ih
      · simp only [List.cons_append, List.dropWhile_cons_of_neg of]
        exact (List.suffix_append front tail).trans (List.suffix_cons char _)

/-- What is left behind a bare value is what stands behind its characters. -/
theorem rest_of_bare? {text after : Text} {value : Written}
    (found : bare? text = some (value, after))
    : after = text.dropWhile isBarePart := by
  unfold bare? at found
  rw [List.span_eq_takeWhile_dropWhile] at found
  split at found
  · cases found
  · next run =>
      obtain ⟨-, rfl⟩ := Prod.mk.inj (Option.some.inj found)
      exact (Prod.mk.inj run).2.symm

/-- (Ends tail) says that a bare value ends in front of `tail`. -/
def Ends (tail : Text) : Prop :=
  ∀ char ∈ tail.head?, isBarePart char = false

/-- A part of an expression that closes its braces, in which no quote begins a value. -/
structure Inside (text : Text) : Prop where
  closes : Closes text
  unquoted : ∀ char ∈ text, IsUnquoted char

theorem Inside.of_suffix {text rest : Text} (inside : Inside text) (suffix : rest <:+ text)
    : Inside rest where
  closes := inside.closes.of_suffix suffix
  unquoted char member := inside.unquoted char (suffix.subset member)

theorem Inside.head_unquoted {text tail : Text} {char : Char} (inside : Inside text)
    (first : (text ++ '}' :: tail).head? = some char)
    : IsUnquoted char := by
  cases text with
  | nil =>
      obtain rfl := Option.some.inj first
      decide
  | cons other text =>
      obtain rfl := Option.some.inj first
      exact inside.unquoted other List.mem_cons_self

theorem Inside.of_dropWhile {text rest : Text} {char : Char} {kind : Char → Bool}
    (inside : Inside text) (split : text.dropWhile kind = char :: rest)
    : Inside rest := by
  refine inside.of_suffix ((List.suffix_cons char rest).trans ?_)
  exact split ▸ List.dropWhile_suffix kind

section

variable {text tail after : Text} {value : Written}

/-- A value within an expression goes no further than to the brace that ends the expression. -/
theorem Inside.value? (inside : Inside text) (ends : Ends tail)
    (found : value? (text ++ '}' :: tail) = some (value, after))
    : tail <:+ after ∧ after <:+ text ++ '}' :: tail := by
  have ofBare (bare : bare? (text ++ '}' :: tail) = some (value, after))
      : tail <:+ after ∧ after <:+ text ++ '}' :: tail := by
    rw [rest_of_bare? bare]
    refine ⟨?_, List.dropWhile_suffix _⟩
    simpa using suffix_dropWhile ends (text ++ ['}'])
  unfold Attribute.value? at found
  split at found
  · next rest front =>
      exact absurd (inside.head_unquoted (by rw [front]; rfl)) (by decide)
  · next rest front =>
      exact absurd (inside.head_unquoted (by rw [front]; rfl)) (by decide)
  · next rest front =>
      split at found
      · next expression behind read =>
          obtain ⟨-, rfl⟩ := Prod.mk.inj (Option.some.inj found)
          cases text with
          | nil => cases front
          | cons char text =>
              obtain ⟨rfl, rfl⟩ := List.cons.inj front
              have closed : text.count '{' < text.count '}' := by
                have whole := inside.closes _ List.suffix_rfl
                simp only [List.count_cons_self, List.count_cons_of_ne, ne_eq, Char.reduceEq,
                  not_false_eq_true] at whole
                omega
              obtain ⟨kept, passed⟩ := suffix_of_untilBrace? read (by simpa using closed)
              exact ⟨(List.suffix_cons _ _).trans kept, passed.trans (List.suffix_cons _ _)⟩
      · exact ofBare found
  · exact ofBare found

/-- A value behind an equals sign within an expression goes no further either. -/
theorem Inside.assigned? (inside : Inside text) (ends : Ends tail)
    (found : assigned? (text ++ '}' :: tail) = some (value, after))
    : tail <:+ after ∧ after <:+ text ++ '}' :: tail := by
  have solid : Text.isBlank '}' = false := by decide
  unfold Attribute.assigned? Text.trimStart at found
  rw [dropWhile_append_stop solid] at found
  split at found
  · next rest front =>
      cases behind : text.dropWhile Text.isBlank with
      | nil => simp [behind] at front
      | cons char later =>
          rw [behind, List.cons_append] at front
          obtain ⟨rfl, rfl⟩ := List.cons.inj front
          rw [dropWhile_append_stop solid] at found
          have deeper := inside.of_dropWhile behind
          obtain ⟨kept, passed⟩ := (deeper.of_suffix (List.dropWhile_suffix _)).value? ends found
          refine ⟨kept, passed.trans (List.suffix_append_self_iff.mpr ?_)⟩
          have suffix : '=' :: later <:+ text := behind ▸ List.dropWhile_suffix _
          exact (List.dropWhile_suffix _).trans ((List.suffix_cons _ _).trans suffix)
  · cases found

/-- Where a name begins, it goes on as long as characters of names follow. -/
theorem exists_name {first : Char} (starts : isNameStart first) (text : Text)
    : ∃ name behind,
        first :: text = name ++ behind
        ∧ IsName name
        ∧ ∀ char ∈ behind.head?, isNamePart char = false := by
  cases run : (first :: text).span isNamePart with
  | mk name behind =>
      obtain ⟨split, inName, stops⟩ := Text.span_eq_iff.mp run
      refine ⟨name, behind, split, ⟨?_, List.all_eq_true.mpr inName⟩, stops⟩
      cases name with
      | nil =>
          rw [List.nil_append] at split
          have part : isNamePart first = false := stops first (by rw [← split]; rfl)
          simp [isNamePart, starts] at part
      | cons char name =>
          obtain ⟨rfl, -⟩ := List.cons.inj split
          simpa using starts

/-- An attribute that is found within an expression goes no further than to the brace that ends the
expression.
-/
theorem Inside.pattern {first : Char} (inside : Inside (first :: text)) (ends : Ends tail)
    (starts : isNameStart first)
    : ∃ found count,
        pattern none (first :: text ++ '}' :: tail) = some (found, count)
        ∧ 0 < count ∧ count ≤ text.length + 2 := by
  obtain ⟨name, behind, split, valid, stops⟩ := exists_name starts text
  have stopsToo : ∀ char ∈ (behind ++ '}' :: tail).head?, isNamePart char = false := by
    cases behind with
    | nil => simpa using (by decide : isNamePart '}' = false)
    | cons char behind => exact stops
  have positive : 0 < name.length := by
    obtain ⟨char, others, rfl, -⟩ := valid.eq_cons
    exact Nat.succ_pos _
  have size := congrArg List.length split
  simp only [List.length_cons, List.length_append] at size
  rw [split, List.append_assoc]
  cases found : Attribute.assigned? (behind ++ '}' :: tail) with
  | none => exact ⟨_, _, pattern_bare none valid stopsToo found, positive, by omega⟩
  | some hit =>
      obtain ⟨value, after⟩ := hit
      have suffix : behind <:+ first :: text := split ▸ List.suffix_append name behind
      obtain ⟨kept, passed⟩ := (inside.of_suffix suffix).assigned? ends found
      have less := kept.length_le
      have more := passed.length_le
      refine ⟨_, _, pattern_assigned none valid stopsToo found, ?_⟩
      simp only [List.length_append, List.length_cons] at more ⊢
      omega

end

/-- What is read from a text in which a brace ends an expression: the attributes that are found
within the expression, and then those behind the brace. Some are found within the expression exactly
when a name begins there, by induction on the number of its characters.
-/
theorem Inside.readAll {text tail : Text} (inside : Inside text) (ends : Ends tail)
    : ∃ leaks,
        readAll (text ++ '}' :: tail) = leaks ++ readAll tail
        ∧ (leaks = [] ↔ ∀ char ∈ text, isNameStart char = false) := by
  induction size : text.length using Nat.strong_induction_on generalizing text with
  | _ size ih =>
  subst size
  cases text with
  | nil => exact ⟨[], readAll_cons (by decide), by simp⟩
  | cons first text =>
      by_cases starts : isNameStart first
      · obtain ⟨found, count, matched, positive, less⟩ := inside.pattern ends starts
        have bound : count ≤ (first :: text ++ '}' :: tail).length := by
          simp only [List.length_append, List.length_cons]
          omega
        have here := readAll_eq_cons positive bound matched
        rcases Nat.lt_or_ge (text.length + 1) count with whole | part
        · obtain rfl : count = text.length + 2 := by omega
          exact ⟨[found], by simpa using here, by simp [starts]⟩
        · rw [List.drop_append_of_le_length part] at here
          obtain ⟨leaks, read, -⟩ :=
            ih _ (by simp; omega) (inside.of_suffix (List.drop_suffix count _)) rfl
          exact ⟨found :: leaks, by rw [here, read, List.cons_append], by simp [starts]⟩
      · have other : isNameStart first = false := by simpa using starts
        obtain ⟨leaks, read, clean⟩ :=
          ih _ (Nat.lt_succ_self _) (inside.of_suffix (List.suffix_cons first text)) rfl
        exact ⟨leaks, (readAll_cons other).trans read, by simp [clean, other]⟩

end PageAudit.Attribute
