import PageAudit.Proofs.Text.Run
import PageAudit.Text.Numeral

/-! The grammar of numerals with a fraction and an exponent, and the texts that are taken for a
number: the decimals, and the names of infinity and of the undefined number.
-/

namespace PageAudit.Text

-----------------------------------------------------------------------------------------
-- The grammar
-----------------------------------------------------------------------------------------

/-- A sign, or nothing. -/
def IsSign (sign : Text) : Prop :=
  sign = [] ∨ sign = ['+'] ∨ sign = ['-']

/-- An exponent is a mark, perhaps a sign, and at least one digit. There may be none. -/
inductive IsExponent : Text → Prop where
  | none : IsExponent []
  | digits {mark sign digits} (marks : mark = 'e' ∨ mark = 'E') (signs : IsSign sign)
    (nonempty : digits ≠ []) (each : ∀ char ∈ digits, char.isDigit)
    : IsExponent (mark :: (sign ++ digits))

/-- A numeral without a sign: digits, or digits before and behind a point with at least one of them,
and perhaps an exponent.
-/
inductive IsUnsigned : Text → Prop where
  | whole {digits exponent} (nonempty : digits ≠ []) (each : ∀ char ∈ digits, char.isDigit)
    (tail : IsExponent exponent)
    : IsUnsigned (digits ++ exponent)
  | point {whole fraction exponent} (nonempty : whole ≠ [] ∨ fraction ≠ [])
    (before : ∀ char ∈ whole, char.isDigit) (behind : ∀ char ∈ fraction, char.isDigit)
    (tail : IsExponent exponent)
    : IsUnsigned (whole ++ '.' :: (fraction ++ exponent))

/-- A decimal is a numeral with at least one digit behind its sign. -/
def IsDecimal (text : Text) : Prop :=
  ∃ sign unsigned, text = sign ++ unsigned ∧ IsSign sign ∧ IsUnsigned unsigned

/-- A name of infinity or of the undefined number in any case, behind a sign. -/
def NamesNumber (text : Text) : Prop :=
  ∃ sign name,
    text = sign ++ name
    ∧ IsSign sign
    ∧ (sameLetters name "inf" ∨ sameLetters name "infinity" ∨ sameLetters name "nan")

-----------------------------------------------------------------------------------------
-- Signs and digits
-----------------------------------------------------------------------------------------

/-- What is dropped from the front of a text is a sign. -/
theorem exists_sign (text : Text) : ∃ sign, IsSign sign ∧ text = sign ++ dropSign text := by
  unfold dropSign
  split
  · exact ⟨['+'], .inr (.inl rfl), rfl⟩
  · exact ⟨['-'], .inr (.inr rfl), rfl⟩
  · exact ⟨[], .inl rfl, rfl⟩

/-- A sign is dropped when what stands behind it begins with no other one. -/
theorem dropSign_append {sign rest : Text} (signs : IsSign sign)
    (unsigned : ∀ char ∈ rest.head?, char ≠ '+' ∧ char ≠ '-')
    : dropSign (sign ++ rest) = rest := by
  rcases signs with rfl | rfl | rfl
  · cases rest with
    | nil => rfl
    | cons char rest =>
        obtain ⟨noPlus, noMinus⟩ := unsigned char rfl
        rw [List.nil_append, dropSign] <;> simpa
  · rfl
  · rfl

theorem not_sign_of_isDigit {char : Char} (digit : char.isDigit) : char ≠ '+' ∧ char ≠ '-' := by
  constructor <;> rintro rfl <;> exact absurd digit (by decide)

/-- Digits are spanned up to the first character that is none. -/
theorem spanDigits_append {digits rest : Text} (each : ∀ char ∈ digits, char.isDigit)
    (stops : ∀ char ∈ rest.head?, char.isDigit = false)
    : spanDigits (digits ++ rest) = (digits, rest) :=
  span_eq_iff.mpr ⟨rfl, each, stops⟩

-----------------------------------------------------------------------------------------
-- Reading
-----------------------------------------------------------------------------------------

theorem isExponentTail_iff {text : Text} : isExponentTail text ↔ IsExponent text := by
  constructor
  · intro tail
    cases text with
    | nil => exact .none
    | cons mark rest =>
        obtain ⟨sign, signs, split⟩ := exists_sign rest
        simp only [isExponentTail, Bool.and_eq_true, Bool.or_eq_true, beq_iff_eq,
          Bool.not_eq_true', List.isEmpty_eq_false_iff, List.all_eq_true] at tail
        obtain ⟨⟨marks, nonempty⟩, each⟩ := tail
        rw [split]
        exact .digits marks signs nonempty each
  · intro exponent
    cases exponent with
    | none => rfl
    | @digits mark sign digits marks signs nonempty each =>
        have unsigned : ∀ char ∈ digits.head?, char ≠ '+' ∧ char ≠ '-' := fun char first =>
          not_sign_of_isDigit (each char (List.mem_of_mem_head? first))
        simp only [isExponentTail, dropSign_append signs unsigned]
        simpa [marks, nonempty] using each

theorem IsExponent.head_notDigit {text : Text} (exponent : IsExponent text)
    : ∀ char ∈ text.head?, char.isDigit = false ∧ char ≠ '.' := by
  cases exponent with
  | none => simp
  | digits marks =>
      rcases marks with rfl | rfl <;> simp

/-- A numeral without a sign is read exactly when the grammar has it. Witness: its digits are
those up to the first other character, which is the point or begins the exponent.
-/
theorem isUnsignedDecimal_iff {text : Text} : isUnsignedDecimal text ↔ IsUnsigned text := by
  constructor
  · intro decimal
    unfold isUnsignedDecimal at decimal
    cases run : spanDigits text with
    | mk whole rest =>
        obtain ⟨split, before, -⟩ := span_eq_iff.mp run
        rw [run] at decimal
        subst split
        dsimp only at decimal
        split at decimal
        · next rest =>
            cases run : spanDigits rest with
            | mk fraction tail =>
                obtain ⟨split, behind, -⟩ := span_eq_iff.mp run
                rw [run] at decimal
                subst split
                simp only [Bool.and_eq_true, Bool.or_eq_true, Bool.not_eq_true',
                  List.isEmpty_eq_false_iff, isExponentTail_iff] at decimal
                exact .point decimal.1 before behind decimal.2
        · next rest _ =>
            simp only [Bool.and_eq_true, Bool.not_eq_true', List.isEmpty_eq_false_iff,
              isExponentTail_iff] at decimal
            exact .whole decimal.1 before decimal.2
  · intro unsigned
    cases unsigned with
    | @whole digits exponent nonempty each tail =>
        have run := spanDigits_append each fun char first => (tail.head_notDigit char first).1
        unfold isUnsignedDecimal
        rw [run]
        dsimp only
        split
        · next rest =>
            exact absurd rfl (tail.head_notDigit '.' rfl).2
        · simp [nonempty, isExponentTail_iff.mpr tail]
    | @point whole fraction exponent nonempty before behind tail =>
        have first : spanDigits (whole ++ '.' :: (fraction ++ exponent))
            = (whole, '.' :: (fraction ++ exponent)) :=
          spanDigits_append before (by simp)
        have second := spanDigits_append behind fun char first => (tail.head_notDigit char first).1
        unfold isUnsignedDecimal
        rw [first]
        simpa [second, isExponentTail_iff.mpr tail] using nonempty

/-- What begins a numeral without a sign is no sign. -/
theorem IsUnsigned.head_notSign {text : Text} (unsigned : IsUnsigned text)
    : ∀ char ∈ text.head?, char ≠ '+' ∧ char ≠ '-' := by
  intro char first
  cases unsigned with
  | @whole digits exponent nonempty each tail =>
      cases digits with
      | nil => exact absurd rfl nonempty
      | cons digit digits =>
          obtain rfl := Option.some.inj first
          exact not_sign_of_isDigit (each _ List.mem_cons_self)
  | @point whole fraction exponent nonempty before behind tail =>
      cases whole with
      | nil =>
          obtain rfl := Option.some.inj first
          decide
      | cons digit digits =>
          obtain rfl := Option.some.inj first
          exact not_sign_of_isDigit (before _ List.mem_cons_self)

/-- No name of a number begins with a sign. -/
theorem head_notSign_of_sameLetters {name word : Text} (same : sameLetters name word)
    (plain : ∀ char ∈ word.head?, char ≠ '+' ∧ char ≠ '-')
    (lower : lower word = word)
    : ∀ char ∈ name.head?, char ≠ '+' ∧ char ≠ '-' := by
  rw [sameLetters, lower, beq_iff_eq] at same
  intro char first
  have head : char.toLower ∈ word.head? := by
    rw [← same, Text.lower, List.head?_map, first]
    rfl
  constructor <;> rintro rfl
  · exact (plain _ head).1 rfl
  · exact (plain _ head).2 rfl

/-- A text is taken for a number exactly when it is a decimal or names one. -/
theorem isFloatNumeral_iff {text : Text}
    : isFloatNumeral text ↔ IsDecimal text ∨ NamesNumber text := by
  have numeral (magnitude : Text)
      : isUnsignedDecimal magnitude || sameLetters magnitude "inf"
          || sameLetters magnitude "infinity" || sameLetters magnitude "nan"
        ↔ IsUnsigned magnitude
          ∨ (sameLetters magnitude "inf" ∨ sameLetters magnitude "infinity"
            ∨ sameLetters magnitude "nan") := by
    simp [isUnsignedDecimal_iff, or_assoc]
  simp only [isFloatNumeral, numeral]
  constructor
  · obtain ⟨sign, signs, split⟩ := exists_sign text
    rintro (unsigned | name)
    · exact .inl ⟨sign, _, split, signs, unsigned⟩
    · exact .inr ⟨sign, _, split, signs, name⟩
  · rintro (⟨sign, unsigned, rfl, signs, decimal⟩ | ⟨sign, name, rfl, signs, same⟩)
    · rw [dropSign_append signs decimal.head_notSign]
      exact .inl decimal
    · have unsigned : ∀ char ∈ name.head?, char ≠ '+' ∧ char ≠ '-' := by
        rcases same with same | same | same <;>
          exact head_notSign_of_sameLetters same (by simp) rfl
      rw [dropSign_append signs unsigned]
      exact .inr same

-----------------------------------------------------------------------------------------
-- The characters of numerals and names
-----------------------------------------------------------------------------------------

theorem mem_of_isSign {sign : Text} (signs : IsSign sign)
    : ∀ char ∈ sign, char = '+' ∨ char = '-' := by
  rcases signs with rfl | rfl | rfl <;> simp

theorem IsExponent.mem {text : Text} (exponent : IsExponent text)
    : ∀ char ∈ text, char.isDigit ∨ char ∈ ".eE+-".toList := by
  cases exponent with
  | none => simp
  | digits marks signs _ each =>
      intro char member
      rcases List.mem_cons.mp member with rfl | member
      · rcases marks with rfl | rfl <;> decide
      · rcases List.mem_append.mp member with inSign | digit
        · rcases mem_of_isSign signs char inSign with rfl | rfl <;> decide
        · exact .inl (each char digit)

theorem IsUnsigned.mem {text : Text} (unsigned : IsUnsigned text)
    : ∀ char ∈ text, char.isDigit ∨ char ∈ ".eE+-".toList := by
  intro char member
  cases unsigned with
  | whole _ each tail =>
      rcases List.mem_append.mp member with digit | behind
      · exact .inl (each char digit)
      · exact tail.mem char behind
  | point _ before behind tail =>
      simp only [List.mem_append, List.mem_cons] at member
      rcases member with digit | rfl | digit | last
      · exact .inl (before char digit)
      · decide
      · exact .inl (behind char digit)
      · exact tail.mem char last

theorem IsDecimal.mem {text : Text} (decimal : IsDecimal text)
    : ∀ char ∈ text, char.isDigit ∨ char ∈ ".eE+-".toList := by
  obtain ⟨sign, unsigned, rfl, signs, numeral⟩ := decimal
  intro char member
  rcases List.mem_append.mp member with inSign | behind
  · rcases mem_of_isSign signs char inSign with rfl | rfl <;> decide
  · exact numeral.mem char behind

/-- A decimal has a digit. -/
theorem IsDecimal.exists_digit {text : Text} (decimal : IsDecimal text)
    : ∃ char ∈ text, char.isDigit := by
  obtain ⟨sign, unsigned, rfl, -, numeral⟩ := decimal
  have first {digits : Text} (nonempty : digits ≠ []) (each : ∀ char ∈ digits, char.isDigit)
      : ∃ char ∈ digits, char.isDigit := by
    obtain ⟨char, member⟩ := List.exists_mem_of_ne_nil digits nonempty
    exact ⟨char, member, each char member⟩
  cases numeral with
  | whole nonempty each _ =>
      obtain ⟨char, member, digit⟩ := first nonempty each
      exact ⟨char, by simp [member], digit⟩
  | point nonempty before behind _ =>
      rcases nonempty with nonempty | nonempty
      · obtain ⟨char, member, digit⟩ := first nonempty before
        exact ⟨char, by simp [member], digit⟩
      · obtain ⟨char, member, digit⟩ := first nonempty behind
        exact ⟨char, by simp [member], digit⟩

/-- The names of numbers are spelled with few letters. -/
theorem NamesNumber.mem {text : Text} (names : NamesNumber text)
    : ∀ char ∈ text, char.toLower ∈ "+-infaty".toList := by
  obtain ⟨sign, name, rfl, signs, same⟩ := names
  intro char member
  rcases List.mem_append.mp member with inSign | inName
  · rcases mem_of_isSign signs char inSign with rfl | rfl <;> decide
  · have letter : char.toLower ∈ Text.lower name := List.mem_map_of_mem inName
    have spelled {word : Text} (same : sameLetters name word)
        (plain : Text.lower word ⊆ "+-infaty".toList)
        : char.toLower ∈ "+-infaty".toList := by
      rw [sameLetters, beq_iff_eq] at same
      exact plain (same ▸ letter)
    rcases same with same | same | same <;> exact spelled same (by decide)

theorem toLower_of_isDigit {char : Char} (digit : char.isDigit) : char.toLower = char := by
  unfold Char.toLower
  split
  · next bounds =>
      have small : char.val ≤ '9'.val := (Bool.and_eq_true_iff.mp digit).2 |> of_decide_eq_true
      have upper : 'A'.val ≤ '9'.val := UInt32.le_trans bounds.1 small
      exact absurd upper (by decide)
  · rfl

/-- No digit is among the letters of a name. -/
theorem NamesNumber.not_isDecimal {text : Text} (names : NamesNumber text)
    : ¬ IsDecimal text := by
  intro decimal
  obtain ⟨char, member, digit⟩ := decimal.exists_digit
  have letter := names.mem char member
  rw [toLower_of_isDigit digit] at letter
  have none : ∀ letter ∈ "+-infaty".toList, letter.isDigit = false := by simp
  exact absurd digit (by simp [none char letter])

end PageAudit.Text
