import PageAudit.Markup.Lexeme
import PageAudit.Proofs.Text.Boundary
import PageAudit.Proofs.Text.Run

/-! The grammar of a tag as written, and the lexeme that reading finds at the front of a text:
it is the one that the grammar describes, and there is no other one.
-/

namespace PageAudit.Lexeme

-----------------------------------------------------------------------------------------
-- The grammar
-----------------------------------------------------------------------------------------

/-- A name begins with a letter, and each of its characters may stand in a name. -/
def IsName (name : Text) : Prop :=
  name.head?.any Char.isAlpha ∧ name.all isNamePart

instance (name : Text) : Decidable (IsName name) :=
  inferInstanceAs (Decidable (_ ∧ _))

/-- The characters that begin and end a run: two equal quotes, or two braces. -/
inductive Delimits : Char → Char → Prop where
  | double : Delimits '"' '"'
  | single : Delimits '\'' '\''
  | braces : Delimits '{' '}'

/-- A plain character neither begins a run nor ends a lexeme. -/
structure IsPlain (char : Char) : Prop where
  inside : char ≠ '>'
  opensNone : ∀ closer, ¬ Delimits char closer

/-- Every quoted and every braced run of a text is closed, and no `>` stands outside of them. A
brace is closed by the next closing brace.
-/
inductive Runs : Text → Prop where
  | nil : Runs []
  | plain {char rest} (plain : IsPlain char) (next : Runs rest) : Runs (char :: rest)
  | closed {opener closer inner rest} (pair : Delimits opener closer) (first : closer ∉ inner)
    (next : Runs rest)
    : Runs (opener :: (inner ++ closer :: rest))

/-- The characters of a lexeme, from its `<` to its `>`. -/
def written (lexeme : Lexeme) : Text :=
  '<' :: (if lexeme.closing then ['/'] else []) ++ lexeme.name ++ lexeme.attributes ++ ['>']

/-- A lexeme is one way to take a tag from the front of a text. -/
structure Fits (lexeme : Lexeme) (text : Text) : Prop where
  text_eq : text = lexeme.written ++ lexeme.rest
  name : IsName lexeme.name
  runs : Runs lexeme.attributes

/-- A lexeme stands at the front of a text when it fits there with the longest possible name. The
text of its attributes ends at the first `>` outside of all runs.
-/
structure AtFront (lexeme : Lexeme) (text : Text) : Prop extends Fits lexeme text where
  longest : ∀ char ∈ lexeme.attributes.head?, isNamePart char = false

/-- Characters of a kind are plain when no mark of a run and no `>` is of that kind. -/
theorem plain_of_kind {kind : Char → Bool}
    (excluded : kind '>' = false ∧ kind '"' = false ∧ kind '\'' = false ∧ kind '{' = false)
    {char : Char} (member : kind char)
    : IsPlain char := by
  obtain ⟨noEnd, noDouble, noSingle, noBrace⟩ := excluded
  refine { inside := ?_, opensNone := ?_ }
  · rintro rfl
    simp [noEnd] at member
  · intro closer pair
    cases pair with
    | double => simp [noDouble] at member
    | single => simp [noSingle] at member
    | braces => simp [noBrace] at member

/-- Plain characters in front of runs are runs as well. -/
theorem Runs.append {text rest : Text} (runs : Runs rest) (plain : ∀ char ∈ text, IsPlain char)
    : Runs (text ++ rest) := by
  induction text with
  | nil => exact runs
  | cons char text ih =>
      exact .plain (plain char List.mem_cons_self)
        (ih (fun other member => plain other (.tail _ member)))

theorem byteSize_written (lexeme : Lexeme) : Text.byteSize lexeme.written = lexeme.byteSize := by
  have ascii : '<'.utf8Size = 1 ∧ '/'.utf8Size = 1 ∧ '>'.utf8Size = 1 := by decide
  cases same : lexeme.closing <;> simp [written, byteSize, same, ascii] <;> omega

-----------------------------------------------------------------------------------------
-- Reading the text of the attributes
-----------------------------------------------------------------------------------------

/-- The delimiters are those that reading looks for. -/
theorem closer?_eq_some_iff {opener closer : Char}
    : closer? opener = some closer ↔ Delimits opener closer := by
  constructor
  · intro found
    unfold closer? at found
    split at found
    · next quote =>
        obtain rfl := Option.some.inj found
        rcases quote with rfl | rfl
        · exact .double
        · exact .single
    · split at found
      · next brace =>
          subst brace
          obtain rfl := Option.some.inj found
          exact .braces
      · cases found
  · intro pair
    cases pair <;> rfl

/-- What reading takes from within a run: its rest with the awaited closer, then closed runs. -/
def RunsFrom : Option Char → Text → Prop
  | none, text => Runs text
  | some closer, text =>
      ∃ inner rest, text = inner ++ closer :: rest ∧ closer ∉ inner ∧ Runs rest

/-- The runs of a text go on behind its first character as that character demands. -/
theorem Runs.cons {char : Char} {rest : Text} (inside : char ≠ '>')
    (next : RunsFrom (closer? char) rest)
    : Runs (char :: rest) := by
  cases awaited : closer? char with
  | none =>
      rw [awaited] at next
      refine .plain { inside, opensNone := fun closer pair => ?_ } next
      simp [closer?_eq_some_iff.mpr pair] at awaited
  | some closer =>
      rw [awaited] at next
      obtain ⟨inner, rest, rfl, first, runs⟩ := next
      exact .closed (closer?_eq_some_iff.mp awaited) first runs

/-- Within a run a character other than the awaited one belongs to it. -/
theorem RunsFrom.cons_some {closer char : Char} {rest : Text}
    (next : RunsFrom (if char = closer then none else some closer) rest)
    : RunsFrom (some closer) (char :: rest) := by
  by_cases same : char = closer
  · subst same
    rw [if_pos rfl] at next
    exact ⟨[], rest, rfl, List.not_mem_nil, next⟩
  · rw [if_neg same] at next
    obtain ⟨inner, rest, rfl, first, runs⟩ := next
    refine ⟨char :: inner, rest, rfl, ?_, runs⟩
    simp [first, Ne.symm same]

/-- What is read up to the end of a lexeme are runs, by induction over the characters. -/
theorem runsFrom_of_untilEnd? {awaited : Option Char} {seen text attributes rest : Text}
    (found : untilEnd? awaited seen text = some (attributes, rest))
    : ∃ inner,
        attributes = seen.reverse ++ inner
        ∧ text = inner ++ '>' :: rest
        ∧ RunsFrom awaited inner := by
  induction text generalizing awaited seen with
  | nil => cases awaited <;> simp [untilEnd?] at found
  | cons char text ih =>
      cases awaited with
      | none =>
          rw [untilEnd?] at found
          split at found
          · next last =>
              subst last
              obtain ⟨rfl, rfl⟩ := Prod.mk.inj (Option.some.inj found)
              exact ⟨[], by simp, rfl, Runs.nil⟩
          · next inside =>
              obtain ⟨inner, rfl, rfl, next⟩ := ih found
              exact ⟨char :: inner, by simp, rfl, Runs.cons inside next⟩
      | some closer =>
          rw [untilEnd?] at found
          obtain ⟨inner, rfl, rfl, next⟩ := ih found
          exact ⟨char :: inner, by simp, rfl, RunsFrom.cons_some next⟩

theorem untilEnd?_some {closer : Char} {seen inner rest : Text} (first : closer ∉ inner)
    : untilEnd? (some closer) seen (inner ++ closer :: rest)
      = untilEnd? none (closer :: (inner.reverse ++ seen)) rest := by
  induction inner generalizing seen with
  | nil => simp [untilEnd?]
  | cons char inner ih =>
      obtain ⟨other, first⟩ := List.ne_and_not_mem_of_not_mem_cons first
      simp [untilEnd?, Ne.symm other, ih first]

/-- Runs are read to the `>` behind them, by induction over the runs. -/
theorem untilEnd?_of_runs {seen attributes rest : Text} (runs : Runs attributes)
    : untilEnd? none seen (attributes ++ '>' :: rest)
      = some (seen.reverse ++ attributes, rest) := by
  induction runs generalizing seen with
  | nil => simp [untilEnd?]
  | @plain char attributes plain _ ih =>
      have awaited : closer? char = none := by
        cases found : closer? char with
        | none => rfl
        | some closer => exact absurd (closer?_eq_some_iff.mp found) (plain.opensNone closer)
      simp [untilEnd?, plain.inside, awaited, ih]
  | @closed opener closer inner attributes pair first _ ih =>
      have inside : opener ≠ '>' := by cases pair <;> decide
      simp [untilEnd?, inside, closer?_eq_some_iff.mpr pair, untilEnd?_some first, ih]

/-- Reading up to the end of a lexeme succeeds exactly on runs with a `>` behind them. -/
theorem untilEnd?_eq_some_iff {text attributes rest : Text}
    : untilEnd? none [] text = some (attributes, rest)
      ↔ text = attributes ++ '>' :: rest ∧ Runs attributes := by
  constructor
  · intro found
    obtain ⟨inner, rfl, rfl, runs⟩ := runsFrom_of_untilEnd? found
    exact ⟨rfl, runs⟩
  · rintro ⟨rfl, runs⟩
    exact untilEnd?_of_runs runs

-----------------------------------------------------------------------------------------
-- Reading a lexeme
-----------------------------------------------------------------------------------------

theorem IsName.eq_cons {name : Text} (valid : IsName name)
    : ∃ first rest, name = first :: rest ∧ first.isAlpha := by
  obtain ⟨letter, _⟩ := valid
  cases name with
  | nil => simp at letter
  | cons first rest => exact ⟨first, rest, rfl, by simpa using letter⟩

theorem ne_slash_of_isAlpha {char : Char} (letter : char.isAlpha) : char ≠ '/' := by
  rintro rfl
  exact absurd letter (by decide)

theorem longest_concat {attributes : Text}
    (longest : ∀ char ∈ attributes.head?, isNamePart char = false) (rest : Text)
    : ∀ char ∈ (attributes ++ '>' :: rest).head?, isNamePart char = false := by
  cases attributes with
  | nil => simpa using (by decide : isNamePart '>' = false)
  | cons first attributes => simpa using longest

theorem longest_of_concat {attributes rest : Text}
    (longest : ∀ char ∈ (attributes ++ '>' :: rest).head?, isNamePart char = false)
    : ∀ char ∈ attributes.head?, isNamePart char = false := by
  cases attributes with
  | nil => simp
  | cons first attributes => simpa using longest

/-- A run of the characters of names that begins with a letter is a name. -/
theorem isName_of_split {first : Char} {text name rest : Text}
    (split : first :: text = name ++ rest) (letter : first.isAlpha)
    (inName : ∀ char ∈ name, isNamePart char)
    (stops : ∀ char ∈ rest.head?, isNamePart char = false)
    : IsName name := by
  refine ⟨?_, List.all_eq_true.mpr inName⟩
  cases name with
  | nil =>
      rw [List.nil_append] at split
      have notPart : isNamePart first = false := stops first (by simp [← split])
      simp [isNamePart, Char.isAlphanum, letter] at notPart
  | cons char name =>
      obtain ⟨rfl, -⟩ := List.cons.inj split
      simpa using letter

/-- Behind `<` or `</` a lexeme is read exactly where a name with runs and a `>` stands. -/
theorem named?_eq_some_iff {closing : Bool} {text : Text} {lexeme : Lexeme}
    : named? closing text = some lexeme
      ↔ lexeme.closing = closing
        ∧ text = lexeme.name ++ (lexeme.attributes ++ '>' :: lexeme.rest)
        ∧ IsName lexeme.name
        ∧ (∀ char ∈ lexeme.attributes.head?, isNamePart char = false)
        ∧ Runs lexeme.attributes := by
  constructor
  · intro found
    cases text with
    | nil => simp [named?] at found
    | cons first text =>
        rw [named?] at found
        split at found
        · next letter =>
            cases run : (first :: text).span isNamePart with
            | mk name behind =>
                rw [run] at found
                obtain ⟨⟨attributes, rest⟩, ended, rfl⟩ := Option.map_eq_some_iff.mp found
                obtain ⟨rfl, runs⟩ := untilEnd?_eq_some_iff.mp ended
                obtain ⟨split, inName, stops⟩ := Text.span_eq_iff.mp run
                exact ⟨rfl, split, isName_of_split split letter inName stops,
                  longest_of_concat stops, runs⟩
        · cases found
  · rintro ⟨rfl, rfl, name, longest, runs⟩
    obtain ⟨first, others, split, letter⟩ := name.eq_cons
    have run : (lexeme.name ++ (lexeme.attributes ++ '>' :: lexeme.rest)).span isNamePart
        = (lexeme.name, lexeme.attributes ++ '>' :: lexeme.rest) :=
      Text.span_eq_iff.mpr
        ⟨rfl, List.all_eq_true.mp name.2, longest_concat longest lexeme.rest⟩
    rw [split] at run ⊢
    rw [List.cons_append] at run ⊢
    rw [named?, if_pos letter, run]
    simp only [untilEnd?_of_runs runs]
    simp [← split]

/-- The lexeme that is read at the front of a text is the one that the grammar has there. -/
theorem ofFront?_eq_some_iff {text : Text} {lexeme : Lexeme}
    : ofFront? text = some lexeme ↔ lexeme.AtFront text := by
  constructor
  · intro found
    unfold ofFront? at found
    split at found
    · next rest =>
        obtain ⟨closing, rfl, name, longest, runs⟩ := named?_eq_some_iff.mp found
        exact ⟨⟨by simp [written, closing], name, runs⟩, longest⟩
    · next rest _ =>
        obtain ⟨closing, rfl, name, longest, runs⟩ := named?_eq_some_iff.mp found
        exact ⟨⟨by simp [written, closing], name, runs⟩, longest⟩
    · cases found
  · rintro ⟨⟨rfl, name, runs⟩, longest⟩
    obtain ⟨first, others, split, letter⟩ := name.eq_cons
    have notSlash := ne_slash_of_isAlpha letter
    cases closing : lexeme.closing with
    | true =>
        simp only [written, closing, if_true, List.cons_append, List.nil_append,
          List.append_assoc, ofFront?]
        exact named?_eq_some_iff.mpr ⟨closing, rfl, name, longest, runs⟩
    | false =>
        have named : named? false (lexeme.name ++ (lexeme.attributes ++ '>' :: lexeme.rest))
            = some lexeme :=
          named?_eq_some_iff.mpr ⟨closing, rfl, name, longest, runs⟩
        rw [split] at named
        simp only [written, closing, split, Bool.false_eq_true, if_false, List.cons_append,
          List.nil_append, List.append_assoc]
        rw [ofFront?]
        · exact named
        · intro rest same
          exact notSlash (List.cons.inj same).1

theorem AtFront.unique {text : Text} {first second : Lexeme} (here : first.AtFront text)
    (also : second.AtFront text)
    : first = second :=
  Option.some.inj ((ofFront?_eq_some_iff.mpr here).symm.trans (ofFront?_eq_some_iff.mpr also))

-----------------------------------------------------------------------------------------
-- Other ways to take a tag
-----------------------------------------------------------------------------------------

theorem Runs.of_cons {char : Char} {rest : Text} (runs : Runs (char :: rest))
    (plain : IsPlain char)
    : Runs rest := by
  generalize same : char :: rest = text at runs
  cases runs with
  | nil => cases same
  | plain _ next => exact (List.cons.inj same).2 ▸ next
  | closed pair _ _ =>
      obtain ⟨rfl, -⟩ := List.cons.inj same
      exact absurd pair (plain.opensNone _)

/-- The runs behind plain characters are runs on their own. -/
theorem Runs.of_append {more others : Text} (runs : Runs (more ++ others))
    (plain : ∀ char ∈ more, IsPlain char)
    : Runs others := by
  induction more with
  | nil => exact runs
  | cons char more ih =>
      exact ih (runs.of_cons (plain char List.mem_cons_self))
        (fun other member => plain other (.tail _ member))

/-- Every way to take a tag takes the same characters. Witness: a shorter name leaves its other
characters to the attributes, where they are plain, so the longest name takes them back.
-/
theorem Fits.exists_atFront {lexeme : Lexeme} {text : Text} (fits : lexeme.Fits text)
    : ∃ whole : Lexeme,
        whole.AtFront text
        ∧ whole.closing = lexeme.closing
        ∧ lexeme.name <+: whole.name
        ∧ whole.rest = lexeme.rest := by
  obtain ⟨rfl, name, runs⟩ := fits
  cases run : lexeme.attributes.span isNamePart with
  | mk more others =>
      obtain ⟨split, inName, longest⟩ := Text.span_eq_iff.mp run
      rw [split] at runs
      have alone := runs.of_append fun char member =>
        plain_of_kind (by decide) (inName char member)
      refine ⟨{ lexeme with name := lexeme.name ++ more, attributes := others },
        ⟨⟨by simp [written, split], ?_, alone⟩, longest⟩, rfl, List.prefix_append _ _, rfl⟩
      obtain ⟨first, rest, same, letter⟩ := name.eq_cons
      refine ⟨by simp [same, letter], ?_⟩
      rw [List.all_append, name.2, Bool.true_and]
      exact List.all_eq_true.mpr inName

/-- Where reading finds no lexeme, no lexeme fits in any way. -/
theorem ofFront?_eq_none_iff {text : Text}
    : ofFront? text = none ↔ ∀ lexeme : Lexeme, ¬ lexeme.Fits text := by
  constructor
  · intro missing lexeme fits
    obtain ⟨whole, here, -⟩ := fits.exists_atFront
    rw [ofFront?_eq_some_iff.mpr here] at missing
    cases missing
  · intro none
    cases found : ofFront? text with
    | none => rfl
    | some lexeme => exact absurd (ofFront?_eq_some_iff.mp found).toFits (none lexeme)

end PageAudit.Lexeme
