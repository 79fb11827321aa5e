import PageAudit.Markup.Element
import PageAudit.Proofs.Markup.Braces
import PageAudit.Proofs.Markup.RawText

/-! The slash at the end of a tag. It makes the tag a self-closing one, whatever the attributes are
that are read from the same text. A value without quotes goes on over slashes, so the last slash may
end a value as well. No other slash at the end of a tag belongs to an attribute.
-/

namespace PageAudit

namespace Attribute

/-- (Writes value text) says that a text writes a value: between quotes that the value does not
hold, in braces, or bare.
-/
inductive Writes : Written → Text → Prop where
  | quoted {quote value} (mark : quote = '"' ∨ quote = '\'') (closed : quote ∉ value)
    : Writes (.plain value) (quote :: (value ++ [quote]))
  | braced {expression} : Writes (.braced expression) ('{' :: (expression ++ ['}']))
  | bare {value} (nonempty : value ≠ []) (inValue : ∀ char ∈ value, isBarePart char)
    : Writes (.plain value) value

/-- An equals sign, which may have blanks around it. -/
def Assigns (text : Text) : Prop :=
  ∃ front behind, text = front ++ '=' :: behind ∧ ∀ char ∈ front ++ behind, Text.isBlank char

/-- (Spells read text) says that a text spells an attribute: a name, perhaps with an equals
sign and a value behind it.
-/
inductive Spells : Attribute → Text → Prop where
  | bare {name} (valid : IsName name) : Spells (ofWritten name none) name
  | assigned {name equals value text} (valid : IsName name) (assigns : Assigns equals)
    (writes : Writes value text)
    : Spells (ofWritten name (some value)) (name ++ (equals ++ text))

/-- (ReadAt read front taken behind) says that an attribute is read from the text
`front ++ (taken ++ behind)`, and that its characters are those in the middle.
-/
def ReadAt (read : Attribute) (front taken behind : Text) : Prop :=
  { start := Text.byteSize front, stop := Text.byteSize (front ++ taken), value := read }
    ∈ Text.hits pattern (front ++ (taken ++ behind))

/-- (EndSlash front text) says that a slash stands behind `front` in a text, and perhaps blanks
behind that slash, but nothing else.
-/
def EndSlash (front text : Text) : Prop :=
  ∃ blanks, text = front ++ '/' :: blanks ∧ ∀ char ∈ blanks, Text.isBlank char

/-- The slash at the end of a text belongs to an attribute that is read from the text. It is a part
of the value then, since no name and no equals sign holds a slash.
-/
def SlashTaken (text : Text) : Prop :=
  ∃ front,
    EndSlash front text
    ∧ ∃ hit ∈ Text.hits pattern text,
        hit.start ≤ Text.byteSize front ∧ Text.byteSize front < hit.stop

/-- The last attribute that is read from a text has a bare value that ends with a slash, and no more
than blanks stand behind it.
-/
def EndsInSlashedValue (text : Text) : Prop :=
  ∃ front name equals value blanks,
    text = front ++ ((name ++ (equals ++ (value ++ ['/']))) ++ blanks)
    ∧ Assigns equals
    ∧ (∀ char ∈ value, isBarePart char)
    ∧ (∀ char ∈ blanks, Text.isBlank char)
    ∧ ReadAt (ofWritten name (some (.plain (value ++ ['/'])))) front
        (name ++ (equals ++ (value ++ ['/']))) blanks

-----------------------------------------------------------------------------------------
-- The characters of an attribute
-----------------------------------------------------------------------------------------

section

variable {text after : Text} {value : Written}

theorem split_of_untilQuote? {quote : Char} {inner : Text}
    (found : untilQuote? quote text = some (inner, after))
    : text = inner ++ quote :: after ∧ quote ∉ inner := by
  unfold untilQuote? at found
  split at found
  · cases found
  · next first stop rest run =>
      obtain ⟨rfl, rfl⟩ := Prod.mk.inj (Option.some.inj found)
      obtain ⟨split, inRun, stops⟩ := Text.span_eq_iff.mp run
      obtain rfl : stop = quote := by simpa using stops stop rfl
      exact ⟨split, fun member => by simpa using inRun stop member⟩

/-- What is read up to a brace stands in front of one, by induction over the characters. -/
theorem split_of_untilBrace? {nested : Bool} {seen expression : Text}
    (found : untilBrace? nested seen text = some (expression, after))
    : ∃ inner, expression = seen.reverse ++ inner ∧ text = inner ++ '}' :: after := by
  induction text generalizing nested seen with
  | nil => cases found
  | cons char rest ih =>
      have longer {nested : Bool}
          (found : untilBrace? nested (char :: seen) rest = some (expression, after))
          : ∃ inner, expression = seen.reverse ++ inner ∧ char :: rest = inner ++ '}' :: after := by
        obtain ⟨inner, rfl, rfl⟩ := ih found
        exact ⟨char :: inner, by simp, rfl⟩
      rw [untilBrace?] at found
      split at found
      · split at found
        · cases found
        · exact longer found
      · split at found
        · next closer =>
            split at found
            · exact longer found
            · obtain ⟨rfl, rfl⟩ := Prod.mk.inj (Option.some.inj found)
              exact ⟨[], by simp, by rw [closer]; rfl⟩
        · exact longer found

theorem writes_of_bare? (found : bare? text = some (value, after))
    : ∃ taken, text = taken ++ after ∧ Writes value taken := by
  unfold bare? at found
  split at found
  · cases found
  · next taken rest nonempty run =>
      obtain ⟨rfl, rfl⟩ := Prod.mk.inj (Option.some.inj found)
      obtain ⟨split, inRun, -⟩ := Text.span_eq_iff.mp run
      exact ⟨taken, split, .bare (by simpa using nonempty) inRun⟩

theorem writes_of_value? (found : value? text = some (value, after))
    : ∃ taken, text = taken ++ after ∧ Writes value taken := by
  have quoted {quote : Char} {rest : Text} (mark : quote = '"' ∨ quote = '\'')
      (found : (untilQuote? quote rest).map (fun read => (.plain read.1, read.2))
        = some (value, after))
      : ∃ taken, quote :: rest = taken ++ after ∧ Writes value taken := by
    obtain ⟨⟨inner, behind⟩, read, same⟩ := Option.map_eq_some_iff.mp found
    obtain ⟨rfl, rfl⟩ := Prod.mk.inj same
    obtain ⟨rfl, closed⟩ := split_of_untilQuote? read
    exact ⟨quote :: (inner ++ [quote]), by simp, .quoted mark closed⟩
  unfold value? at found
  split at found
  · exact quoted (.inl rfl) found
  · exact quoted (.inr rfl) found
  · split at found
    · next expression behind read =>
        obtain ⟨rfl, rfl⟩ := Prod.mk.inj (Option.some.inj found)
        obtain ⟨expression, rfl, rfl⟩ := split_of_untilBrace? read
        exact ⟨'{' :: (expression ++ ['}']), by simp, .braced⟩
    · exact writes_of_bare? found
  · exact writes_of_bare? found

theorem writes_of_assigned? (found : assigned? text = some (value, after))
    : ∃ equals taken, text = equals ++ (taken ++ after) ∧ Assigns equals ∧ Writes value taken := by
  unfold assigned? at found
  split at found
  · next rest first =>
      obtain ⟨front, split, blank⟩ := Text.exists_blanks_trimStart text
      obtain ⟨behind, splitToo, blankToo⟩ := Text.exists_blanks_trimStart rest
      obtain ⟨taken, same, writes⟩ := writes_of_value? found
      refine ⟨front ++ '=' :: behind, taken, ?_, ⟨front, behind, rfl, ?_⟩, writes⟩
      · rw [split, first, splitToo, same]
        simp
      · exact List.forall_mem_append.mpr ⟨blank, blankToo⟩
  · cases found

/-- The characters that the pattern takes spell the attribute that it reads. -/
theorem spells_of_pattern {before : Option Char} {read : Attribute} {count : Nat}
    (matched : pattern before text = some (read, count))
    : ∃ taken behind, text = taken ++ behind ∧ count = taken.length ∧ Spells read taken := by
  cases text with
  | nil => cases matched
  | cons first text =>
      by_cases starts : isNameStart first
      · obtain ⟨name, behind, split, valid, stops⟩ := exists_name starts text
        rw [split] at matched ⊢
        cases found : assigned? behind with
        | none =>
            rw [pattern_bare before valid stops found] at matched
            obtain ⟨rfl, rfl⟩ := Prod.mk.inj (Option.some.inj matched)
            exact ⟨name, behind, rfl, rfl, .bare valid⟩
        | some hit =>
            obtain ⟨value, after⟩ := hit
            rw [pattern_assigned before valid stops found] at matched
            obtain ⟨rfl, rfl⟩ := Prod.mk.inj (Option.some.inj matched)
            obtain ⟨equals, taken, rfl, assigns, writes⟩ := writes_of_assigned? found
            refine ⟨name ++ (equals ++ taken), after, by simp, ?_, .assigned valid assigns writes⟩
            simp only [List.length_append]
            omega
      · simp [pattern, starts] at matched

/-- An attribute that is found in a text is read at a place where the text spells it. -/
theorem exists_readAt {hit : Text.Hit Attribute} (member : hit ∈ Text.hits pattern text)
    : ∃ front taken behind,
        text = front ++ (taken ++ behind)
        ∧ hit.start = Text.byteSize front
        ∧ hit.stop = Text.byteSize (front ++ taken)
        ∧ ReadAt hit.value front taken behind
        ∧ Spells hit.value taken := by
  obtain ⟨front, rest, count, rfl, start, stop, matched⟩ :=
    (Text.found_of_mem_hitsFrom member).matched
  obtain ⟨taken, behind, rfl, rfl, spells⟩ := spells_of_pattern matched
  rw [Nat.zero_add] at start
  rw [start, List.take_left, ← Text.byteSize_append] at stop
  refine ⟨front, taken, behind, rfl, start, stop, ?_, spells⟩
  rw [ReadAt, ← start, ← stop]
  exact member

end

-----------------------------------------------------------------------------------------
-- The last character of an attribute
-----------------------------------------------------------------------------------------

theorem solid_of_isBarePart {char : Char} (part : isBarePart char)
    : Text.isBlank char = false := by
  simp only [isBarePart, Bool.not_eq_true', Bool.or_eq_false_iff] at part
  exact part.1.1.1.1.1.1

/-- No value ends with a blank, and only a bare one ends with a slash. -/
theorem Writes.eq_concat {value : Written} {text : Text} (writes : Writes value text)
    : ∃ front last,
        text = front ++ [last]
        ∧ Text.isBlank last = false
        ∧ (last = '/' → value = .plain text ∧ ∀ char ∈ text, isBarePart char) := by
  cases writes with
  | @quoted quote value mark closed =>
      refine ⟨quote :: value, quote, rfl, ?_⟩
      rcases mark with rfl | rfl <;> simp <;> decide
  | @braced expression => exact ⟨'{' :: expression, '}', rfl, by decide, by simp⟩
  | bare nonempty inValue =>
      refine ⟨_, _, (List.dropLast_concat_getLast nonempty).symm, ?_, fun _ => ⟨rfl, inValue⟩⟩
      exact solid_of_isBarePart (inValue _ (List.getLast_mem nonempty))

/-- No attribute ends with a blank, and one that ends with a slash has a bare value. -/
theorem Spells.eq_concat {read : Attribute} {text : Text} (spells : Spells read text)
    : ∃ front last,
        text = front ++ [last]
        ∧ Text.isBlank last = false
        ∧ (last = '/' →
            ∃ name equals value,
              text = name ++ (equals ++ (value ++ ['/']))
              ∧ Assigns equals
              ∧ (∀ char ∈ value, isBarePart char)
              ∧ read = ofWritten name (some (.plain (value ++ ['/'])))) := by
  cases spells with
  | bare valid =>
      obtain ⟨front, last, same, solid, notSlash⟩ := valid.eq_concat
      exact ⟨front, last, same, solid, fun slash => absurd slash notSlash⟩
  | @assigned name equals value text valid assigns writes =>
      obtain ⟨front, last, rfl, solid, bare⟩ := writes.eq_concat
      refine ⟨name ++ (equals ++ front), last, by simp, solid, fun slash => ?_⟩
      subst slash
      obtain ⟨rfl, inValue⟩ := bare rfl
      exact ⟨name, equals, front, rfl, assigns, fun char member =>
        inValue char (List.mem_append_left _ member), rfl⟩

-----------------------------------------------------------------------------------------
-- The slash at the end
-----------------------------------------------------------------------------------------

/-- The slash at the end of a text belongs to an attribute exactly when it ends a bare value.
Witness: an attribute goes no further than to its last character, which is no blank.
-/
theorem slashTaken_iff {text : Text} : SlashTaken text ↔ EndsInSlashedValue text := by
  constructor
  · intro slashTaken
    obtain ⟨before, ⟨blanks, rfl, blank⟩, hit, member, -, stop⟩ := slashTaken
    obtain ⟨front, taken, behind, split, -, last, readAt, spells⟩ := exists_readAt member
    obtain ⟨others, final, same, solid, slashed⟩ := spells.eq_concat
    have less : Text.byteSize (before ++ ['/']) ≤ Text.byteSize (front ++ taken) := by
      have slash : Text.byteSize ['/'] = 1 := by decide
      rw [Text.byteSize_append, slash, ← last]
      omega
    have whole : (before ++ ['/']) ++ blanks = (front ++ taken) ++ behind := by simpa using split
    obtain ⟨more, ends, rest⟩ := Text.split_of_byteSize_le whole less
    rcases List.eq_nil_or_concat more with rfl | ⟨within, char, rfl⟩
    · obtain rfl : final = '/' := by
        have lasts := congrArg List.getLast? ends
        simpa [same] using lasts
      obtain ⟨name, equals, value, rfl, assigns, bare, read⟩ := slashed rfl
      obtain rfl : blanks = behind := by simpa using rest
      exact ⟨front, name, equals, value, blanks, split, assigns, bare, blank, read ▸ readAt⟩
    · obtain rfl : final = char := by
        have lasts := congrArg List.getLast? ends
        simpa [same, ← List.cons_append, ← List.append_assoc] using lasts
      have isBlank := blank final (by simp [rest])
      rw [solid] at isBlank
      cases isBlank
  · intro slashed
    obtain ⟨front, name, equals, value, blanks, rfl, -, -, blank, readAt⟩ := slashed
    refine ⟨front ++ (name ++ (equals ++ value)), ⟨blanks, by simp, blank⟩, _, readAt, ?_, ?_⟩
    · simp
    · have slash : 0 < '/'.utf8Size := by decide
      simp only [Text.byteSize_append, Text.byteSize_cons, Text.byteSize_nil]
      omega

theorem EndsInSlashedValue.endSlash {text : Text} (ends : EndsInSlashedValue text)
    : ∃ front, EndSlash front text := by
  obtain ⟨front, slash, -⟩ := slashTaken_iff.mpr ends
  exact ⟨front, slash⟩

end Attribute

open Attribute

/-- A lexeme without a slash in front makes a self-closing tag exactly when a slash ends its
attributes.
-/
theorem Lexeme.kind_eq_selfClosing_iff {lexeme : Lexeme}
    : lexeme.kind = .selfClosing
      ↔ lexeme.closing = false ∧ ∃ front, EndSlash front lexeme.attributes := by
  have solid : Text.isBlank '/' = false := by decide
  unfold kind
  cases lexeme.closing <;> simp [Text.getLast?_trimEnd_eq_some_iff solid, EndSlash]

namespace Markup

/-- A tag of a document that is no closing one is self-closing exactly when a slash stands at its
end. That slash belongs to an attribute as well exactly when an unquoted value ends with it. A
self-closing tag counts for no element whatever its name is, and what follows it is read as a
document of its own, also behind a script.
-/
theorem tokenize_endSlash {text : Text} {index : Nat} {tag : Tag}
    (here : (tokenize text)[index]? = some tag)
    : ∃ before, ∃ lexeme : Lexeme,
        text = before ++ (lexeme.written ++ lexeme.rest)
        ∧ tag = lexeme.tag (Text.byteSize before)
        ∧ (tag.kind = .selfClosing
          ↔ tag.kind ≠ .closing ∧ ∃ front, EndSlash front lexeme.attributes)
        ∧ (tag.kind = .selfClosing ∧ SlashTaken lexeme.attributes
          ↔ tag.kind ≠ .closing ∧ EndsInSlashedValue lexeme.attributes)
        ∧ (tag.kind = .selfClosing →
            (∀ void nesting,
              void.opensElement tag = false ∧ Nesting.feed void nesting tag = nesting)
            ∧ (tokenize text).drop (index + 1)
              = (tokenize lexeme.rest).map (·.moved tag.span.stop)) := by
  have start := Place.start_liesIn text
  obtain ⟨place, next, lies, step, behind⟩ := (scan_tokenize text).of_getElem? start here
  obtain ⟨before, split, offset⟩ := lies
  obtain ⟨lexeme, front, rfl, -⟩ := step.emits
  have open_iff : lexeme.kind ≠ .closing ↔ lexeme.closing = false := by
    rw [Ne, Lexeme.kind_eq_closing_iff, Bool.not_eq_true]
  have slash : lexeme.kind = .selfClosing
      ↔ lexeme.kind ≠ .closing ∧ ∃ front, EndSlash front lexeme.attributes := by
    rw [open_iff, Lexeme.kind_eq_selfClosing_iff]
  refine ⟨before, lexeme, ?_, by rw [offset], slash, ?_, ?_⟩
  · rw [split, ← front.text_eq]
  · rw [slashTaken_iff]
    constructor
    · intro both
      exact ⟨(slash.mp both.1).1, both.2⟩
    · intro both
      exact ⟨slash.mpr ⟨both.1, both.2.endSlash⟩, both.2⟩
  · intro kind
    have selfClosing : lexeme.kind = .selfClosing := kind
    have markup : Step place (some (lexeme.tag place.offset))
        (place.behind lexeme.written lexeme.rest) :=
      .markup front fun name begins => by cases selfClosing.symm.trans begins.opening
    obtain ⟨-, rfl⟩ := step.unique markup
    refine ⟨fun void nesting => ?_, ?_⟩
    · simp [Nesting.feed, VoidElements.opensElement, VoidElements.closesElement, kind]
    · rw [behind]
      simp [Place.behind, Lexeme.tag, Lexeme.byteSize_written]

/-- A slash behind a quoted value is no part of it, and a script that it closes has no raw text. -/
theorem tokenize_endSlash_script
    : let text : Text := "<script src='/js/' /><b>"
      let tag : Tag :=
        { kind := .selfClosing, name := "script", span := { start := 0, stop := 21 },
          attributes := [{ name := "src", value := some "/js/" }] }
      (tokenize text)[0]? = some tag
      ∧ ∃ before, ∃ lexeme : Lexeme,
          text = before ++ (lexeme.written ++ lexeme.rest)
          ∧ tag = lexeme.tag (Text.byteSize before)
          ∧ (tag.kind = .selfClosing
            ↔ tag.kind ≠ .closing ∧ ∃ front, EndSlash front lexeme.attributes)
          ∧ (tag.kind = .selfClosing ∧ SlashTaken lexeme.attributes
            ↔ tag.kind ≠ .closing ∧ EndsInSlashedValue lexeme.attributes)
          ∧ (tag.kind = .selfClosing →
              (∀ void nesting,
                void.opensElement tag = false ∧ Nesting.feed void nesting tag = nesting)
              ∧ (tokenize text).drop 1 = (tokenize lexeme.rest).map (·.moved 21)) := by
  intro text tag
  have here : (tokenize text)[0]? = some tag := by decide +kernel
  exact ⟨here, tokenize_endSlash here⟩

/-- The slash of an address without quotes ends the address, and it closes the link as well. -/
theorem tokenize_slashed_address
    : let attributes : Text := " href=/docs/"
      let text : Text := "<a".toList ++ (attributes ++ ['>'])
      let tag : Tag :=
        { kind := .selfClosing, name := "a", span := { start := 0, stop := 15 },
          attributes := [{ name := "href", value := some "/docs/" }] }
      tokenize text = [tag]
      ∧ SlashTaken attributes
      ∧ VoidElements.html.elementCount (tokenize text) = 0
      ∧ (Nesting.ofTags .html (tokenize text)).depth = 0 := by
  intro attributes text tag
  have slash : EndSlash " href=/docs".toList attributes := ⟨[], by decide, by simp⟩
  have stream : tokenize text = [tag] := by decide +kernel
  rw [stream]
  exact ⟨rfl, ⟨_, slash, by decide +kernel⟩, by decide, by decide⟩

/-- Behind a script whose address ends so, a tag in its content is read as markup. -/
example
    : (tokenize "<script src=/js/>'<b>'</script>".toList)[1]?
      = some { kind := .opening, name := "b", span := { start := 18, stop := 21 },
               attributes := [] } := by
  decide +kernel

end Markup

end PageAudit
