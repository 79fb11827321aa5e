import Mathlib.Data.List.Infix
import PageAudit.Proofs.Rule.Catalogue
import PageAudit.Proofs.Rule.Reporting
import PageAudit.Proofs.Text.Hits
import PageAudit.Proofs.Text.Keyword
import PageAudit.Proofs.Text.Trim

/-! Which font rules are reported. In a text that consists of font rules with any other text between
them the search finds these rules and nothing else, and each is looked at for itself.
-/

namespace PageAudit.Rule

-----------------------------------------------------------------------------------------
-- Font rules as they are written
-----------------------------------------------------------------------------------------

/-- The keyword of font rules stands in a text, in any case. -/
def NamesFontFace (text : Text) : Prop :=
  "@font-face".toList <:+: Text.lower text

instance (text : Text) : Decidable (NamesFontFace text) :=
  inferInstanceAs (Decidable (_ <:+: _))

/-- A font rule: its keyword in any case, perhaps blanks, and braces around a body without a closing
brace.
-/
structure FontFace where
  keyword : Text
  blanks : Text
  body : Text
  named : Text.sameLetters keyword "@font-face"
  blank : blanks.all Text.isBlank
  unclosed : '}' ∉ body

/-- A font rule behind a text that does not hold the keyword. -/
structure FontStretch where
  gap : Text
  face : FontFace
  free : ¬ NamesFontFace gap

/-- A text of font rules, with other text in front of each and behind the last. -/
structure FontText where
  stretches : List FontStretch
  last : Text
  free : ¬ NamesFontFace last

namespace FontFace

/-- The rule as it stands in a text. -/
def written (face : FontFace) : Text :=
  face.keyword ++ (face.blanks ++ '{' :: (face.body ++ ['}']))

theorem lower_keyword (face : FontFace)
    : Text.lower face.keyword = '@' :: "font-face".toList := by
  have lower : Text.lower "@font-face" = '@' :: "font-face".toList := by decide
  have named := face.named
  rwa [Text.sameLetters, lower, beq_iff_eq] at named

theorem spells_keyword (face : FontFace)
    : Text.Spells ('@' :: "font-face".toList) face.keyword :=
  (Text.spells_iff (by decide)).mpr face.lower_keyword

theorem written_ne_nil (face : FontFace) : face.written ≠ [] := by
  simp [written]

theorem getLast?_written (face : FontFace) : face.written.getLast? = some '}' := by
  simp [written, List.getLast?_cons]

/-- A font rule is matched as a whole, whatever follows. -/
theorem fontFace_written (face : FontFace) (before : Option Char) (rest : Text)
    : fontFace before (face.written ++ rest) = some (face.written, face.written.length) := by
  have spells := face.spells_keyword
  have brace : Text.isBlank '{' = false := by decide
  have after : Text.afterKeyword? "@font-face" (face.written ++ rest)
      = some (face.blanks ++ '{' :: (face.body ++ '}' :: rest)) := by
    simpa [written] using spells.afterKeyword? (face.blanks ++ '{' :: (face.body ++ '}' :: rest))
  have blanks : (face.blanks ++ '{' :: (face.body ++ '}' :: rest)).span Text.isBlank
      = (face.blanks, '{' :: (face.body ++ '}' :: rest)) :=
    Text.span_eq_iff.mpr ⟨rfl, List.all_eq_true.mp face.blank, by simpa using brace⟩
  have body : (face.body ++ '}' :: rest).span (· != '}') = (face.body, '}' :: rest) := by
    refine Text.span_eq_iff.mpr ⟨rfl, fun char member => ?_, by simp⟩
    rw [bne_iff_ne]
    rintro rfl
    exact face.unclosed member
  have count : "@font-face".length + face.blanks.length + face.body.length + 2
      = face.written.length := by
    have same : "@font-face".length = face.keyword.length := spells.length_eq
    simp only [written, same, List.length_append, List.length_cons, List.length_nil]
    omega
  rw [fontFace, after, Option.bind_some]
  simp only [blanks, body, count, List.take_left]

end FontFace

/-- A font rule with its span. -/
structure PlacedFace where
  span : Span
  face : FontFace

/-- What the search tells about a font rule in its place. -/
def PlacedFace.hit (placed : PlacedFace) : Text.Hit Text :=
  { start := placed.span.start, stop := placed.span.stop, value := placed.face.written }

namespace FontStretch

/-- Font rules with the texts in front of them, and the text behind the last. -/
def writtenAll (last : Text) : List FontStretch → Text
  | [] => last
  | stretch :: others => stretch.gap ++ (stretch.face.written ++ writtenAll last others)

/-- (placed offset stretches) lists the font rules of a text that stands at an offset, each with the
span from its keyword up to its closing brace.
-/
def placed : Nat → List FontStretch → List PlacedFace
  | _, [] => []
  | offset, stretch :: others =>
      let start := offset + Text.byteSize stretch.gap
      let stop := start + Text.byteSize stretch.face.written
      { span := { start, stop }, face := stretch.face } :: placed stop others

end FontStretch

/-- The text with its font rules. -/
def FontText.written (text : FontText) : Text :=
  FontStretch.writtenAll text.last text.stretches

-----------------------------------------------------------------------------------------
-- The search for font rules
-----------------------------------------------------------------------------------------

/-- What begins like a font rule begins with the keyword. -/
theorem exists_keyword_of_matches {text : Text} (found : Text.Matches fontFace text)
    : ∃ keyword rest, text = keyword ++ rest
      ∧ Text.lower keyword = '@' :: "font-face".toList := by
  obtain ⟨before, found⟩ := found
  obtain ⟨value, found⟩ := Option.isSome_iff_exists.mp found
  obtain ⟨rest, after, -⟩ := Option.bind_eq_some_iff.mp found
  obtain ⟨keyword, split, spells⟩ := Text.afterKeyword?_eq_some_iff.mp after
  exact ⟨keyword, rest, split, (Text.spells_iff (by decide)).mp spells⟩

/-- No font rule begins within a text without the keyword, not even one that reaches into what
follows: the first character of the keyword stands nowhere else in it.
-/
theorem clear_of_free {gap rest : Text} (free : ¬ NamesFontFace gap)
    (ahead : ∀ char ∈ rest.head?, char.toLower = '@')
    : Text.Clear (Text.Matches fontFace) gap rest := by
  rintro later ⟨front, rfl⟩ nonempty found
  obtain ⟨keyword, more, split, lower⟩ := exists_keyword_of_matches found
  have inside (behind : Text) (whole : later = keyword ++ behind) : False := by
    have keyword : "@font-face".toList = '@' :: "font-face".toList := by decide
    refine free ⟨Text.lower front, Text.lower behind, ?_⟩
    rw [whole, keyword, ← lower]
    simp [Text.lower]
  rcases List.append_eq_append_iff.mp split with ⟨reached, rfl, ending⟩ | ⟨behind, whole, -⟩
  · cases reached with
    | nil => exact inside [] (by simp)
    | cons char reached =>
        -- the keyword goes on behind the text, with a character that only begins it
        have sign : char.toLower = '@' := ahead char (by rw [ending]; rfl)
        cases later with
        | nil => exact nonempty rfl
        | cons first later =>
            have second : '@' ∈ "font-face".toList := by
              rw [← (List.cons.inj lower).2, ← sign]
              simp
            exact absurd second (by decide)
  · exact inside behind whole

/-- A font rule begins with the first character of the keyword. -/
theorem head?_written (face : FontFace) (rest : Text)
    : ∀ char ∈ (face.written ++ rest).head?, char.toLower = '@' := by
  intro char first
  have lower := face.lower_keyword
  cases keyword : face.keyword with
  | nil =>
      rw [keyword] at lower
      cases lower
  | cons head others =>
      rw [keyword] at lower
      rw [FontFace.written, keyword] at first
      obtain rfl := Option.some.inj first
      exact (List.cons.inj lower).1

/-- The search finds the font rules in their places, by induction over them. -/
theorem hitsFrom_writtenAll {last : Text} (free : ¬ NamesFontFace last)
    (stretches : List FontStretch) (offset : Nat) (before : Option Char)
    : Text.hitsFrom fontFace 0 offset before (FontStretch.writtenAll last stretches)
      = (FontStretch.placed offset stretches).map (·.hit) := by
  induction stretches generalizing offset before with
  | nil =>
      have clear : Text.Clear (Text.Matches fontFace) last [] := clear_of_free free (by simp)
      have passed := Text.hitsFrom_clear clear offset before
      rw [List.append_nil] at passed
      exact passed
  | cons stretch others ih =>
      have clear := clear_of_free stretch.free
        (head?_written stretch.face (FontStretch.writtenAll last others))
      rw [FontStretch.writtenAll, Text.hitsFrom_clear clear,
        Text.hitsFrom_some stretch.face.written_ne_nil (stretch.face.fontFace_written _ _), ih]
      rfl

-----------------------------------------------------------------------------------------
-- Declarations within a font rule
-----------------------------------------------------------------------------------------

/-- (AtSwap text after) says that a text begins with a declaration that text is shown in another font
first, in any case and with any blanks around the colon, and goes on with `after`.
-/
def AtSwap (text after : Text) : Prop :=
  ∃ name outer inner value,
    text = name ++ (outer ++ ':' :: (inner ++ (value ++ after)))
    ∧ Text.Spells "font-display" name
    ∧ (∀ char ∈ outer, Text.isBlank char)
    ∧ (∀ char ∈ inner, Text.isBlank char)
    ∧ Text.Spells "swap" value

/-- A text declares somewhere that text is shown in another font first. A character that belongs to
no word stands behind the declaration.
-/
def DeclaresSwap (text : Text) : Prop :=
  ∃ front rest next after,
    text = front ++ rest ∧ AtSwap rest (next :: after) ∧ Text.isWordChar next = false

/-- What is matched begins with the declaration, and no word goes on behind it. -/
theorem exists_atSwap_of_fontSwap {before : Option Char} {text : Text}
    (matched : (fontSwap before text).isSome)
    : ∃ after, AtSwap text after ∧ ∀ char ∈ after.head?, Text.isWordChar char = false := by
  obtain ⟨_, found⟩ := Option.isSome_iff_exists.mp matched
  obtain ⟨rest, first, goesOn⟩ := Option.bind_eq_some_iff.mp found
  obtain ⟨name, split, spellsName⟩ := Text.afterKeyword?_eq_some_iff.mp first
  split at goesOn
  · next behind colon =>
      obtain ⟨after, second, ends⟩ := Option.bind_eq_some_iff.mp goesOn
      obtain ⟨value, valued, spellsValue⟩ := Text.afterKeyword?_eq_some_iff.mp second
      obtain ⟨outer, outside, blankOuter⟩ := Text.exists_blanks_trimStart rest
      obtain ⟨inner, inside, blankInner⟩ := Text.exists_blanks_trimStart behind
      rw [valued] at inside
      rw [colon, inside] at outside
      have apart := (Option.ite_none_left_eq_some.mp ends).1
      refine ⟨after, ⟨name, outer, inner, value, split.trans (by rw [outside]), spellsName,
        blankOuter, blankInner, spellsValue⟩, fun char next => ?_⟩
      simpa [Option.mem_def.mp next] using apart
  · cases goesOn

/-- The declaration is matched where it stands, unless a word goes on behind it. -/
theorem AtSwap.isSome_fontSwap {text after : Text} (declares : AtSwap text after)
    (apart : ∀ char ∈ after.head?, Text.isWordChar char = false) (before : Option Char)
    : (fontSwap before text).isSome := by
  obtain ⟨name, outer, inner, value, rfl, spellsName, outside, inside, spellsValue⟩ := declares
  have colon : Text.isBlank ':' = false := by decide
  have toColon : Text.trimStart (outer ++ ':' :: (inner ++ (value ++ after)))
      = ':' :: (inner ++ (value ++ after)) := by
    rw [Text.trimStart_append outside, Text.trimStart_eq_self (by simpa using colon)]
  have toValue : Text.trimStart (inner ++ (value ++ after)) = value ++ after := by
    rw [Text.trimStart_append inside]
    refine Text.trimStart_eq_self fun char first => ?_
    rw [List.head?_append_of_ne_nil _ (spellsValue.ne_nil (by decide))] at first
    exact spellsValue.solid (by decide) char (List.mem_of_head? first)
  have none : ¬ after.head?.any Text.isWordChar := by
    simpa [Option.any_eq_true] using apart
  rw [fontSwap, spellsName.afterKeyword?, Option.bind_some, toColon]
  simp only [toValue, spellsValue.afterKeyword?, Option.bind_some, if_neg none, Option.isSome_some]

/-- No declaration ends with a brace. -/
theorem AtSwap.getLast?_ne_brace {text : Text} (declares : AtSwap text [])
    : text.getLast? ≠ some '}' := by
  intro last
  obtain ⟨name, outer, inner, value, rfl, -, -, -, spells⟩ := declares
  rw [List.append_nil, ← List.singleton_append] at last
  simp only [← List.append_assoc] at last
  rw [List.getLast?_append_of_ne_nil _ (spells.ne_nil (by decide))] at last
  obtain ⟨letter, among, folds⟩ := spells.exists_letter (List.mem_of_getLast? last)
  have none : "swap".toList.all (!Text.foldsTo · '}') := by decide
  have differs := List.all_eq_true.mp none letter among
  rw [folds] at differs
  cases differs

/-- In a font rule some character stands behind each declaration, at the latest its closing brace. -/
theorem isSome_firstHit?_fontSwap_iff (face : FontFace)
    : (Text.firstHit? fontSwap face.written).isSome ↔ DeclaresSwap face.written := by
  rw [Text.firstHit?, Text.isSome_firstHitFrom?_iff]
  constructor
  · rintro ⟨front, rest, split, nonempty, matched⟩
    obtain ⟨after, declares, apart⟩ := exists_atSwap_of_fontSwap matched
    cases after with
    | nil =>
        have last := face.getLast?_written
        rw [split, List.getLast?_append_of_ne_nil _ nonempty] at last
        exact absurd last declares.getLast?_ne_brace
    | cons next after => exact ⟨front, rest, next, after, split, declares, apart next rfl⟩
  · rintro ⟨front, rest, next, after, split, declares, apart⟩
    refine ⟨front, rest, split, ?_, declares.isSome_fontSwap (by simpa using apart) _⟩
    obtain ⟨name, outer, inner, value, rfl, -⟩ := declares
    simp

-----------------------------------------------------------------------------------------
-- The findings about font rules
-----------------------------------------------------------------------------------------

/-- (HidesText placed finding) says that a font rule in its place does not declare that text is shown
in another font first, and that the finding says so about its span.
-/
structure HidesText (placed : PlacedFace) (finding : Finding) : Prop where
  undeclared : ¬ DeclaresSwap placed.face.written
  same
    : finding
      = { code := "PERF_FONT_DISPLAY_SWAP"
          severity := .warning
          category := .performance
          message := "@font-face has no font-display: swap"
          span := placed.span
          help := some "Text stays invisible until the font loads without it".toList }

/-- The span of a font rule holds it as it is written. -/
theorem slice?_of_mem_placed {last : Text} {stretches : List FontStretch} {placed : PlacedFace}
    (front : Text) (member : placed ∈ FontStretch.placed (Text.byteSize front) stretches)
    : Text.slice? (front ++ FontStretch.writtenAll last stretches) placed.span.start placed.span.stop
      = some placed.face.written := by
  induction stretches generalizing front with
  | nil => cases member
  | cons stretch others ih =>
      rw [FontStretch.placed, ← Text.byteSize_append, ← Text.byteSize_append] at member
      rcases List.mem_cons.mp member with rfl | later
      · rw [FontStretch.writtenAll, ← List.append_assoc, Text.byteSize_append _ stretch.face.written]
        exact Text.slice?_append _ _ _
      · rw [FontStretch.writtenAll, ← List.append_assoc, ← List.append_assoc]
        exact ih _ later

/-- Each font rule without the declaration is reported. -/
theorem hiddenText_reports {page : Page} {text : FontText} (written : page.text = text.written)
    : ReportsEach HidesText (FontStretch.placed 0 text.stretches) (hiddenText page) := by
  rw [hiddenText, written, FontText.written, Text.hits,
    hitsFrom_writtenAll text.free text.stretches 0 none, List.filter_map, List.map_map,
    ← List.filterMap_eq_map', List.filterMap_filter]
  have declared (placed : PlacedFace)
      : (Text.firstHit? fontSwap placed.face.written).isNone ↔ ¬ DeclaresSwap placed.face.written := by
    rw [← isSome_firstHit?_fontSwap_iff, Option.not_isSome_iff_eq_none, Option.isNone_iff_eq_none]
  refine reportsEach_filterMap ?_ ?_
  · intro placed finding found
    obtain ⟨none, same⟩ := Option.ite_none_right_eq_some.mp found
    exact ⟨(declared placed).mp none, (Option.some.inj same).symm⟩
  · intro placed missing finding hides
    rw [ite_eq_right_iff] at missing
    cases missing ((declared placed).mpr hides.undeclared)

theorem filter_hiddenText (page : Page) (wanted : Text)
    : (hiddenText page).filter (·.code = wanted)
      = if "PERF_FONT_DISPLAY_SWAP".toList = wanted then hiddenText page else [] := by
  apply Finding.filter_code
  intro finding reported
  exact congrArg Kind.code (kind_of_mem_hiddenText reported)

theorem filter_excessPreloads (page : Page) (wanted : Text)
    : (excessPreloads page).filter (·.code = wanted)
      = if "PERF_FONT_PRELOAD_EXCESS".toList = wanted then excessPreloads page else [] := by
  apply Finding.filter_code
  intro finding reported
  exact congrArg Kind.code (kind_of_mem_excessPreloads reported)

/-- The findings with the code of font rules are those about font rules, if the policy asks for them.
-/
theorem filter_fontLoading (page : Page)
    : (fontLoading.evaluate page).filter (·.code = "PERF_FONT_DISPLAY_SWAP".toList)
      = if page.policy.requireFontSwap then hiddenText page else [] := by
  have other : "PERF_FONT_PRELOAD_EXCESS".toList ≠ "PERF_FONT_DISPLAY_SWAP".toList := by decide
  have parts : fontLoading.evaluate page
      = (if page.policy.requireFontSwap then hiddenText page else []) ++ excessPreloads page := rfl
  rw [parts, List.filter_append, filter_excessPreloads, if_neg other, List.append_nil]
  split
  · rw [filter_hiddenText, if_pos rfl]
  · rfl

/-- In a text that consists of font rules with any other text between them, each rule without the
declaration is reported, in order and with its exact span, when the policy asks for it. Otherwise
none is.
-/
theorem fontLoading_reports {page : Page} {text : FontText} (written : page.text = text.written)
    : let placed := FontStretch.placed 0 text.stretches
      let findings := (fontLoading.evaluate page).filter (·.code = "PERF_FONT_DISPLAY_SWAP".toList)
      (page.policy.requireFontSwap → ReportsEach HidesText placed findings)
      ∧ (page.policy.requireFontSwap = false → findings = [])
      ∧ ∀ rule ∈ placed,
          Text.slice? page.text rule.span.start rule.span.stop = some rule.face.written := by
  intro placed findings
  have same : findings = if page.policy.requireFontSwap then hiddenText page else [] :=
    filter_fontLoading page
  rw [same]
  refine ⟨fun required => ?_, fun waived => ?_, fun rule member => ?_⟩
  · rw [if_pos required]
    exact hiddenText_reports written
  · rw [waived]
    rfl
  · rw [written]
    exact slice?_of_mem_placed [] member

theorem fontLoading_reports_second
    : let swapped : FontFace :=
        { keyword := "@font-face", blanks := [], body := "font-display:\n\u017fwap"
          named := by decide, blank := by decide, unclosed := by decide }
      let hidden : FontFace :=
        { keyword := "@Font-Face", blanks := " ", body := "font-display: swapped\x7b"
          named := by decide, blank := by decide, unclosed := by decide }
      let text : FontText :=
        { stretches :=
            [{ gap := "<style>", face := swapped, free := by decide },
              { gap := " @font é", face := hidden, free := by decide }]
          last := "</style>"
          free := by decide }
      let page := Page.ofText .standard .standard "page.html" text.written
      page.text = text.written
      ∧ page.policy.requireFontSwap
      ∧ ReportsEach HidesText
          [{ span := { start := 7, stop := 38 }, face := swapped },
            { span := { start := 47, stop := 82 }, face := hidden }]
          ((fontLoading.evaluate page).filter (·.code = "PERF_FONT_DISPLAY_SWAP".toList)) := by
  intro swapped hidden text page
  have required : page.policy.requireFontSwap := by decide
  have written : page.text = text.written := rfl
  exact ⟨written, required, (fontLoading_reports written).1 required⟩

end PageAudit.Rule
