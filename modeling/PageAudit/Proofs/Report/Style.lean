import Mathlib.Data.List.Forall2
import Mathlib.Data.Option.Defs
import PageAudit.Proofs.Decimal.Binary64
import PageAudit.Proofs.Text.Hits
import PageAudit.Proofs.Text.Run
import PageAudit.Report.Plain

/-! Colours change nothing about what a report says: without its escape sequences a coloured report
is the plain one. The sequences come in pairs, of which the first begins a style and the second ends
it.
-/

namespace PageAudit

open Text (Clear Matches byteSize byteSize_append hits hitsFrom hitsFrom_clear hitsFrom_some outside
  outsideFrom outsideFrom_clear outsideFrom_some)

-----------------------------------------------------------------------------------------
-- Escape sequences
-----------------------------------------------------------------------------------------

namespace Style

/-- Digits and semicolons are the parameters of an escape sequence. -/
def isParameter (char : Char) : Bool :=
  char.isDigit || char == ';'

/-- An escape sequence for styles, with its parameters, as a pattern. -/
def pattern : Text.Pattern Text := fun _ text =>
  match text with
  | '\x1b' :: '[' :: rest =>
      match rest.span isParameter with
      | (parameters, 'm' :: _) => some (parameters, parameters.length + 3)
      | _ => none
  | _ => none

/-- The parameters of the escape sequences in a text, in order. -/
def sequences (text : Text) : List Text :=
  (hits pattern text).map (·.value)

/-- The parameters of the sequence that begins a style and of the one that ends it. -/
def pair (style : Style) : List Text :=
  [style.parameters, "0"]

/-- (Colors text shown) says that `shown` is `text` with parts of it in styles: without its escape
sequences it is that text, and after each sequence that begins a style the next one ends it.
-/
structure Colors (text shown : Text) : Prop where
  same : outside pattern shown = text
  paired : ∃ styles : List Style, sequences shown = styles.flatMap pair

theorem pattern_escape {parameters : Text} (valid : parameters.all isParameter)
    (before : Option Char) (rest : Text)
    : pattern before (escape parameters ++ rest)
      = some (parameters, (escape parameters).length) := by
  have run : (parameters ++ 'm' :: rest).span isParameter = (parameters, 'm' :: rest) :=
    Text.span_eq_iff.mpr ⟨rfl, List.all_eq_true.mp valid, by simp [isParameter]⟩
  have text : escape parameters ++ rest = '\x1b' :: '[' :: (parameters ++ 'm' :: rest) := by
    simp [escape]
  rw [text, pattern, run]
  simp [escape]

theorem all_isParameter (style : Style) : style.parameters.all isParameter := by
  cases style <;> decide

theorem head?_of_matches {text : Text} (found : Matches pattern text)
    : text.head? = some '\x1b' := by
  obtain ⟨before, isSome⟩ := found
  unfold pattern at isSome
  split at isSome
  · rfl
  · cases isSome

-----------------------------------------------------------------------------------------
-- Texts without escape sequences
-----------------------------------------------------------------------------------------

/-- A text without the character that begins escape sequences. -/
def Unescaped (text : Text) : Prop :=
  '\x1b' ∉ text

instance (text : Text) : Decidable (Unescaped text) :=
  inferInstanceAs (Decidable (¬ _))

@[simp] theorem unescaped_nil : Unescaped [] :=
  List.not_mem_nil

@[simp] theorem unescaped_cons {char : Char} {text : Text}
    : Unescaped (char :: text) ↔ char ≠ '\x1b' ∧ Unescaped text := by
  simp [Unescaped, eq_comm]

@[simp] theorem unescaped_append {left right : Text}
    : Unescaped (left ++ right) ↔ Unescaped left ∧ Unescaped right := by
  simp [Unescaped]

@[simp] theorem unescaped_ofNat (number : Nat) : Unescaped (Text.ofNat number) :=
  fun member => absurd (Text.isDigit_of_mem_ofNat member) (by decide)

/-- No escape sequence stands in a text without their first character. -/
theorem Unescaped.clear {text : Text} (unescaped : Unescaped text) (rest : Text)
    : Clear (Matches pattern) text rest :=
  Text.clear_of_not_mem unescaped fun _ => head?_of_matches

/-- Nothing is renewed in a text that ends no style. -/
theorem Unescaped.renew {text : Text} (unescaped : Unescaped text) (style : Style)
    : style.renew text = text := by
  induction text with
  | nil => rfl
  | cons char text ih =>
      obtain ⟨other, unescaped⟩ := unescaped_cons.mp unescaped
      rw [Style.renew, ih unescaped]
      rintro rest rfl
      exact absurd rfl other

-----------------------------------------------------------------------------------------
-- Texts with parts in styles
-----------------------------------------------------------------------------------------

/-- (Decorates text shown) says that `shown` is put together like `text`, from parts that have no
escape sequences of their own, and that some of them are in a style.
-/
inductive Decorates : Text → Text → Prop where
  | plain {text} (unescaped : Unescaped text) : Decorates text text
  | painted {text} (style : Style) (unescaped : Unescaped text)
    : Decorates text (style.paint text)
  | append {left right shownLeft shownRight} (first : Decorates left shownLeft)
    (second : Decorates right shownRight)
    : Decorates (left ++ right) (shownLeft ++ shownRight)

variable {text shown : Text}

/-- A styled text stands between two escape sequences. -/
theorem Unescaped.paint (unescaped : Unescaped text) (style : Style)
    : style.paint text = escape style.parameters ++ (text ++ escape "0") := by
  rw [Style.paint, unescaped.renew, reset, List.append_assoc]

/-- What stands outside the escape sequences of a decorated text is the text, by induction over its
parts.
-/
theorem Decorates.outsideFrom_append (decorates : Decorates text shown) (before : Option Char)
    (rest : Text)
    : outsideFrom pattern 0 before (shown ++ rest)
      = text ++ outsideFrom pattern 0 (shown.getLast?.or before) rest := by
  induction decorates generalizing before rest with
  | plain unescaped => exact outsideFrom_clear (unescaped.clear rest) before
  | painted style unescaped =>
      -- one sequence is left out, then the text is kept, then the other sequence is left out
      rw [unescaped.paint, List.append_assoc, List.append_assoc,
        outsideFrom_some (by simp [escape]) (pattern_escape style.all_isParameter _ _),
        outsideFrom_clear (unescaped.clear _),
        outsideFrom_some (by simp [escape]) (pattern_escape (by decide) _ _)]
      simp only [List.getLast?_append, Option.or_assoc]
  | append first second ihFirst ihSecond =>
      rw [List.append_assoc, ihFirst, ihSecond, List.getLast?_append, Option.or_assoc,
        List.append_assoc]

/-- Each styled part has one pair of escape sequences, and the other parts have none. -/
theorem Decorates.sequences_append (decorates : Decorates text shown)
    : ∃ styles : List Style, ∀ offset before rest,
        (hitsFrom pattern 0 offset before (shown ++ rest)).map (·.value)
        = styles.flatMap pair
          ++ (hitsFrom pattern 0 (offset + byteSize shown) (shown.getLast?.or before) rest).map
            (·.value) := by
  induction decorates with
  | plain unescaped =>
      refine ⟨[], fun offset before rest => ?_⟩
      rw [hitsFrom_clear (unescaped.clear rest)]
      rfl
  | painted style unescaped =>
      refine ⟨[style], fun offset before rest => ?_⟩
      rw [unescaped.paint, List.append_assoc, List.append_assoc,
        hitsFrom_some (by simp [escape]) (pattern_escape style.all_isParameter _ _),
        hitsFrom_clear (unescaped.clear _),
        hitsFrom_some (by simp [escape]) (pattern_escape (by decide) _ _)]
      simp only [List.getLast?_append, Option.or_assoc, byteSize_append, Nat.add_assoc]
      rfl
  | append first second ihFirst ihSecond =>
      obtain ⟨stylesFirst, ihFirst⟩ := ihFirst
      obtain ⟨stylesSecond, ihSecond⟩ := ihSecond
      refine ⟨stylesFirst ++ stylesSecond, fun offset before rest => ?_⟩
      rw [List.append_assoc, ihFirst, ihSecond, List.getLast?_append, Option.or_assoc,
        List.flatMap_append, List.append_assoc, byteSize_append, Nat.add_assoc]

theorem Decorates.colors (decorates : Decorates text shown) : Colors text shown := by
  constructor
  · have same := decorates.outsideFrom_append none []
    rwa [List.append_nil, Text.outsideFrom, List.append_nil] at same
  · obtain ⟨styles, listed⟩ := decorates.sequences_append
    refine ⟨styles, ?_⟩
    have same := listed 0 none []
    rwa [List.append_nil, hitsFrom, List.map_nil, List.append_nil] at same

theorem Decorates.cons {char : Char} (other : char ≠ '\x1b') (decorates : Decorates text shown)
    : Decorates (char :: text) (char :: shown) := by
  have single : Unescaped [char] := by simp [other]
  exact .append (.plain single) decorates

theorem Decorates.flatMap {α : Type} {items : List α} {write writeShown : α → Text}
    (each : ∀ item ∈ items, Decorates (write item) (writeShown item))
    : Decorates (items.flatMap write) (items.flatMap writeShown) := by
  induction items with
  | nil => exact .plain unescaped_nil
  | cons item items ih =>
      have others := ih fun other member => each other (.tail _ member)
      exact .append (each item List.mem_cons_self) others

theorem Decorates.join {separator : Text} (between : Unescaped separator) {parts shown : List Text}
    (each : List.Forall₂ Decorates parts shown)
    : Decorates (Text.join separator parts) (Text.join separator shown) := by
  induction each with
  | nil => exact .plain unescaped_nil
  | cons first others ih =>
      cases others with
      | nil => simpa [Text.join] using first
      | cons second others =>
          have whole := first.append (.append (.plain between) ih)
          simpa [Text.join] using whole

end Style

-----------------------------------------------------------------------------------------
-- Reports in colours
-----------------------------------------------------------------------------------------

/-- A finding without the character that begins escape sequences in any of its texts. -/
structure Finding.Unescaped (finding : Finding) : Prop where
  code : Style.Unescaped finding.code
  message : Style.Unescaped finding.message
  help : ∀ help ∈ finding.help, Style.Unescaped help

/-- A report without the character that begins escape sequences in any of its texts. -/
structure Report.Unescaped (report : Report) : Prop where
  paths : ∀ file ∈ report.results, Style.Unescaped file.path
  findings : ∀ file ∈ report.results, ∀ finding ∈ file.findings, finding.Unescaped

namespace PlainFormat

open Style (Colors Decorates Unescaped)

/-- The format with colours. -/
def inColors (format : PlainFormat) : PlainFormat :=
  { format with colored := true }

/-- The format without colours. -/
def withoutColors (format : PlainFormat) : PlainFormat :=
  { format with colored := false }

variable (format : PlainFormat) {path : Text}

theorem decorates_paint (style : Style) {text : Text} (unescaped : Unescaped text)
    : Decorates (format.withoutColors.paint style text) (format.inColors.paint style text) :=
  .painted style unescaped

/-- The severity, the code and the mark of the help text are in colours. A help text that is not
shown adds nothing in either format.
-/
theorem decorates_writeFinding (free : Unescaped path) {finding : Finding}
    (unescaped : finding.Unescaped)
    : Decorates (format.withoutColors.writeFinding path finding)
        (format.inColors.writeFinding path finding) := by
  have place : Unescaped (path ++ ':' :: Text.ofNat finding.position.line
      ++ ':' :: Text.ofNat finding.position.column ++ ": ".toList) := by
    simp [free]
  have name : Unescaped finding.severity.name := by cases finding.severity <;> decide
  have opened : '[' ≠ '\x1b' := by decide
  have closed : Unescaped "]: ".toList := by decide
  have ended : Unescaped ['\n'] := by decide
  have severity := format.decorates_paint (severityStyle finding.severity) name
  have code := (format.decorates_paint .cyan unescaped.code).cons opened
  have marked := (((Decorates.plain place).append severity).append code).append (.plain closed)
  have line := (marked.append (.plain unescaped.message)).append (.plain ended)
  unfold writeFinding
  cases given : finding.help with
  | none => exact line
  | some help =>
      dsimp only
      by_cases shows : format.showHelp
      · have margin : Unescaped "   ".toList := by decide
        have sign : Unescaped "=" := by decide
        have title : Unescaped " help: ".toList := by decide
        have marker := (line.append (.plain margin)).append (format.decorates_paint .blue sign)
        have helped := (marker.append (.plain title)).append (.plain (unescaped.help help given))
        simpa [inColors, withoutColors, shows] using helped.append (.plain ended)
      · simpa [inColors, withoutColors, shows] using line

/-- Both formats leave out the files without findings. -/
theorem decorates_writeFile {file : FileReport} (free : Unescaped file.path)
    (unescaped : ∀ finding ∈ file.findings, finding.Unescaped)
    : Decorates (format.withoutColors.writeFile file) (format.inColors.writeFile file) := by
  unfold writeFile
  split
  · exact .plain Style.unescaped_nil
  · have name := format.decorates_paint .underline free
    have lines : Decorates _ _ := .flatMap fun finding listed =>
      format.decorates_writeFinding free (unescaped finding listed)
    exact (name.append (lines.cons (by decide))).append (.plain (by decide))

/-- Both formats leave out a number that is zero. -/
theorem decorates_countText? (style : Style) (count : Nat) {singular plural : Text}
    (one : Unescaped singular) (many : Unescaped plural)
    : Option.Rel Decorates
        (format.withoutColors.countText? style count singular plural)
        (format.inColors.countText? style count singular plural) := by
  unfold countText?
  split
  · exact .none
  · have number : Unescaped
        (Text.ofNat count ++ ' ' :: if count = 1 then singular else plural) := by
      split <;> simp [one, many]
    exact .some (format.decorates_paint style number)

theorem unescaped_duration (milliseconds : Nat) : Unescaped (duration milliseconds) :=
  fun member => absurd (Binary64.of_mem_fixed member) (by decide)

/-- The numbers of findings that both formats show. -/
theorem decorates_countTexts (report : Report)
    : List.Forall₂ Decorates
        ([format.withoutColors.countText? .red report.errors "error" "errors",
          format.withoutColors.countText? .yellow report.warnings "warning" "warnings",
          format.withoutColors.countText? .blue report.infos "info" "infos"].filterMap id)
        ([format.inColors.countText? .red report.errors "error" "errors",
          format.inColors.countText? .yellow report.warnings "warning" "warnings",
          format.inColors.countText? .blue report.infos "info" "infos"].filterMap id) := by
  have errors := format.decorates_countText? .red report.errors
    (by decide : Unescaped "error") (by decide : Unescaped "errors")
  have warnings := format.decorates_countText? .yellow report.warnings
    (by decide : Unescaped "warning") (by decide : Unescaped "warnings")
  have infos := format.decorates_countText? .blue report.infos
    (by decide : Unescaped "info") (by decide : Unescaped "infos")
  exact List.rel_filterMap (fun _ _ same => same)
    (.cons errors (.cons warnings (.cons infos .nil)))

/-- The numbers of findings stand behind a colon, unless all are zero. -/
theorem decorates_counts {counts shown : List Text} (each : List.Forall₂ Decorates counts shown)
    : Decorates (if counts.isEmpty then [] else ": ".toList ++ Text.join ", " counts)
        (if shown.isEmpty then [] else ": ".toList ++ Text.join ", " shown) := by
  have joined := Decorates.join (by decide : Unescaped ", ") each
  have colon : Unescaped ": ".toList := by decide
  cases each with
  | nil => exact .plain Style.unescaped_nil
  | cons first others => exact .append (.plain colon) joined

/-- In the summary only the numbers of findings are in colours. -/
theorem decorates_writeSummary (report : Report)
    : Decorates (format.withoutColors.writeSummary report)
        (format.inColors.writeSummary report) := by
  -- the numbers of files are never in colours
  have part (count : Nat) {name : Text} (unescaped : Unescaped name)
      : Unescaped (if count = 0 then [] else ", ".toList ++ Text.ofNat count ++ ' ' :: name) := by
    split
    · exact Style.unescaped_nil
    · simp [unescaped]
  have scanned : Unescaped
      (if report.scanned = 1 then " file scanned".toList else " files scanned".toList) := by
    split <;> decide
  have skipped := part report.skipped (by decide : Unescaped "skipped")
  have failed := part report.failed (by decide : Unescaped "failed")
  have finished : Unescaped "\nFinished in ".toList := by decide
  have seconds : Unescaped "s\n".toList := by decide
  have number := Style.unescaped_ofNat report.scanned
  have files := (((Decorates.plain number).append (.plain scanned)).append (.plain skipped)).append
    (.plain failed)
  have counted := files.append (decorates_counts (format.decorates_countTexts report))
  have timed := (counted.append (.plain finished)).append
    (.plain (unescaped_duration report.milliseconds))
  exact timed.append (.plain seconds)

/-- The texts of a whole report differ in their styles only. -/
theorem decorates_write {report : Report} (unescaped : report.Unescaped)
    : Decorates (format.withoutColors.write report) (format.inColors.write report) := by
  have files : Decorates _ _ := .flatMap fun file listed =>
    format.decorates_writeFile (unescaped.paths file listed) (unescaped.findings file listed)
  have summary : Decorates
      (if format.showSummary then format.withoutColors.writeSummary report else [])
      (if format.showSummary then format.inColors.writeSummary report else []) := by
    split
    · exact format.decorates_writeSummary report
    · exact .plain Style.unescaped_nil
  exact files.append summary

/-- In both settings of the help texts and of the summary, a report in colours, and each finding in
colours, say what they say without colours, when no path, code, message or help text has the
character that begins escape sequences. Without its escape sequences the coloured text is the plain
one, and each sequence that begins a style is followed by one that ends it.
-/
theorem colors_inColors
    : (∀ report : Report, report.Unescaped →
        Colors (format.withoutColors.write report) (format.inColors.write report))
      ∧ ∀ (path : Text) (finding : Finding), Unescaped path → finding.Unescaped →
          Colors (format.withoutColors.writeFinding path finding)
            (format.inColors.writeFinding path finding) :=
  ⟨fun _ unescaped => (format.decorates_write unescaped).colors,
    fun _ _ free unescaped => (format.decorates_writeFinding free unescaped).colors⟩

/-- A report of an error with a help text and an empty code: the name of the file, the severity, the
code, the mark of the help text and the number of errors are in colours.
-/
theorem colors_inColors_error
    : let format : PlainFormat := { colored := true, showHelp := true, showSummary := true }
      let finding : Finding :=
        { code := [], severity := .error, category := .seo, message := "No title", span := ⟨0, 4⟩,
          help := some "Add one" }
      let report : Report :=
        { Report.empty with results := [⟨"a.html", [finding]⟩], scanned := 1, errors := 1 }
      report.Unescaped
      ∧ finding.Unescaped
      ∧ Style.sequences (format.inColors.write report)
        = [.underline, .boldRed, .cyan, .blue, .red].flatMap Style.pair
      ∧ Colors (format.withoutColors.write report) (format.inColors.write report)
      ∧ Colors (format.withoutColors.writeFinding "a.html" finding)
          (format.inColors.writeFinding "a.html" finding) := by
  intro format finding report
  have free : finding.Unescaped :=
    { code := by decide, message := by decide, help := by decide }
  have unescaped : report.Unescaped :=
    { paths := by decide, findings := by simpa [report] using free }
  refine ⟨unescaped, free, by decide +kernel, ?_, ?_⟩
  · exact (colors_inColors format).1 report unescaped
  · exact (colors_inColors format).2 "a.html" finding (by decide) free

end PlainFormat

end PageAudit
