import Mathlib.Data.List.Forall2
import PageAudit.Proofs.Audit.Codes
import PageAudit.Proofs.Batch.Accounting
import PageAudit.Proofs.Rule.Messages
import PageAudit.Report.Plain

/-! Findings and the lines of a plain report. Without colours, help texts and the summary, each
finding takes one line below the name of its file, unless its message has a line break.
-/

namespace PageAudit

open Text (OneLine ofLines oneLine_append oneLine_cons oneLine_literal oneLine_ofNat)

namespace PlainFormat

/-- The format without colours, help texts and the summary. -/
def bare : PlainFormat :=
  { colored := false, showHelp := false, showSummary := false }

/-- What the line of a finding begins with: its place, its severity and its code. -/
def lead (path : Text) (finding : Finding) : Text :=
  path ++ ':' :: Text.ofNat finding.position.line ++ ':' :: Text.ofNat finding.position.column
    ++ ": ".toList ++ finding.severity.name ++ '[' :: finding.code ++ "]: ".toList

/-- (ShowsEach path findings output) says that an output shows each finding of a file on one line of
its own, below the name of the file and in front of an empty line. Without findings it is empty.
-/
inductive ShowsEach (path : Text) : List Finding → Text → Prop where
  | nothing : ShowsEach path [] []
  | lines {findings lines} (nonempty : findings ≠ [])
    (each : ∀ line ∈ lines, OneLine line)
    (begins : List.Forall₂ (fun finding line => lead path finding <+: line) findings lines)
    : ShowsEach path findings (ofLines (path :: (lines ++ [[]])))

-----------------------------------------------------------------------------------------
-- The lines of one file
-----------------------------------------------------------------------------------------

theorem writeFinding_bare (path : Text) (finding : Finding)
    : bare.writeFinding path finding = lead path finding ++ finding.message ++ ['\n'] := by
  cases help : finding.help <;> simp [writeFinding, lead, bare, paint, help]

theorem oneLine_lead {path : Text} {finding : Finding} (line : OneLine path)
    (code : OneLine finding.code)
    : OneLine (lead path finding) := by
  have severity : OneLine finding.severity.name := by
    cases finding.severity <;> exact oneLine_literal (by decide)
  have colon : OneLine ": ".toList := oneLine_literal (by decide)
  have bracket : OneLine "]: ".toList := oneLine_literal (by decide)
  simp only [lead, oneLine_append, oneLine_cons, oneLine_ofNat, line, code, severity, colon,
    bracket, and_true, true_and]
  decide

/-- The findings of a file have as many line breaks as there are findings, and those of their
messages, by induction over the findings.
-/
theorem count_writeFinding {path : Text} (line : OneLine path) {findings : List Finding}
    (codes : ∀ finding ∈ findings, OneLine finding.code)
    : (findings.flatMap (bare.writeFinding path)).count '\n'
      = findings.length + (findings.flatMap (·.message)).count '\n' := by
  induction findings with
  | nil => rfl
  | cons finding findings ih =>
      have first := oneLine_lead line (codes finding List.mem_cons_self)
      have others := ih fun other member => codes other (.tail _ member)
      have none := Text.count_eq_zero_iff.mpr first
      simp only [List.flatMap_cons, List.count_append, others, writeFinding_bare, none,
        List.count_singleton_self, List.length_cons]
      omega

theorem writeFile_bare (path : Text) {findings : List Finding} (some : findings ≠ [])
    : bare.writeFile { path, findings }
      = path ++ '\n' :: findings.flatMap (bare.writeFinding path) ++ ['\n'] := by
  simp [writeFile, some, bare, paint]

/-- Behind the line breaks of the findings, one ends the name of the file and one the empty line. -/
theorem count_writeFile {path : Text} (line : OneLine path) {findings : List Finding}
    (codes : ∀ finding ∈ findings, OneLine finding.code) (some : findings ≠ [])
    : (bare.writeFile { path, findings }).count '\n'
      = findings.length + (findings.flatMap (·.message)).count '\n' + 2 := by
  have none := Text.count_eq_zero_iff.mpr line
  simp only [writeFile_bare path some, List.count_append, List.count_cons_self, none,
    count_writeFinding line codes, List.count_nil]
  omega

/-- An output that shows each finding on a line of its own has two more lines. -/
theorem ShowsEach.count {path output : Text} (line : OneLine path) {findings : List Finding}
    (shows : ShowsEach path findings output) (some : findings ≠ [])
    : output.count '\n' = findings.length + 2 := by
  cases shows with
  | nothing => exact absurd rfl some
  | @lines _ lines _ each begins =>
      have single : ∀ line ∈ path :: (lines ++ [[]]), OneLine line := by
        intro other member
        simp only [List.mem_cons, List.mem_append, List.not_mem_nil, or_false] at member
        rcases member with rfl | listed | rfl
        · exact line
        · exact each other listed
        · exact Text.oneLine_nil
      rw [Text.count_ofLines single, begins.length_eq]
      simp

/-- When no message has a line break, each finding is shown on its line. -/
theorem showsEach_writeFile {path : Text} (line : OneLine path) {findings : List Finding}
    (codes : ∀ finding ∈ findings, OneLine finding.code) (some : findings ≠ [])
    (unbroken : Finding.Unbroken findings)
    : ShowsEach path findings (bare.writeFile { path, findings }) := by
  have whole : bare.writeFile { path, findings }
      = ofLines (path :: (findings.map (fun finding => lead path finding ++ finding.message)
          ++ [[]])) := by
    have each := funext (writeFinding_bare path)
    simp [writeFile_bare path some, ofLines, List.flatMap_map, each]
  rw [whole]
  refine .lines some ?_ ?_
  · intro shown member
    obtain ⟨finding, reported, rfl⟩ := List.mem_map.mp member
    exact oneLine_append.mpr ⟨oneLine_lead line (codes finding reported),
      unbroken finding reported⟩
  · rw [List.forall₂_map_right_iff, List.forall₂_same]
    exact fun finding _ => List.prefix_append _ _

/-- The findings of a file are shown on one line each exactly when no message has a line break.
Witness: more line breaks than those of the lines stand in messages.
-/
theorem showsEach_writeFile_iff {path : Text} (line : OneLine path) {findings : List Finding}
    (codes : ∀ finding ∈ findings, OneLine finding.code)
    : ShowsEach path findings (bare.writeFile { path, findings }) ↔ Finding.Unbroken findings := by
  by_cases none : findings = []
  · subst none
    exact iff_of_true .nothing (by simp)
  constructor
  · intro shows
    have lines := shows.count line none
    rw [count_writeFile line codes none] at lines
    have total : (findings.flatMap (·.message)).count '\n' = 0 := by omega
    have whole := Text.count_eq_zero_iff.mp total
    intro finding member broken
    exact whole (List.mem_flatMap_of_mem member broken)
  · exact showsEach_writeFile line codes none

-----------------------------------------------------------------------------------------
-- The report of an audit
-----------------------------------------------------------------------------------------

theorem write_record (path : Text) (findings : List Finding)
    : bare.write (Report.empty.record { path, findings })
      = bare.writeFile { path, findings } := by
  have results : (Report.empty.record { path, findings }).results = [{ path, findings }] :=
    Report.results_foldl_recordOutcome [.ok { path, findings }]
  rw [write, results]
  simp [bare]

/-- All codes stand on one line. -/
theorem oneLine_code {rule : Rule} (member : rule ∈ Rule.all) {page : Page} {finding : Finding}
    (reported : finding ∈ rule.evaluate page)
    : OneLine finding.code := by
  have each : ∀ kind ∈ Kind.all, OneLine kind.code := by
    simp only [Kind.all, catalogue, List.flatMap_cons, List.flatMap_nil, List.map_cons,
      List.map_nil, List.cons_append, List.nil_append, List.forall_mem_cons, List.not_mem_nil,
      false_implies, implies_true, and_true]
    and_intros <;> exact oneLine_literal (by decide)
  have declares := Rule.keepsToCatalogue_of_mem_all member page finding reported
  exact each finding.kind (Kind.mem_all.mpr declares.listed)

/-- The report of an audit shows each finding on one line exactly when no script that stops
rendering has a line break in its reference, and no heavy package has one in its alternative. No
other part of a document, of a policy or of the tables brings a line break into the report.
-/
theorem showsEach_audit_iff (policy : Policy) (tables : Tables) {path : Text} (text : Text)
    (line : OneLine path)
    : let findings := (Auditor.full policy tables).audit path text
      ShowsEach path findings (bare.write (Report.empty.record { path, findings }))
        ↔ (∀ tag ∈ Markup.tokenize text,
            Rule.blocksRendering tag → OneLine ((tag.attribute? "src").getD []))
          ∧ ∀ heavy ∈ Rule.heavyOnes (Page.ofText policy tables path text),
            ∀ alternative ∈ heavy.2.alternative, OneLine alternative := by
  intro findings
  let page := Page.ofText policy tables path text
  have settled : findings
      = (Rule.all.flatMap (·.evaluate page)).map (Finding.settle (Ruler.ofText text)) :=
    Finding.settleAll_eq text _
  have codes : ∀ finding ∈ findings, OneLine finding.code := by
    rw [settled]
    intro finding member
    obtain ⟨reported, evaluated, rfl⟩ := List.mem_map.mp member
    obtain ⟨rule, listed, evaluated⟩ := List.mem_flatMap.mp evaluated
    -- settling changes no code
    have code : OneLine reported.code := oneLine_code listed evaluated
    exact code
  -- settling changes no message
  have unbroken : Finding.Unbroken findings
      ↔ Finding.Unbroken (Rule.all.flatMap (·.evaluate page)) := by
    rw [settled]
    exact Finding.unbroken_map
  rw [write_record, showsEach_writeFile_iff line codes, unbroken, Finding.unbroken_flatMap]
  exact Rule.unbroken_evaluate_all_iff

/-- A page with a script that stops rendering is reported on one line for each finding. -/
theorem showsEach_audit_script
    : let path : Text := "page.html"
      let text : Text := "<script src=\"a.js\"></script>"
      let findings := (Auditor.full .standard .standard).audit path text
      OneLine path
      ∧ 0 < findings.length
      ∧ ShowsEach path findings (bare.write (Report.empty.record { path, findings })) := by
  intro path text findings
  have line : OneLine path := by decide
  refine ⟨line, by decide +kernel, (showsEach_audit_iff .standard .standard text line).mpr ?_⟩
  decide +kernel

/-- A line break in the reference of a script begins a further line in the report: the two
findings of this page take three lines.
-/
theorem showsEach_audit_broken_script
    : let path : Text := "page.html"
      let text : Text := "<script src=\"a\nb.js\"></script>"
      let findings := (Auditor.full .standard .standard).audit path text
      bare.write (Report.empty.record { path, findings })
        = ofLines [
            "page.html",
            "page.html:1:1: warning[SEO_CANONICAL_MISSING]: No canonical link found",
            "page.html:1:1: warning[PERF_BLOCKING_SCRIPT]: Script 'a",
            "b.js' blocks rendering",
            ""]
      ∧ findings.length = 2
      ∧ ¬ ShowsEach path findings (bare.write (Report.empty.record { path, findings })) := by
  intro path text findings
  have line : OneLine path := by decide
  have codes : ∀ finding ∈ findings, OneLine finding.code := by decide +kernel
  have broken : ¬ Finding.Unbroken findings := by
    simp only [Finding.Unbroken]
    decide +kernel
  refine ⟨by decide +kernel, by decide +kernel, ?_⟩
  rw [write_record, showsEach_writeFile_iff line codes]
  exact broken

end PlainFormat

end PageAudit
