import PageAudit.Proofs.Text.Line
import PageAudit.Proofs.Text.Run
import PageAudit.Web.Punycode

/-! Punycode and line breaks: what it writes for the characters beyond ASCII holds none, and a
written form that can be read holds none beside those of its label.
-/

namespace PageAudit.Web.Punycode

open Text (OneLine)

-----------------------------------------------------------------------------------------
-- Writing
-----------------------------------------------------------------------------------------

/-- Only its own code makes the line break. -/
theorem ofNat_ne_lineBreak {code : Nat} (other : code ≠ 10) : Char.ofNat code ≠ '\n' := by
  intro same
  unfold Char.ofNat at same
  by_cases valid : code.isValidChar
  · rw [dif_pos valid] at same
    have number : code = 10 := congrArg (·.val.toNat) same
    exact other number
  · rw [dif_neg valid] at same
    exact absurd same (by decide)

theorem digitChar_ne (value : Nat) : digitChar value ≠ '\n' := by
  have codes : 'a'.toNat = 97 ∧ '0'.toNat = 48 := by decide
  unfold digitChar
  split
  · exact ofNat_ne_lineBreak (by omega)
  · exact ofNat_ne_lineBreak (by omega)

/-- The digits of a number hold no line break, by induction over the divisions. -/
theorem oneLine_digits (bias place number : Nat) : OneLine (digits bias place number) := by
  induction place, number using digits.induct bias with
  | case1 place number limit last =>
      rw [digits, if_pos last]
      simp [digitChar_ne]
  | case2 place number limit more ih =>
      rw [digits, if_neg more]
      exact Text.oneLine_cons.mpr ⟨digitChar_ne _, ih⟩

theorem oneLine_pass {basic code : Nat} {writing : Writing} (line : OneLine writing.written)
    (char : Char)
    : OneLine (pass basic code writing char).written := by
  unfold pass
  split
  · exact line
  · split
    · simp [oneLine_digits, line]
    · exact line

/-- Passing over the characters of a label writes digits only, by induction over them. -/
theorem oneLine_foldl_pass {basic code : Nat} (label : Text) {writing : Writing}
    (line : OneLine writing.written)
    : OneLine (label.foldl (pass basic code) writing).written := by
  induction label generalizing writing with
  | nil => exact line
  | cons char label ih => exact ih (oneLine_pass line char)

/-- The insertions are written in digits, by induction over the codes. -/
theorem oneLine_insertAll (label : Text) (basic next : Nat) {writing : Writing}
    (line : OneLine writing.written) (codes : List Nat)
    : OneLine (insertAll label basic next writing codes).written := by
  induction codes generalizing next writing with
  | nil => exact line
  | cons code codes ih =>
      rw [insertAll]
      exact ih _ (oneLine_foldl_pass label line)

/-- A label without line breaks is written without one. -/
theorem oneLine_encode {label : Text} (line : OneLine label) : OneLine (encode label) := by
  unfold encode
  dsimp only
  split
  · exact Text.oneLine_reverse.mpr (oneLine_insertAll _ _ _ Text.oneLine_nil _)
  · refine Text.oneLine_append.mpr
      ⟨line.of_subset fun _ member => (List.mem_filter.mp member).1, ?_⟩
    refine Text.oneLine_cons.mpr ⟨by decide, Text.oneLine_reverse.mpr ?_⟩
    exact oneLine_insertAll _ _ _ Text.oneLine_nil _

-----------------------------------------------------------------------------------------
-- Reading
-----------------------------------------------------------------------------------------

theorem subset_insertion (text : Text) (index : Nat) (char : Char)
    : text ⊆ text.take index ++ char :: text.drop index := by
  intro other member
  rw [← List.take_append_drop index text, List.mem_append] at member
  rw [List.mem_append, List.mem_cons]
  exact member.imp_right .inr

/-- A digit that is read is no line break, and all characters that were read before stay. -/
theorem of_readDigit?_eq_some {progress next : Progress} {char : Char}
    (found : readDigit? progress char = some next)
    : char ≠ '\n' ∧ progress.read ⊆ next.read := by
  obtain ⟨digit, value, goesOn⟩ := Option.bind_eq_some_iff.mp found
  constructor
  · rintro rfl
    cases value
  · dsimp only at goesOn
    split at goesOn
    · obtain rfl := Option.some.inj goesOn
      exact List.Subset.refl _
    · split at goesOn
      · obtain rfl := Option.some.inj goesOn
        exact subset_insertion _ _ _
      · cases goesOn

theorem of_foldlM_readDigit?_eq_some {digits : Text} {progress last : Progress}
    (found : digits.foldlM readDigit? progress = some last)
    : OneLine digits ∧ progress.read ⊆ last.read := by
  induction digits generalizing progress with
  | nil =>
      obtain rfl := Option.some.inj found
      exact ⟨Text.oneLine_nil, List.Subset.refl _⟩
  | cons char digits ih =>
      obtain ⟨next, first, others⟩ := Option.bind_eq_some_iff.mp found
      obtain ⟨other, kept⟩ := of_readDigit?_eq_some first
      obtain ⟨line, keptToo⟩ := ih others
      exact ⟨Text.oneLine_cons.mpr ⟨other, line⟩, List.Subset.trans kept keptToo⟩

/-- A written form consists of its ASCII characters, a hyphen, and its digits. -/
theorem of_parts?_eq_some {written basic digits : Text}
    (found : parts? written = some (basic, digits))
    : written = digits ∨ written = basic ++ '-' :: digits := by
  unfold parts? at found
  cases run : written.reverse.span (· != '-') with
  | mk first rest =>
      obtain ⟨split, -, stops⟩ := Text.span_eq_iff.mp run
      have whole : written = rest.reverse ++ first.reverse := by
        rw [← List.reverse_append, ← split, List.reverse_reverse]
      rw [run] at found
      split at found
      · next same =>
          obtain ⟨rfl, rfl⟩ := Prod.mk.inj same
          obtain ⟨rfl, rfl⟩ := Prod.mk.inj (Option.some.inj found)
          exact .inl whole
      · cases found
      · next hyphen _ _ same =>
          obtain ⟨rfl, rfl⟩ := Prod.mk.inj same
          obtain ⟨rfl, rfl⟩ := Prod.mk.inj (Option.some.inj found)
          obtain rfl : hyphen = '-' := by simpa using stops hyphen rfl
          exact .inr (by simpa using whole)

/-- A written form that is read into a label without line breaks holds none either. -/
theorem oneLine_of_decode?_eq_some {written label : Text} (found : decode? written = some label)
    (line : OneLine label)
    : OneLine written := by
  obtain ⟨⟨basic, digits⟩, parts, goesOn⟩ := Option.bind_eq_some_iff.mp found
  obtain ⟨progress, read, last⟩ := Option.bind_eq_some_iff.mp goesOn
  obtain ⟨digitsLine, kept⟩ := of_foldlM_readDigit?_eq_some read
  split at last
  · obtain rfl := Option.some.inj last
    rcases of_parts?_eq_some parts with rfl | rfl
    · exact digitsLine
    · simp [digitsLine, line.of_subset kept]
  · cases last

end PageAudit.Web.Punycode
