import Mathlib.Data.List.TakeDrop
import Mathlib.Data.List.TakeWhile
import PageAudit.Text.Blank

/-! What stands at the front of a text: an opening, the longest run of characters of a kind, and
the blanks that are trimmed.
-/

namespace PageAudit.Text

variable {kind : Char → Bool}

/-- What follows an opening in a text is found exactly when the text begins with it. -/
theorem after?_eq_some_iff {opening text rest : Text}
    : after? opening text = some rest ↔ text = opening ++ rest := by
  induction opening generalizing text with
  | nil => simp [after?, eq_comm]
  | cons expected opening ih =>
      cases text with
      | nil => simp [after?]
      | cons char text =>
          rw [after?]
          split
          · next same => simp [ih, same]
          · next different => simp [Ne.symm different]

/-- A longest run is followed by no character of its kind. Witness: a run and such a rest are
what is taken and what is dropped while the kind lasts.
-/
theorem span_eq_iff {text run rest : Text}
    : text.span kind = (run, rest)
      ↔ text = run ++ rest
        ∧ (∀ char ∈ run, kind char)
        ∧ ∀ char ∈ rest.head?, kind char = false := by
  rw [List.span_eq_takeWhile_dropWhile, Prod.mk.injEq]
  constructor
  · rintro ⟨rfl, rfl⟩
    refine ⟨List.takeWhile_append_dropWhile.symm, fun char => List.mem_takeWhile_imp, ?_⟩
    intro char first
    have stopped := List.head?_dropWhile_not kind text
    rw [Option.mem_def.mp first] at stopped
    exact stopped
  · rintro ⟨rfl, inRun, behind⟩
    cases rest with
    | nil => simpa using inRun
    | cons char rest =>
        have stops : kind char = false := behind char rfl
        rw [List.takeWhile_append_of_pos inRun, List.dropWhile_append_of_pos inRun]
        simp [stops]

theorem trimStart_eq_self {text : Text} (solid : ∀ char ∈ text.head?, isBlank char = false)
    : trimStart text = text := by
  cases text with
  | nil => rfl
  | cons char rest =>
      have first : isBlank char = false := solid char rfl
      simp [trimStart, first]

theorem trimStart_cons_blank {char : Char} {text : Text} (blank : isBlank char)
    : trimStart (char :: text) = trimStart text := by
  simp [trimStart, blank]

theorem trimEnd_concat {char : Char} {text : Text} (solid : isBlank char = false)
    : trimEnd (text ++ [char]) = text ++ [char] := by
  simp [trimEnd, solid]

theorem exists_blanks_trimStart (text : Text)
    : ∃ blanks, text = blanks ++ trimStart text ∧ ∀ char ∈ blanks, isBlank char :=
  ⟨text.takeWhile isBlank, List.takeWhile_append_dropWhile.symm, fun _ => List.mem_takeWhile_imp⟩

/-- A trimmed text ends with the last character that is no blank. -/
theorem getLast?_trimEnd_eq_some_iff {char : Char} {text : Text} (solid : isBlank char = false)
    : (trimEnd text).getLast? = some char
      ↔ ∃ front blanks, text = front ++ char :: blanks ∧ ∀ blank ∈ blanks, isBlank blank := by
  rw [trimEnd, List.getLast?_reverse]
  constructor
  · intro last
    obtain ⟨front, same⟩ := List.head?_eq_some_iff.mp last
    obtain ⟨blanks, split, blank⟩ := exists_blanks_trimStart text.reverse
    rw [trimStart, same] at split
    refine ⟨front.reverse, blanks.reverse, ?_, by simpa using blank⟩
    rw [← List.reverse_reverse text, split]
    simp
  · intro trimmed
    obtain ⟨front, blanks, rfl, blank⟩ := trimmed
    have backwards : (front ++ char :: blanks).reverse
        = blanks.reverse ++ char :: front.reverse := by simp
    rw [backwards, List.dropWhile_append_of_pos (by simpa using blank)]
    simp [solid]

theorem trim_subset (text : Text) : trim text ⊆ text := by
  intro char member
  rw [trim, trimEnd, List.mem_reverse] at member
  have kept := (List.dropWhile_sublist isBlank).subset member
  rw [List.mem_reverse] at kept
  exact (List.dropWhile_sublist isBlank).subset kept

/-- Letters and digits are ASCII characters from `0` to `z`. -/
theorem toNat_of_isAlphanum {char : Char} (alphanumeric : char.isAlphanum)
    : 0x30 ≤ char.toNat ∧ char.toNat ≤ 0x7A := by
  have same : char.val.toNat = char.toNat := rfl
  have ends : 'A'.val.toNat = 0x41 ∧ 'Z'.val.toNat = 0x5A ∧ 'a'.val.toNat = 0x61
      ∧ 'z'.val.toNat = 0x7A ∧ '0'.val.toNat = 0x30 ∧ '9'.val.toNat = 0x39 := by decide
  delta Char.isAlphanum Char.isAlpha Char.isUpper Char.isLower Char.isDigit at alphanumeric
  simp only [Bool.or_eq_true, Bool.and_eq_true, decide_eq_true_eq, ge_iff_le,
    UInt32.le_iff_toNat_le] at alphanumeric
  omega

/-- No ASCII character from `!` on is a blank. -/
theorem isBlank_eq_false {char : Char} (low : 0x21 ≤ char.toNat) (high : char.toNat ≤ 0x7E)
    : isBlank char = false := by
  simp only [isBlank, Bool.or_eq_false_iff, Bool.and_eq_false_iff, decide_eq_false_iff_not,
    beq_eq_false_iff_ne]
  omega

end PageAudit.Text
