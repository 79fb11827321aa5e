import PageAudit.Proofs.Text.Encoding
import PageAudit.Proofs.Text.Trim
import PageAudit.Rule.Loading

/-! The size of the content of a `data:` reference. For content in base 64 it is the exact number of
bytes. Other content is measured as it is written, so that each escaped byte counts three times.
-/

namespace PageAudit.Rule

variable {before media mark payload after : Text} {bytes : List UInt8}

/-- A `data:` reference as it is written. -/
def writtenData (media payload : Text) : Text :=
  "data:".toList ++ (media ++ ',' :: payload)

/-- A media type that ends with the mark of base 64, in any case. -/
def MarksBase64 (media : Text) : Prop :=
  ∃ front mark, media = front ++ mark ∧ Text.sameLetters mark ";base64"

-----------------------------------------------------------------------------------------
-- The parts of a reference
-----------------------------------------------------------------------------------------

theorem sameLetters_mark_iff : Text.sameLetters mark ";base64" ↔ Text.lower mark = ";base64" := by
  have lower : Text.lower ";base64" = ";base64" := by decide
  rw [Text.sameLetters, lower, beq_iff_eq]

theorem endsWith_mark_iff : Text.endsWith (Text.lower media) ";base64" ↔ MarksBase64 media := by
  rw [Text.endsWith, List.isSuffixOf_iff_suffix]
  constructor
  · rintro ⟨front, split⟩
    obtain ⟨others, mark, rfl, -, same⟩ := List.map_eq_append_iff.mp split.symm
    exact ⟨others, mark, rfl, sameLetters_mark_iff.mpr same⟩
  · rintro ⟨front, mark, rfl, same⟩
    refine ⟨Text.lower front, ?_⟩
    rw [← sameLetters_mark_iff.mp same]
    exact List.map_append.symm

theorem not_mem_mark (same : Text.sameLetters mark ";base64") : ',' ∉ mark := by
  intro member
  have lower : Char.toLower ',' ∈ Text.lower mark := List.mem_map_of_mem member
  rw [sameLetters_mark_iff.mp same] at lower
  exact absurd lower (by decide)

/-- Blanks around a reference do not matter, and its first comma ends the media type. -/
theorem dataSize?_around (blankBefore : ∀ char ∈ before, Text.isBlank char)
    (blankAfter : ∀ char ∈ after, Text.isBlank char) (single : ',' ∉ media)
    (solid : ∀ char ∈ payload.getLast?, Text.isBlank char = false)
    : dataSize? (before ++ (writtenData media payload ++ after))
      = if Text.endsWith (Text.lower media) ";base64" then
          some (Text.byteSize (payload.reverse.dropWhile (· == '=')) * 3 / 4)
        else some (Text.byteSize payload) := by
  have last : ∀ char ∈ (writtenData media payload).getLast?, Text.isBlank char = false := by
    rw [writtenData, ← List.append_assoc, List.getLast?_append, List.getLast?_cons,
      Option.some_or]
    cases ending : payload.getLast? with
    | none => simpa using (by decide : Text.isBlank ',' = false)
    | some char => simpa using solid char ending
  have trimmed : Text.trim (before ++ (writtenData media payload ++ after))
      = writtenData media payload :=
    Text.trim_around blankBefore blankAfter (by simp [writtenData]; decide) last
  have behind : Text.after? "data:" (writtenData media payload) = some (media ++ ',' :: payload) :=
    Text.after?_eq_some_iff.mpr rfl
  have run : (media ++ ',' :: payload).span (· != ',') = (media, ',' :: payload) := by
    refine Text.span_eq_iff.mpr ⟨rfl, fun char member => ?_, by simp⟩
    rw [bne_iff_ne]
    rintro rfl
    exact single member
  rw [dataSize?, trimmed, behind, Option.bind_some, run]

/-- The signs that fill up the last group are not counted. -/
theorem dropWhile_padding {digits padding : Text} (fills : ∀ char ∈ padding, char = '=')
    (none : '=' ∉ digits)
    : (digits ++ padding).reverse.dropWhile (· == '=') = digits.reverse := by
  rw [List.reverse_append, List.dropWhile_append_of_pos (by simpa using fills)]
  cases backwards : digits.reverse with
  | nil => rfl
  | cons last others =>
      have other : last ≠ '=' := by
        rintro rfl
        have member : '=' ∈ digits.reverse := backwards ▸ List.mem_cons_self
        exact none (List.mem_reverse.mp member)
      rw [List.dropWhile_cons_of_neg (by simpa using other)]

-----------------------------------------------------------------------------------------
-- Content in base 64
-----------------------------------------------------------------------------------------

/-- Content in base 64 has exactly the size of the bytes that it encodes, with or without the signs
that fill it up. It is recognised by its mark in any case, with any blanks around the reference.
-/
theorem dataSize?_base64 (blankBefore : ∀ char ∈ before, Text.isBlank char)
    (blankAfter : ∀ char ∈ after, Text.isBlank char) (single : ',' ∉ media)
    (marks : Text.sameLetters mark ";base64") (bytes : List UInt8) {padding : Text}
    (filled : padding = [] ∨ padding = Text.Base64.padding bytes)
    : dataSize?
        (before ++ (writtenData (media ++ mark) (Text.Base64.encode bytes ++ padding) ++ after))
      = some bytes.length := by
  have fills : ∀ char ∈ padding, char = '=' := by
    rcases filled with rfl | rfl
    · simp
    · exact fun char => List.eq_of_mem_replicate
  have plain : ∀ char ∈ Text.Base64.encode bytes,
      char.utf8Size = 1 ∧ char ≠ '=' ∧ Text.isBlank char = false :=
    fun char => Text.Base64.plain_of_mem_encode
  have none : '=' ∉ Text.Base64.encode bytes := fun member => (plain '=' member).2.1 rfl
  have solid : ∀ char ∈ (Text.Base64.encode bytes ++ padding).getLast?,
      Text.isBlank char = false := by
    intro char last
    rcases List.mem_append.mp (List.mem_of_getLast? last) with digit | sign
    · exact (plain char digit).2.2
    · rw [fills char sign]
      decide
  have alone : ',' ∉ media ++ mark :=
    fun member => (List.mem_append.mp member).elim single (not_mem_mark marks)
  have marked : Text.endsWith (Text.lower (media ++ mark)) ";base64" :=
    endsWith_mark_iff.mpr ⟨media, mark, rfl, marks⟩
  have size : Text.byteSize (Text.Base64.encode bytes).reverse = (4 * bytes.length + 2) / 3 := by
    rw [Text.byteSize_eq_length fun char member => (plain char (List.mem_reverse.mp member)).1,
      List.length_reverse, Text.Base64.length_encode]
  rw [dataSize?_around blankBefore blankAfter alone solid, if_pos marked,
    dropWhile_padding fills none, size]
  exact congrArg some (by omega)

theorem dataSize?_base64_filled
    : let reference : Text := " data:image/gif;Base64,Zm9vYg==\n"
      (∀ char ∈ [' '], Text.isBlank char)
      ∧ (∀ char ∈ ['\n'], Text.isBlank char)
      ∧ ',' ∉ "image/gif".toList
      ∧ Text.sameLetters ";Base64" ";base64"
      ∧ "==".toList = Text.Base64.padding [0x66, 0x6F, 0x6F, 0x62]
      ∧ dataSize? reference = some 4 := by
  intro reference
  have before : ∀ char ∈ [' '], Text.isBlank char := List.forall_mem_singleton.mpr (by decide)
  have after : ∀ char ∈ ['\n'], Text.isBlank char := List.forall_mem_singleton.mpr (by decide)
  have single : ',' ∉ "image/gif".toList := by decide
  have marks : Text.sameLetters ";Base64" ";base64" := by decide
  have filled : "==".toList = Text.Base64.padding [0x66, 0x6F, 0x6F, 0x62] := by decide
  have written : reference
      = [' '] ++ (writtenData ("image/gif".toList ++ ";Base64".toList)
          (Text.Base64.encode [0x66, 0x6F, 0x6F, 0x62] ++ "==".toList) ++ ['\n']) := by
    decide
  rw [written]
  exact ⟨before, after, single, marks, filled,
    dataSize?_base64 before after single marks [0x66, 0x6F, 0x6F, 0x62] (.inr filled)⟩

-----------------------------------------------------------------------------------------
-- Content with escapes
-----------------------------------------------------------------------------------------

/-- Other content has the size of its spelling: each escaped byte counts three times, so the size is
that of the bytes exactly when none is escaped.
-/
theorem dataSize?_percentEncoded (single : ',' ∉ media) (unmarked : ¬ MarksBase64 media)
    (encodes : Text.PercentEncodes bytes payload)
    : dataSize? (writtenData media payload) = some (bytes.length + 2 * payload.count '%')
      ∧ (dataSize? (writtenData media payload) = some bytes.length ↔ '%' ∉ payload) := by
  have solid : ∀ char ∈ payload.getLast?, Text.isBlank char = false :=
    fun char last => (encodes.plain_of_mem (List.mem_of_getLast? last)).2
  have size : Text.byteSize payload = bytes.length + 2 * payload.count '%' := by
    rw [Text.byteSize_eq_length fun char member => (encodes.plain_of_mem member).1,
      encodes.length_eq]
  have nothing : ∀ char ∈ ([] : Text), Text.isBlank char := by simp
  have other : ¬ Text.endsWith (Text.lower media) ";base64" := mt endsWith_mark_iff.mp unmarked
  have measured := dataSize?_around nothing nothing single solid
  rw [List.nil_append, List.append_nil, if_neg other, size] at measured
  refine ⟨measured, ?_⟩
  rw [measured, Option.some_inj, ← List.count_eq_zero]
  omega

theorem dataSize?_percentEncoded_drawing
    : let payload : Text := "%3Cb"
      ',' ∉ "image/svg+xml".toList
      ∧ ¬ MarksBase64 "image/svg+xml"
      ∧ Text.PercentEncodes [0x3C, 0x62] payload
      ∧ dataSize? (writtenData "image/svg+xml" payload) = some (2 + 2 * payload.count '%') := by
  intro payload
  have single : ',' ∉ "image/svg+xml".toList := by decide
  have unmarked : ¬ MarksBase64 "image/svg+xml" :=
    mt endsWith_mark_iff.mpr (by decide)
  have encodes : Text.PercentEncodes [0x3C, 0x62] payload :=
    .escaped (by decide) (.plain (.inl (by decide)) (by decide) .done)
  exact ⟨single, unmarked, encodes, (dataSize?_percentEncoded single unmarked encodes).1⟩

/-- Two spellings of one letter, and the one with an escape has the size of three bytes. -/
theorem dataSize?_escaped_letter
    : ',' ∉ ([] : Text)
      ∧ ¬ MarksBase64 []
      ∧ Text.PercentEncodes [0x41] "A"
      ∧ dataSize? (writtenData [] "A") = some 1
      ∧ Text.PercentEncodes [0x41] "%41"
      ∧ dataSize? (writtenData [] "%41") = some 3 := by
  have unmarked : ¬ MarksBase64 [] := mt endsWith_mark_iff.mpr (by decide)
  have plain : Text.PercentEncodes [0x41] "A" := .plain (.inl (by decide)) (by decide) .done
  have escaped : Text.PercentEncodes [0x41] "%41" := .escaped (by decide) .done
  exact ⟨List.not_mem_nil, unmarked, plain, by decide, escaped, by decide⟩

end PageAudit.Rule
