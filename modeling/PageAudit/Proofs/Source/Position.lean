import Mathlib.Data.Prod.Lex
import Mathlib.Order.Monotone.Basic
import PageAudit.Proofs.Source.Clamp

/-! Positions and offsets. The positions of boundaries stand in the order of their offsets, and the
offset can be read off each of them. Within a character the first column of the line is shown, so
there positions go back, while lines never do.
-/

namespace PageAudit

variable {text : Text}

-----------------------------------------------------------------------------------------
-- The order of positions
-----------------------------------------------------------------------------------------

namespace Position

/-- Positions are ordered by lines, and within a line by columns. -/
def rank (position : Position) : Nat ×ₗ Nat :=
  toLex (position.line, position.column)

theorem line_le_of_rank_le {first second : Position} (ordered : first.rank ≤ second.rank)
    : first.line ≤ second.line := by
  rcases Prod.Lex.toLex_le_toLex.mp ordered with less | ⟨same, -⟩
  · exact Nat.le_of_lt less
  · exact Nat.le_of_eq same

theorem firstColumn_eq_iff {position : Position}
    : { position with column := 1 } = position ↔ position.column = 1 := by
  cases position
  simp [eq_comm]

/-- The position behind a character is a later one: in the next line, or in the next column. -/
theorem rank_lt_advance (position : Position) (char : Char)
    : position.rank < (position.advance char).rank := by
  rw [rank, rank, Prod.Lex.toLex_lt_toLex, advance]
  split
  · exact .inl (Nat.lt_succ_self _)
  · exact .inr ⟨rfl, Nat.lt_succ_self _⟩

theorem rank_le_foldl_advance (position : Position) (text : Text)
    : position.rank ≤ (text.foldl advance position).rank := by
  induction text generalizing position with
  | nil => exact le_refl _
  | cons char text ih => exact (rank_lt_advance position char).le.trans (ih _)

theorem behind_append (front more : Text)
    : behind (front ++ more) = more.foldl advance (behind front) := by
  rw [← foldl_advance, List.foldl_append, foldl_advance]

/-- More characters lead to a later position. -/
theorem rank_behind_lt {front more : Text} (nonempty : more ≠ [])
    : (behind front).rank < (behind (front ++ more)).rank := by
  rw [behind_append]
  cases more with
  | nil => exact absurd rfl nonempty
  | cons char more => exact (rank_lt_advance _ char).trans_le (rank_le_foldl_advance _ more)

end Position

-----------------------------------------------------------------------------------------
-- From positions to offsets
-----------------------------------------------------------------------------------------

/-- (Text.lineStart? count text) is the offset just behind so many line feeds of a text. -/
def Text.lineStart? : Nat → Text → Option Nat
  | 0, _ => some 0
  | _ + 1, [] => none
  | count + 1, char :: rest =>
      (lineStart? (if char = '\n' then count else count + 1) rest).map (char.utf8Size + ·)

/-- The offset of a position in a text: from the start of its line on, a character is passed for
each column in front of it.
-/
def Position.offset? (text : Text) (position : Position) : Option Nat :=
  (Text.lineStart? (position.line - 1) text).bind fun start =>
    (Text.dropBytes? start text).bind fun rest =>
      if position.column - 1 ≤ rest.length then
        some (start + Text.byteSize (rest.take (position.column - 1)))
      else none

/-- A line starts behind each line feed, by induction over what stands in front of it. -/
theorem Text.lineStart?_behind (front rest : Text)
    : lineStart? (front.count '\n' + 1) (front ++ '\n' :: rest)
      = some (byteSize (front ++ ['\n'])) := by
  induction front with
  | nil => rw [List.count_nil, List.nil_append, lineStart?, if_pos rfl, lineStart?]; rfl
  | cons char front ih =>
      rw [List.cons_append, List.cons_append, byteSize_cons]
      by_cases lineFeed : char = '\n'
      · rw [lineFeed, List.count_cons_self, lineStart?, if_pos rfl, ih, Option.map_some]
      · rw [List.count_cons_of_ne lineFeed, lineStart?, if_neg lineFeed, ih, Option.map_some]

namespace Position

/-- What stands in front of a position is some whole lines and the characters in front of it in its
own line. The induction is from the last character on.
-/
theorem exists_line (text : Text)
    : ∃ lines line,
        text = lines ++ line
        ∧ behind text = { line := 1 + lines.count '\n', column := 1 + line.length }
        ∧ ∀ rest,
          Text.lineStart? (lines.count '\n') (lines ++ rest) = some (Text.byteSize lines) := by
  induction text using List.reverseRecOn with
  | nil => exact ⟨[], [], rfl, rfl, fun rest => by rw [List.count_nil, Text.lineStart?]; rfl⟩
  | append_singleton text char ih =>
      rw [behind_append, List.foldl_cons, List.foldl_nil, advance]
      by_cases lineFeed : char = '\n'
      · subst lineFeed
        have counted : (text ++ ['\n']).count '\n' = text.count '\n' + 1 := by simp
        refine ⟨text ++ ['\n'], [], (List.append_nil _).symm, ?_, fun rest => ?_⟩
        · rw [if_pos rfl, counted]
          rfl
        · rw [counted, List.append_assoc, List.singleton_append]
          exact Text.lineStart?_behind text rest
      · obtain ⟨lines, line, rfl, place, start⟩ := ih
        refine ⟨lines, line ++ [char], List.append_assoc _ _ _, ?_, start⟩
        rw [if_neg lineFeed, place, List.length_append, List.length_singleton, Nat.add_assoc]

/-- The offset of the position behind a part of a text is the size of that part. -/
theorem offset?_behind (before after : Text)
    : (behind before).offset? (before ++ after) = some (Text.byteSize before) := by
  obtain ⟨lines, line, rfl, place, start⟩ := exists_line before
  have fits : line.length ≤ (line ++ after).length := by simp
  simp only [place, offset?, Nat.add_sub_cancel_left]
  rw [List.append_assoc, start, Option.bind_some, Text.dropBytes?_append, Option.bind_some,
    if_pos fits, List.take_left, Text.byteSize_append]

end Position

namespace Ruler

/-- Between two parts of a text is the position behind the first one. -/
theorem position_ofText (before after : Text)
    : (ofText (before ++ after)).position (Text.byteSize before) = .behind before := by
  rw [position, mark_ofText]

theorem strictMonoOn_rank (text : Text)
    : StrictMonoOn (fun offset => ((ofText text).position offset).rank)
        {offset | Text.IsBoundary text offset} := by
  rintro _ ⟨before, after, split, rfl⟩ _ ⟨front, rest, rfl, rfl⟩ less
  obtain ⟨more, rfl, rfl⟩ := Text.split_of_byteSize_le split.symm (Nat.le_of_lt less)
  have nonempty : more ≠ [] := by
    rintro rfl
    rw [List.append_nil] at less
    exact Nat.lt_irrefl _ less
  dsimp only
  rw [position_ofText, split, position_ofText]
  exact Position.rank_behind_lt nonempty

/-- Boundaries have positions in the order of their offsets, so no two of them share one, and each
is found again from the line and the column of its position. Beyond the end of the text the position
is that of the end.
-/
theorem position_orders_boundaries (text : Text)
    : let ruler := ofText text
      let boundaries := {offset | Text.IsBoundary text offset}
      StrictMonoOn (fun offset => (ruler.position offset).rank) boundaries
      ∧ Set.InjOn ruler.position boundaries
      ∧ (∀ offset ∈ boundaries, (ruler.position offset).offset? text = some offset)
      ∧ ∀ offset,
          Text.byteSize text ≤ offset
          → ruler.position offset = ruler.position (Text.byteSize text) := by
  intro ruler boundaries
  have increasing := strictMonoOn_rank text
  refine ⟨increasing, ?_, ?_, ?_⟩
  · intro first isFirst second isSecond same
    exact increasing.injOn isFirst isSecond (congrArg Position.rank same)
  · rintro _ ⟨before, after, rfl, rfl⟩
    rw [position_ofText]
    exact Position.offset?_behind before after
  · intro offset beyond
    have last := mark_ofText_beyond (Nat.le_refl (Text.byteSize text))
    rw [position, position, mark_ofText_beyond beyond, last]

theorem position_orders_boundaries_emptyLine
    : let text : Text := "é\n\nb"
      let ruler := ofText text
      Text.IsBoundary text 2
      ∧ Text.IsBoundary text 3
      ∧ (ruler.position 2).rank < (ruler.position 3).rank
      ∧ ruler.position 2 ≠ ruler.position 3
      ∧ ruler.position 3 = { line := 2, column := 1 }
      ∧ (ruler.position 3).offset? text = some 3
      ∧ Text.byteSize text ≤ 9
      ∧ ruler.position 9 = ruler.position (Text.byteSize text) := by
  intro text ruler
  have feed : Text.IsBoundary text 2 := by decide
  have empty : Text.IsBoundary text 3 := by decide
  have beyond : Text.byteSize text ≤ 9 := by decide
  obtain ⟨increasing, injective, found, ends⟩ := position_orders_boundaries text
  have differ : ruler.position 2 ≠ ruler.position 3 := by
    intro same
    exact absurd (injective feed empty same) (by decide)
  exact ⟨feed, empty, increasing feed empty (by decide), differ, by decide, found 3 empty, beyond,
    ends 9 beyond⟩

-----------------------------------------------------------------------------------------
-- Offsets within characters
-----------------------------------------------------------------------------------------

/-- The start of the character that an offset lies in, as clamping finds it. -/
theorem start_clamp_between (text : Text) (offset : Nat)
    : ((ofText text).clamp (.between offset offset)).start = (ofText text).boundary offset := by
  rw [clamp_between_eq]

/-- An offset has the position of the boundary that clamping moves it to, but within a character the
column is the first one.
-/
theorem position_eq (text : Text) (offset : Nat)
    : (ofText text).position offset
      = if Text.IsBoundary text (min offset (Text.byteSize text)) then
          (ofText text).position ((ofText text).boundary offset)
        else { (ofText text).position ((ofText text).boundary offset) with column := 1 } := by
  rcases Nat.lt_or_ge offset (Text.byteSize text) with inside | beyond
  · rw [Nat.min_eq_left (Nat.le_of_lt inside)]
    split
    · next boundary => rw [boundary_eq_self boundary]
    · next within =>
        obtain ⟨before, char, after, inner, rfl, less, rfl⟩ := Text.exists_char inside
        -- the first byte of a character is at a boundary, the others show its line only
        cases inner with
        | zero => exact absurd ⟨before, char :: after, rfl, rfl⟩ within
        | succ inner =>
            have mark := mark_ofText_inner before after less
            have start : (ofText (before ++ char :: after)).boundary
                (Text.byteSize before + (inner + 1)) = Text.byteSize before := by
              rw [Ruler.boundary, mark]
            rw [start, position_ofText, position, mark]
  · have last := mark_ofText_beyond (Nat.le_refl (Text.byteSize text))
    rw [Nat.min_eq_right beyond, if_pos (Text.isBoundary_byteSize text), boundary, position,
      mark_ofText_beyond beyond, position, last]

/-- The line of an offset is that of the boundary that it is moved to. -/
theorem line_position (text : Text) (offset : Nat)
    : ((ofText text).position offset).line
      = ((ofText text).position ((ofText text).boundary offset)).line := by
  rw [position_eq]
  split <;> rfl

/-- The positions of the boundaries that offsets are moved to never go back. -/
theorem monotone_rank (text : Text)
    : Monotone fun offset => ((ofText text).position ((ofText text).boundary offset)).rank := by
  intro first second ordered
  exact (strictMonoOn_rank text).monotoneOn (isBoundary_boundary text first)
    (isBoundary_boundary text second) (boundary_mono ordered)

/-- An offset has the position of the boundary that clamping moves it to, but within a character the
column is the first one. So both agree at boundaries, beyond the end of the text and within the
first character of a line, and only there. As the offset grows lines never go back, and neither do
the positions of the boundaries.
-/
theorem position_snapped (text : Text)
    : let ruler := ofText text
      let snapped (offset : Nat) := ruler.position (ruler.clamp (.between offset offset)).start
      (∀ offset,
        ruler.position offset
          = (if Text.IsBoundary text (min offset (Text.byteSize text)) then snapped offset
            else { snapped offset with column := 1 })
        ∧ (ruler.position offset = snapped offset
          ↔ Text.IsBoundary text (min offset (Text.byteSize text))
            ∨ (snapped offset).column = 1))
      ∧ Monotone (fun offset => (ruler.position offset).line)
      ∧ Monotone fun offset => (snapped offset).rank := by
  intro ruler snapped
  have same (offset : Nat) : snapped offset = ruler.position (ruler.boundary offset) := by
    simp only [snapped, ruler, start_clamp_between]
  simp only [same]
  refine ⟨fun offset => ⟨position_eq text offset, ?_⟩, ?_, monotone_rank text⟩
  · rw [position_eq text offset]
    split
    · next boundary => exact iff_of_true rfl (.inl boundary)
    · next within => rw [Position.firstColumn_eq_iff, or_iff_right within]
  · intro first second ordered
    have lines := Position.line_le_of_rank_le (monotone_rank text ordered)
    rwa [← line_position, ← line_position] at lines

/-- Within the second character of a line the position goes back to the first column, although that
character is at the second one.
-/
theorem position_within_accent
    : let ruler := ofText "aé"
      (ruler.clamp (.between 2 2)).start = 1
      ∧ ruler.position 2 ≠ ruler.position (ruler.clamp (.between 2 2)).start
      ∧ (ruler.position 2).rank < (ruler.position 1).rank := by
  decide

end Ruler

end PageAudit
