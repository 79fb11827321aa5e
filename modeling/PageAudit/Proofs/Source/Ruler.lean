import Mathlib.Data.List.Induction
import PageAudit.Proofs.Text.Boundary
import PageAudit.Source.Ruler

/-! A ruler along a text shows, at each place between two characters, that place itself and its line
and column there.
-/

namespace PageAudit

-----------------------------------------------------------------------------------------
-- Lines and columns
-----------------------------------------------------------------------------------------

/-- The position behind some characters: one line for each line feed among them, and one column for
each character behind the last of those.
-/
def Position.behind (text : Text) : Position :=
  { line := 1 + text.count '\n'
    column := 1 + (text.reverse.takeWhile (· ≠ '\n')).length }

/-- Going on from character to character leads to the position behind them, by induction from the
last character.
-/
theorem Position.foldl_advance (text : Text)
    : text.foldl Position.advance .origin = .behind text := by
  induction text using List.reverseRecOn with
  | nil => rfl
  | append_singleton text char ih =>
      rw [List.foldl_append, ih, List.foldl_cons, List.foldl_nil, Position.advance]
      by_cases ends : char = '\n'
      · simp [behind, ends, Nat.add_assoc]
      · simp [behind, ends, Nat.add_assoc]

namespace Ruler

-----------------------------------------------------------------------------------------
-- Growing
-----------------------------------------------------------------------------------------

theorem size_pushInner (boundary line count : Nat) (marks : Array Mark)
    : (pushInner boundary line count marks).size = marks.size + count := by
  induction count generalizing marks with
  | zero => rfl
  | succ count ih => rw [pushInner, ih, Array.size_push, Nat.add_right_comm, Nat.add_assoc]

/-- The marks within a character change no earlier ones. -/
theorem getElem?_pushInner (boundary line count : Nat) {marks : Array Mark} {index : Nat}
    (earlier : index < marks.size)
    : (pushInner boundary line count marks)[index]? = marks[index]? := by
  induction count generalizing marks with
  | zero => rfl
  | succ count ih =>
      rw [pushInner, ih (by rw [Array.size_push]; omega), Array.getElem?_push_lt earlier,
        Array.getElem?_eq_getElem earlier]

/-- The marks within a character show its start and the first column of its line. -/
theorem getElem?_pushInner_inner {boundary line count : Nat} {marks : Array Mark} {index : Nat}
    (behind : marks.size ≤ index) (within : index < marks.size + count)
    : (pushInner boundary line count marks)[index]?
      = some { boundary, position := { line, column := 1 } } := by
  induction count generalizing marks with
  | zero => exact absurd within (Nat.not_lt_of_le behind)
  | succ count ih =>
      rw [pushInner]
      rcases Nat.eq_or_lt_of_le behind with rfl | later
      · rw [getElem?_pushInner _ _ _ (by rw [Array.size_push]; omega), Array.getElem?_push_size]
      · exact ih (by rwa [Array.size_push]) (by rw [Array.size_push]; omega)

theorem size_push (ruler : Ruler) (char : Char)
    : (ruler.push char).marks.size = ruler.marks.size + char.utf8Size := by
  have positive := char.utf8Size_pos
  rw [push, size_pushInner, Array.size_push]
  omega

theorem getElem?_push {ruler : Ruler} {index : Nat} (earlier : index < ruler.marks.size)
    (char : Char)
    : (ruler.push char).marks[index]? = ruler.marks[index]? := by
  rw [push, getElem?_pushInner _ _ _ (by rw [Array.size_push]; omega),
    Array.getElem?_push_lt earlier, Array.getElem?_eq_getElem earlier]

/-- The mark at the end becomes the mark at the first byte of one more character. -/
theorem getElem?_push_size (ruler : Ruler) (char : Char)
    : (ruler.push char).marks[ruler.marks.size]? = some ruler.last := by
  rw [push, getElem?_pushInner _ _ _ (by rw [Array.size_push]; omega), Array.getElem?_push_size]

/-- The bytes of one more character behind its first show the place of the mark at the end. -/
theorem getElem?_push_inner (ruler : Ruler) {char : Char} {inner : Nat}
    (within : inner + 1 < char.utf8Size)
    : (ruler.push char).marks[ruler.marks.size + (inner + 1)]?
      = some
          { boundary := ruler.last.boundary
            position := { line := ruler.last.position.line, column := 1 } } := by
  rw [push]
  exact getElem?_pushInner_inner (by rw [Array.size_push]; omega)
    (by rw [Array.size_push]; omega)

theorem getElem?_foldl_push {ruler : Ruler} {index : Nat} (earlier : index < ruler.marks.size)
    (text : Text)
    : (text.foldl push ruler).marks[index]? = ruler.marks[index]? := by
  induction text generalizing ruler with
  | nil => rfl
  | cons char text ih =>
      have still : index < (ruler.push char).marks.size := by
        rw [size_push]
        omega
      rw [List.foldl_cons, ih still, getElem?_push earlier]

/-- A ruler has a mark for each byte that it was laid along. -/
theorem size_foldl_push (ruler : Ruler) (text : Text)
    : (text.foldl push ruler).marks.size = ruler.marks.size + Text.byteSize text := by
  induction text generalizing ruler with
  | nil => rfl
  | cons char text ih => rw [List.foldl_cons, ih, size_push, Text.byteSize_cons, Nat.add_assoc]

/-- The mark at the end is moved by the bytes and the positions of more characters. -/
theorem last_foldl_push (ruler : Ruler) (text : Text)
    : (text.foldl push ruler).last
      = { boundary := ruler.last.boundary + Text.byteSize text
          position := text.foldl Position.advance ruler.last.position } := by
  induction text generalizing ruler with
  | nil => rfl
  | cons char text ih => rw [List.foldl_cons, ih, Text.byteSize_cons, ← Nat.add_assoc]; rfl

theorem mark_of_getElem? {ruler : Ruler} {index : Nat} {mark : Mark}
    (here : ruler.marks[index]? = some mark)
    : ruler.mark index = mark := by
  obtain ⟨bound, same⟩ := Array.getElem?_eq_some_iff.mp here
  rw [Ruler.mark, dif_pos bound, same]

/-- Behind a ruler its last mark stays where it is when the ruler grows. -/
theorem mark_foldl_push (ruler : Ruler) (text : Text)
    : (text.foldl push ruler).mark ruler.marks.size = ruler.last := by
  cases text with
  | nil => exact dif_neg (Nat.lt_irrefl _)
  | cons char text =>
      have inside : ruler.marks.size < (ruler.push char).marks.size := by
        rw [size_push]
        exact Nat.lt_add_of_pos_right char.utf8Size_pos
      exact mark_of_getElem?
        (by rw [List.foldl_cons, getElem?_foldl_push inside, getElem?_push_size])

-----------------------------------------------------------------------------------------
-- Reading
-----------------------------------------------------------------------------------------

theorem ofText_append (before after : Text)
    : ofText (before ++ after) = after.foldl push (ofText before) :=
  List.foldl_append

theorem size_ofText (text : Text) : (ofText text).marks.size = Text.byteSize text := by
  have start : empty.marks.size = 0 := rfl
  rw [ofText, size_foldl_push, start, Nat.zero_add]

theorem last_ofText (text : Text)
    : (ofText text).last = { boundary := Text.byteSize text, position := .behind text } := by
  rw [ofText, last_foldl_push]
  simp [empty, Position.foldl_advance]

/-- Between two parts of a text the ruler shows the size of the first one and the position behind
it.
-/
theorem mark_ofText (before after : Text)
    : (ofText (before ++ after)).mark (Text.byteSize before)
      = { boundary := Text.byteSize before, position := .behind before } := by
  rw [← last_ofText, ← size_ofText, ofText_append, mark_foldl_push]

/-- Within a character the ruler shows its start, and the first column of its line. -/
theorem mark_ofText_inner (before : Text) {char : Char} (after : Text) {inner : Nat}
    (within : inner + 1 < char.utf8Size)
    : (ofText (before ++ char :: after)).mark (Text.byteSize before + (inner + 1))
      = { boundary := Text.byteSize before
          position := { line := (Position.behind before).line, column := 1 } } := by
  have inside : Text.byteSize before + (inner + 1) < ((ofText before).push char).marks.size := by
    rw [size_push, size_ofText]
    omega
  refine mark_of_getElem? ?_
  rw [ofText_append, List.foldl_cons, getElem?_foldl_push inside, ← size_ofText,
    getElem?_push_inner _ within, last_ofText, size_ofText]

/-- Beyond the end of a text the ruler shows the end. -/
theorem mark_ofText_beyond {text : Text} {offset : Nat} (beyond : Text.byteSize text ≤ offset)
    : (ofText text).mark offset
      = { boundary := Text.byteSize text, position := .behind text } := by
  rw [mark, dif_neg (by rw [size_ofText]; omega), last_ofText]

theorem boundary_eq_self {text : Text} {offset : Nat} (place : Text.IsBoundary text offset)
    : (ofText text).boundary offset = offset := by
  obtain ⟨before, after, rfl, rfl⟩ := place
  rw [boundary, mark_ofText]

/-- A span that lies in a text is not changed when it is clamped into it. -/
theorem clamp_eq {text : Text} {span : Span} (lies : span.LiesIn text)
    : (ofText text).clamp span = span := by
  rw [clamp, boundary_eq_self lies.start, boundary_eq_self lies.stop, Span.between,
    Nat.max_eq_right lies.ordered]

end Ruler

end PageAudit
