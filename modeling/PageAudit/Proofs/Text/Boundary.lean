import PageAudit.Source.Span

/-! Byte sizes of texts add up, and the places between characters are the offsets at which a
text can be cut.
-/

namespace PageAudit

namespace Text

/-- The size of a text that is measured on top of another size. -/
theorem foldl_utf8Size (size : Nat) (text : Text)
    : text.foldl (fun size char => size + char.utf8Size) size = size + byteSize text := by
  induction text generalizing size with
  | nil => rfl
  | cons char rest ih =>
      simp only [List.foldl_cons, byteSize, Nat.zero_add]
      rw [ih, ih, Nat.add_assoc]

@[simp] theorem byteSize_nil : byteSize [] = 0 := rfl

@[simp] theorem byteSize_cons (char : Char) (rest : Text)
    : byteSize (char :: rest) = char.utf8Size + byteSize rest := by
  rw [byteSize, List.foldl_cons, Nat.zero_add, foldl_utf8Size]

@[simp] theorem byteSize_append (left right : Text)
    : byteSize (left ++ right) = byteSize left + byteSize right := by
  induction left with
  | nil => simp
  | cons char left ih => simp [ih, Nat.add_assoc]

/-- Only the empty text has no bytes. -/
theorem byteSize_pos {text : Text} (nonempty : text ≠ []) : 0 < byteSize text := by
  cases text with
  | nil => exact absurd rfl nonempty
  | cons char rest =>
      have positive := char.utf8Size_pos
      simp only [byteSize_cons]
      omega

/-- Of two front parts of a text the one with fewer bytes is a front part of the other one. -/
theorem split_of_byteSize_le {first second left right : Text}
    (same : first ++ second = left ++ right) (less : byteSize first ≤ byteSize left)
    : ∃ more, left = first ++ more ∧ second = more ++ right := by
  rcases List.append_eq_append_iff.mp same with ⟨more, rfl, tail⟩ | ⟨more, rfl, tail⟩
  · exact ⟨more, rfl, tail⟩
  · have none : more = [] := Classical.byContradiction fun nonempty => by
      have positive := byteSize_pos nonempty
      rw [byteSize_append] at less
      omega
    subst none
    exact ⟨[], by simp, by simpa using tail.symm⟩

/-- An offset lies between two characters of a text, or at one of its ends. -/
def IsBoundary (text : Text) (offset : Nat) : Prop :=
  ∃ before after, text = before ++ after ∧ byteSize before = offset

theorem IsBoundary.le_byteSize {text : Text} {offset : Nat} (boundary : IsBoundary text offset)
    : offset ≤ byteSize text := by
  obtain ⟨before, after, rfl, rfl⟩ := boundary
  simp

theorem isBoundary_zero (text : Text) : IsBoundary text 0 :=
  ⟨[], text, rfl, rfl⟩

theorem isBoundary_byteSize (text : Text) : IsBoundary text (byteSize text) :=
  ⟨text, [], by simp, rfl⟩

theorem dropBytes?_cons (count : Nat) (char : Char) (rest : Text)
    : dropBytes? (char.utf8Size + count) (char :: rest) = dropBytes? count rest := by
  obtain ⟨less, size⟩ := Nat.exists_eq_add_one.mpr char.utf8Size_pos
  have split : char.utf8Size + count = less + count + 1 := by omega
  rw [split, dropBytes?, if_pos (by omega), ← split, Nat.add_sub_cancel_left]

theorem takeBytesOnto?_cons (seen : Text) (count : Nat) (char : Char) (rest : Text)
    : takeBytesOnto? seen (char.utf8Size + count) (char :: rest)
      = takeBytesOnto? (char :: seen) count rest := by
  obtain ⟨less, size⟩ := Nat.exists_eq_add_one.mpr char.utf8Size_pos
  have split : char.utf8Size + count = less + count + 1 := by omega
  rw [split, takeBytesOnto?, if_pos (by omega), ← split, Nat.add_sub_cancel_left]

/-- What follows a prefix stands behind as many bytes as the prefix has. -/
theorem dropBytes?_append (before after : Text)
    : dropBytes? (byteSize before) (before ++ after) = some after := by
  induction before with
  | nil => simp [dropBytes?]
  | cons char before ih => rw [byteSize_cons, List.cons_append, dropBytes?_cons, ih]

/-- A prefix is what stands in front of as many bytes as it has. -/
theorem takeBytesOnto?_append (seen before after : Text)
    : takeBytesOnto? seen (byteSize before) (before ++ after)
      = some (seen.reverse ++ before) := by
  induction before generalizing seen with
  | nil => simp [takeBytesOnto?]
  | cons char before ih =>
      rw [byteSize_cons, List.cons_append, takeBytesOnto?_cons, ih]
      simp

/-- The slice between the bytes in front of a part and those up to its end is that part. -/
theorem slice?_append (before part after : Text)
    : slice? (before ++ (part ++ after)) (byteSize before) (byteSize before + byteSize part)
      = some part := by
  rw [slice?, if_pos (Nat.le_add_right _ _), dropBytes?_append, Nat.add_sub_cancel_left,
    Option.bind_some, takeBytesOnto?_append]
  simp

end Text

/-- A span lies in a text: its ends are in order, and both are boundaries. -/
structure Span.LiesIn (span : Span) (text : Text) : Prop where
  ordered : span.start ≤ span.stop
  start : Text.IsBoundary text span.start
  stop : Text.IsBoundary text span.stop

namespace Span.LiesIn

theorem documentStart (text : Text) : Span.documentStart.LiesIn text :=
  ⟨Nat.le_refl 0, Text.isBoundary_zero text, Text.isBoundary_zero text⟩

theorem of_append (before part after : Text)
    : Span.LiesIn
        { start := Text.byteSize before, stop := Text.byteSize before + Text.byteSize part }
        (before ++ (part ++ after)) where
  ordered := Nat.le_add_right _ _
  start := ⟨before, part ++ after, rfl, rfl⟩
  stop := ⟨before ++ part, after, by simp, by simp⟩

/-- The span between two boundaries lies in the text, also when it is raised to its start. -/
theorem between {text : Text} {start stop : Nat} (first : Text.IsBoundary text start)
    (second : Text.IsBoundary text stop)
    : (Span.between start stop).LiesIn text where
  ordered := Nat.le_max_left _ _
  start := first
  stop := by
    rcases Nat.le_total start stop with ordered | reversed
    · simpa [Span.between, Nat.max_eq_right ordered] using second
    · simpa [Span.between, Nat.max_eq_left reversed] using first

end Span.LiesIn

end PageAudit
