import PageAudit.Text.Order

/-! Finite sets of texts, kept in the order of their code points, so that equal sets are equal
values and have one written form.
-/

namespace PageAudit

/-- A set of texts as the list of its members in increasing order. -/
structure TextSet where
  items : List Text
  increasing : items.Pairwise (Text.isBefore · ·)

namespace TextSet

/-- A list in increasing order with one more text at its place. -/
def insertItem (text : Text) : List Text → List Text
  | [] => [text]
  | item :: items =>
      if Text.isBefore text item then text :: item :: items
      else if text = item then item :: items
      else item :: insertItem text items

/-- The members behind an insertion are the text and the members before it. -/
theorem mem_insertItem {text member : Text} {items : List Text}
    : member ∈ insertItem text items ↔ member = text ∨ member ∈ items := by
  induction items with
  | nil => simp [insertItem]
  | cons item items ih =>
      unfold insertItem
      split
      · simp
      · split
        · next same =>
            subst same
            simp
        · simp only [List.mem_cons, ih]
          exact or_left_comm

/-- An insertion keeps the order, since a text that is neither less than an item nor equal to
it is greater.
-/
theorem increasing_insertItem {text : Text} {items : List Text}
    (increasing : items.Pairwise (Text.isBefore · ·))
    : (insertItem text items).Pairwise (Text.isBefore · ·) := by
  induction items with
  | nil => simp [insertItem]
  | cons item items ih =>
      obtain ⟨first, rest⟩ := List.pairwise_cons.mp increasing
      unfold insertItem
      split
      · next less =>
          refine List.pairwise_cons.mpr ⟨fun other member => ?_, increasing⟩
          rcases List.mem_cons.mp member with same | member
          · exact same ▸ less
          · exact Text.isBefore_trans less (first other member)
      · next notLess =>
          split
          · exact increasing
          · next different =>
              refine List.pairwise_cons.mpr ⟨fun other member => ?_, ih rest⟩
              rcases mem_insertItem.mp member with same | member
              · subst same
                exact Text.isBefore_of_ne different (Bool.eq_false_iff.mpr notLess)
              · exact first other member

/-- The empty set. -/
def empty : TextSet :=
  { items := [], increasing := .nil }

/-- The set with one more member. -/
def insert (set : TextSet) (text : Text) : TextSet :=
  { items := insertItem text set.items, increasing := increasing_insertItem set.increasing }

/-- The set of the texts in a list. -/
def ofList (texts : List Text) : TextSet :=
  texts.foldl insert empty

/-- A text is a member of a set. -/
def contains (set : TextSet) (text : Text) : Bool :=
  set.items.contains text

end TextSet

end PageAudit
