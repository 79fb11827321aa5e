import PageAudit.Text.Set

/-! A set is the set of its members: listing it and collecting the list again changes nothing, and
collecting any list of the same texts gives the same set.
-/

namespace PageAudit.TextSet

/-- A text behind all items of a list is inserted at its end. -/
theorem insertItem_of_last {text : Text} {items : List Text}
    (last : ∀ item ∈ items, Text.isBefore item text = true)
    : insertItem text items = items ++ [text] := by
  induction items with
  | nil => rfl
  | cons item items ih =>
      have before : Text.isBefore item text = true := last item List.mem_cons_self
      have different : text ≠ item := by
        rintro rfl
        exact absurd before (Bool.eq_false_iff.mp (Text.isBefore_self text))
      have notBefore : Text.isBefore text item ≠ true := by
        intro after
        have cycle := Text.isBefore_trans after before
        exact absurd cycle (Bool.eq_false_iff.mp (Text.isBefore_self text))
      have others := ih fun other member => last other (.tail _ member)
      rw [insertItem, if_neg notBefore, if_neg different, others, List.cons_append]

/-- Texts in increasing order, all behind a set, are inserted one behind the other. -/
theorem items_foldl_insert {texts : List Text} {set : TextSet}
    (increasing : (set.items ++ texts).Pairwise (Text.isBefore · ·))
    : (texts.foldl insert set).items = set.items ++ texts := by
  induction texts generalizing set with
  | nil => exact (List.append_nil _).symm
  | cons text texts ih =>
      have behind : ∀ item ∈ set.items, Text.isBefore item text = true := fun item member =>
        (List.pairwise_append.mp increasing).2.2 item member text List.mem_cons_self
      have inserted : (set.insert text).items = set.items ++ [text] := insertItem_of_last behind
      have together : (set.insert text).items ++ texts = set.items ++ text :: texts := by
        rw [inserted, List.append_assoc, List.singleton_append]
      rw [List.foldl_cons, ih (together ▸ increasing), together]

theorem ofList_items (set : TextSet) : ofList set.items = set := by
  have same : (ofList set.items).items = set.items := items_foldl_insert set.increasing
  cases collected : ofList set.items with
  | mk items increasing =>
      rw [collected] at same
      subst same
      rfl

theorem mem_items_foldl_insert {texts : List Text} {set : TextSet} {member : Text}
    : member ∈ (texts.foldl insert set).items ↔ member ∈ set.items ∨ member ∈ texts := by
  induction texts generalizing set with
  | nil => simp
  | cons text texts ih =>
      have inserted : member ∈ (set.insert text).items ↔ member = text ∨ member ∈ set.items :=
        mem_insertItem
      rw [List.foldl_cons, ih, inserted, List.mem_cons, or_assoc, or_left_comm]

theorem mem_items_ofList {texts : List Text} {member : Text}
    : member ∈ (ofList texts).items ↔ member ∈ texts := by
  have none : member ∉ empty.items := List.not_mem_nil
  rw [ofList, mem_items_foldl_insert, or_iff_right none]

/-- Sets with the same members are equal, since the order of the members is fixed. -/
theorem eq_of_mem_items_iff {first second : TextSet}
    (same : ∀ text, text ∈ first.items ↔ text ∈ second.items)
    : first = second := by
  have notBefore (text : Text) : ¬ Text.isBefore text text :=
    Bool.eq_false_iff.mp (Text.isBefore_self text)
  have distinct (set : TextSet) : set.items.Nodup := by
    refine set.increasing.imp ?_
    rintro text _ before rfl
    exact notBefore text before
  have perm : first.items.Perm second.items :=
    (List.perm_ext_iff_of_nodup (distinct first) (distinct second)).mpr same
  have items : first.items = second.items :=
    perm.eq_of_pairwise
      (fun left right _ _ before after =>
        absurd (Text.isBefore_trans before after) (notBefore left))
      first.increasing second.increasing
  cases first
  cases second
  congr

end PageAudit.TextSet
