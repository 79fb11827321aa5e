import PageAudit.Markup.Element
import PageAudit.Proofs.Markup.Document

/-! Well-formed documents: forests of elements with text between their tags. Counting opening tags
and following the depth without names gives the number of elements and the height of the forest.
-/

namespace PageAudit

/-- An element of this name is void, whatever its tags carry. -/
def VoidElements.isVoidName (void : VoidElements) (name : Text) : Bool :=
  void.isVoid { kind := .opening, name, span := .documentStart, attributes := [] }

namespace Markup

/-- The tags of pieces behind others are those of the same pieces further on. -/
theorem Piece.allTagsAt_append (offset : Nat) (front behind : List Piece)
    : ∃ later,
        allTagsAt offset (front ++ behind) = allTagsAt offset front ++ allTagsAt later behind := by
  induction front generalizing offset with
  | nil => exact ⟨offset, rfl⟩
  | cons piece front ih =>
      obtain ⟨later, tags⟩ := ih (offset + Text.byteSize piece.written)
      exact ⟨later, by rw [List.cons_append, allTagsAt, tags, allTagsAt, List.append_assoc]⟩

/-- Between the tags of this name there is markup: it is a name, and not that of an element with raw
text.
-/
structure IsMarkupName (name : Text) : Prop where
  valid : Lexeme.IsName name
  markup : ∀ element ∈ rawTextElements, ¬ Text.sameLetters name element

/-- A forest is empty, or it begins with a tree that others follow. The leaves are text without `<`,
opening tags of void elements and self-closing tags; the other trees are elements, which stand
around a forest of their own.
-/
inductive Forest (void : VoidElements) where
  | empty
  | text (content : Text) (plain : '<' ∉ content) (following : Forest void)
  | voidTag (name : Text) (named : IsMarkupName name) (hollow : void.isVoidName name)
    (following : Forest void)
  | selfClosing (name : Text) (valid : Lexeme.IsName name) (following : Forest void)
  | element (name : Text) (named : IsMarkupName name) (holds : ¬ void.isVoidName name)
    (children following : Forest void)

namespace Forest

variable {void : VoidElements}

/-- The text of a forest. -/
def written : Forest void → Text
  | .empty => []
  | .text content _ following => content ++ following.written
  | .voidTag name _ _ following => '<' :: name ++ '>' :: following.written
  | .selfClosing name _ following => '<' :: name ++ " />".toList ++ following.written
  | .element name _ _ children following =>
      '<' :: name ++ '>' :: children.written
        ++ '<' :: '/' :: name ++ '>' :: following.written

/-- The number of elements that stand around something, or could. -/
def elements : Forest void → Nat
  | .empty => 0
  | .text _ _ following => following.elements
  | .voidTag _ _ _ following => following.elements
  | .selfClosing _ _ following => following.elements
  | .element _ _ _ children following => 1 + children.elements + following.elements

/-- The greatest number of elements one within the other. -/
def height : Forest void → Nat
  | .empty => 0
  | .text _ _ following => following.height
  | .voidTag _ _ _ following => following.height
  | .selfClosing _ _ following => following.height
  | .element _ _ _ children following => max (1 + children.height) following.height

/-- The pieces of the document that a forest is. -/
def pieces : Forest void → List Piece
  | .empty => []
  | .text content plain following => .text content plain :: following.pieces
  | .voidTag name named _ following =>
      .opening name [] named.valid named.markup :: following.pieces
  | .selfClosing name valid following => .selfClosing name [] valid :: following.pieces
  | .element name named _ children following =>
      .opening name [] named.valid named.markup
        :: (children.pieces ++ .closing name named.valid :: following.pieces)

theorem writtenAll_pieces (forest : Forest void)
    : Piece.writtenAll forest.pieces = forest.written := by
  induction forest with
  | empty => rfl
  | text content plain following ih =>
      rw [pieces, Piece.writtenAll, List.flatMap_cons, ← Piece.writtenAll, ih]
      rfl
  | voidTag name named hollow following ih =>
      rw [pieces, Piece.writtenAll, List.flatMap_cons, ← Piece.writtenAll, ih]
      simp [Piece.written, writtenOpening, written, Attribute.Spelled.writtenAll,
        Attribute.endOfTag]
  | selfClosing name valid following ih =>
      rw [pieces, Piece.writtenAll, List.flatMap_cons, ← Piece.writtenAll, ih]
      simp [Piece.written, writtenOpening, written, Attribute.Spelled.writtenAll,
        Attribute.endOfTag]
  | element name named holds children following inner outer =>
      rw [pieces, Piece.writtenAll, List.flatMap_cons, List.flatMap_append, List.flatMap_cons,
        ← Piece.writtenAll, ← Piece.writtenAll, inner, outer]
      simp [Piece.written, writtenOpening, writtenClosing, written,
        Attribute.Spelled.writtenAll, Attribute.endOfTag]

/-- The tags of a forest that stands at an offset. -/
def tagsAt (offset : Nat) (forest : Forest void) : List Tag :=
  Piece.allTagsAt offset forest.pieces

/-- The tags of a forest are those that are found in its text. -/
theorem tokenize_written (forest : Forest void) : tokenize forest.written = forest.tagsAt 0 := by
  have scan : Scan (Place.start forest.written) (forest.tagsAt 0) :=
    scan_pieces forest.pieces forest.writtenAll_pieces.symm
  exact (scan_tokenize _).unique scan

theorem tagsAt_voidTag (offset : Nat) {name : Text} (named : IsMarkupName name)
    (hollow : void.isVoidName name) (following : Forest void)
    : ∃ behind,
        (voidTag name named hollow following).tagsAt offset
        = openingTagAt offset name [] false :: following.tagsAt behind :=
  ⟨_, rfl⟩

theorem tagsAt_selfClosing (offset : Nat) {name : Text} (valid : Lexeme.IsName name)
    (following : Forest void)
    : ∃ behind,
        (selfClosing name valid following).tagsAt offset
        = openingTagAt offset name [] true :: following.tagsAt behind :=
  ⟨_, rfl⟩

/-- The tags of an element are its opening tag, those of its children, its closing tag, and those of
what follows.
-/
theorem tagsAt_element (offset : Nat) {name : Text} (named : IsMarkupName name)
    (holds : ¬ void.isVoidName name) (children following : Forest void)
    : ∃ inside stop behind,
        (element name named holds children following).tagsAt offset
        = openingTagAt offset name [] false
          :: (children.tagsAt inside ++ closingTagAt stop name :: following.tagsAt behind) := by
  obtain ⟨stop, tags⟩ :=
    Piece.allTagsAt_append _ children.pieces (.closing name named.valid :: following.pieces)
  exact ⟨_, stop, _, by rw [tagsAt, pieces, Piece.allTagsAt, tags]; rfl⟩

-----------------------------------------------------------------------------------------
-- Elements and depth
-----------------------------------------------------------------------------------------

section

variable (offset : Nat) (name : Text) (attributes : List Attribute.Spelled)

theorem opensElement_openingTagAt
    : void.opensElement (openingTagAt offset name attributes false) = !void.isVoidName name := by
  simp [VoidElements.opensElement, openingTagAt, VoidElements.isVoidName, VoidElements.isVoid,
    Tag.isComponent]

theorem opensElement_selfClosing
    : void.opensElement (openingTagAt offset name attributes true) = false := by
  simp [VoidElements.opensElement, openingTagAt]

theorem closesElement_openingTagAt (selfClosing : Bool)
    : void.closesElement (openingTagAt offset name attributes selfClosing) = false := by
  cases selfClosing <;> simp [VoidElements.closesElement, openingTagAt]

theorem opensElement_closingTagAt : void.opensElement (closingTagAt offset name) = false := by
  simp [VoidElements.opensElement, closingTagAt]

theorem closesElement_closingTagAt
    : void.closesElement (closingTagAt offset name) = !void.isVoidName name := by
  simp [VoidElements.closesElement, closingTagAt, VoidElements.isVoidName, VoidElements.isVoid,
    Tag.isComponent]

end

/-- Each element has one opening tag that counts. -/
theorem elementCount_tagsAt (forest : Forest void) (offset : Nat)
    : void.elementCount (forest.tagsAt offset) = forest.elements := by
  induction forest generalizing offset with
  | empty => rfl
  | text content plain following ih => exact ih _
  | voidTag name named hollow following ih =>
      obtain ⟨behind, tags⟩ := tagsAt_voidTag offset named hollow following
      have passed : ¬ void.opensElement (openingTagAt offset name [] false) := by
        simp [opensElement_openingTagAt, hollow]
      rw [tags, VoidElements.elementCount, List.countP_cons_of_neg passed]
      exact ih behind
  | selfClosing name valid following ih =>
      obtain ⟨behind, tags⟩ := tagsAt_selfClosing offset valid following
      have passed : ¬ void.opensElement (openingTagAt offset name [] true) := by
        simp [opensElement_selfClosing]
      rw [tags, VoidElements.elementCount, List.countP_cons_of_neg passed]
      exact ih behind
  | element name named holds children following inner outer =>
      obtain ⟨inside, stop, behind, tags⟩ := tagsAt_element offset named holds children following
      have opens : void.opensElement (openingTagAt offset name [] false) := by
        simp [opensElement_openingTagAt, holds]
      have closing : ¬ void.opensElement (closingTagAt stop name) := by
        simp [opensElement_closingTagAt]
      have first := inner inside
      have others := outer behind
      unfold VoidElements.elementCount at first others ⊢
      rw [tags, List.countP_cons_of_pos opens, List.countP_append,
        List.countP_cons_of_neg closing, first, others, elements]
      omega

/-- Behind a forest the depth is the same as in front of it, and on the way it grew by the height of
the forest. The invariant is that the depth never exceeds the greatest one.
-/
theorem foldl_feed_tagsAt (forest : Forest void) (offset : Nat) {nesting : Nesting}
    (reached : nesting.depth ≤ nesting.deepest)
    : (forest.tagsAt offset).foldl (Nesting.feed void) nesting
      = { depth := nesting.depth,
          deepest := max nesting.deepest (nesting.depth + forest.height) } := by
  induction forest generalizing offset nesting with
  | empty =>
      have same : max nesting.deepest (nesting.depth + 0) = nesting.deepest :=
        Nat.max_eq_left reached
      exact congrArg (Nesting.mk nesting.depth) same.symm
  | text content plain following ih => exact ih _ reached
  | voidTag name named hollow following ih =>
      obtain ⟨behind, tags⟩ := tagsAt_voidTag offset named hollow following
      have unchanged : nesting.feed void (openingTagAt offset name [] false) = nesting := by
        simp [Nesting.feed, opensElement_openingTagAt, closesElement_openingTagAt, hollow]
      rw [tags, List.foldl_cons, unchanged, ih behind reached, height]
  | selfClosing name valid following ih =>
      obtain ⟨behind, tags⟩ := tagsAt_selfClosing offset valid following
      have unchanged : nesting.feed void (openingTagAt offset name [] true) = nesting := by
        simp [Nesting.feed, opensElement_selfClosing, closesElement_openingTagAt]
      rw [tags, List.foldl_cons, unchanged, ih behind reached, height]
  | element name named holds children following inner outer =>
      obtain ⟨inside, stop, behind, tags⟩ := tagsAt_element offset named holds children following
      have opened : nesting.feed void (openingTagAt offset name [] false)
          = { depth := nesting.depth + 1,
              deepest := max nesting.deepest (nesting.depth + 1) } := by
        simp [Nesting.feed, opensElement_openingTagAt, holds]
      have closed (within : Nesting) : within.feed void (closingTagAt stop name)
          = { within with depth := within.depth - 1 } := by
        simp [Nesting.feed, opensElement_closingTagAt, closesElement_closingTagAt, holds]
      rw [tags, List.foldl_cons, opened, List.foldl_append, inner _ (Nat.le_max_right _ _),
        List.foldl_cons, closed, outer _ (by simp only; omega), height]
      simp only [Nesting.mk.injEq]
      omega

/-- Behind a whole document of this form no element is open, and the greatest depth was the height
of the forest.
-/
theorem ofTags_tagsAt (forest : Forest void) (offset : Nat)
    : Nesting.ofTags void (forest.tagsAt offset) = { depth := 0, deepest := forest.height } := by
  have reached : Nesting.outside.depth ≤ Nesting.outside.deepest := Nat.le_refl 0
  have whole := forest.foldl_feed_tagsAt offset reached
  simpa [Nesting.ofTags, Nesting.outside] using whole

/-- Text and void tags are no elements. -/
example
    : let item : Forest .html :=
        .element "li" ⟨by decide, by decide⟩ (by decide) (.text "a" (by decide) .empty)
          (.voidTag "br" ⟨by decide, by decide⟩ (by decide) .empty)
      let list : Forest .html :=
        .element "ul" ⟨by decide, by decide⟩ (by decide) item (.selfClosing "hr" (by decide) .empty)
      list.written = "<ul><li>a</li><br></ul><hr />".toList
      ∧ list.elements = 2 ∧ list.height = 2 := by
  decide

end Forest

end Markup

end PageAudit
