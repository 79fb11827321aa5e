import PageAudit.Proofs.Text.Boundary
import PageAudit.Proofs.Text.Occurrence
import PageAudit.Text.Search

/-! What the hits of a pattern say about a text: each one begins at a place where the pattern
matches, and it covers as many characters as the pattern took. The other characters stand outside
the hits.
-/

namespace PageAudit.Text

variable {α : Type} {pattern : Pattern α}

/-- (Found pattern before text hit offset) says that `hit` is a match of a pattern within `text`,
which stands at `offset` behind the character `before`.
-/
structure Found (pattern : Pattern α) (before : Option Char) (text : Text) (offset : Nat)
    (hit : Hit α)
    : Prop where
  matched : ∃ skipped rest count,
    text = skipped ++ rest
    ∧ hit.start = offset + byteSize skipped
    ∧ hit.stop = hit.start + byteSize (rest.take count)
    ∧ pattern (skipped.getLast?.or before) rest = some (hit.value, count)

theorem getLast?_cons_or (char : Char) (skipped : Text) (before : Option Char)
    : (char :: skipped).getLast?.or before = skipped.getLast?.or (some char) := by
  rw [List.getLast?_cons]
  cases skipped.getLast? <;> rfl

/-- A match behind one more character is a match of the longer text. -/
theorem Found.cons {before : Option Char} {char : Char} {rest : Text} {offset : Nat} {hit : Hit α}
    (found : Found pattern (some char) rest (offset + char.utf8Size) hit)
    : Found pattern before (char :: rest) offset hit := by
  obtain ⟨skipped, rest, count, rfl, start, stop, value⟩ := found.matched
  refine ⟨char :: skipped, rest, count, rfl, ?_, stop, ?_⟩
  · rw [start, byteSize_cons, Nat.add_assoc]
  · rw [getLast?_cons_or, value]

/-- Every listed hit is a match, by induction over the characters of the text. -/
theorem found_of_mem_hitsFrom {skip offset : Nat} {before : Option Char} {text : Text}
    {hit : Hit α} (member : hit ∈ hitsFrom pattern skip offset before text)
    : Found pattern before text offset hit := by
  induction text generalizing skip offset before with
  | nil => cases skip <;> simp [hitsFrom] at member
  | cons char rest ih =>
      cases skip with
      | succ skip => exact (ih member).cons
      | zero =>
          rw [hitsFrom] at member
          split at member
          · next value count matched =>
              rcases List.mem_cons.mp member with rfl | later
              · exact ⟨[], char :: rest, count, rfl, rfl, rfl, matched⟩
              · exact (ih later).cons
          · exact (ih member).cons

/-- The leftmost hit is a match, by induction over the characters in front of it. -/
theorem found_of_firstHitFrom? {offset : Nat} {before : Option Char} {text : Text} {hit : Hit α}
    (first : firstHitFrom? pattern offset before text = some hit)
    : Found pattern before text offset hit := by
  induction text generalizing offset before with
  | nil => cases first
  | cons char rest ih =>
      rw [firstHitFrom?] at first
      split at first
      · next value count matched =>
          obtain rfl := Option.some.inj first
          exact ⟨[], char :: rest, count, rfl, rfl, rfl, matched⟩
      · exact (ih first).cons

/-- There is a leftmost hit exactly when a pattern matches at some place. -/
theorem isSome_firstHitFrom?_iff {offset : Nat} {before : Option Char} {text : Text}
    : (firstHitFrom? pattern offset before text).isSome
      ↔ ∃ skipped rest,
          text = skipped ++ rest
          ∧ rest ≠ []
          ∧ (pattern (skipped.getLast?.or before) rest).isSome := by
  induction text generalizing offset before with
  | nil => simp [firstHitFrom?]
  | cons char text ih =>
      cases here : pattern before (char :: text) with
      | some found =>
          rw [firstHitFrom?, here]
          exact iff_of_true rfl
            ⟨[], char :: text, rfl, List.cons_ne_nil _ _, Option.isSome_of_eq_some here⟩
      | none =>
          rw [firstHitFrom?, here, ih]
          constructor
          · rintro ⟨skipped, rest, rfl, nonempty, found⟩
            exact ⟨char :: skipped, rest, rfl, nonempty, by rwa [getLast?_cons_or]⟩
          · rintro ⟨skipped, rest, split, nonempty, found⟩
            cases skipped with
            | nil =>
                obtain rfl : rest = char :: text := split.symm
                rw [List.getLast?_nil, Option.none_or, here] at found
                cases found
            | cons first skipped =>
                obtain ⟨rfl, rfl⟩ := List.cons.inj split
                exact ⟨skipped, rest, rfl, nonempty, by rwa [getLast?_cons_or] at found⟩

theorem Found.liesIn {before : Option Char} {text : Text} {hit : Hit α}
    (found : Found pattern before text 0 hit)
    : Span.LiesIn { start := hit.start, stop := hit.stop } text := by
  obtain ⟨skipped, rest, count, rfl, start, stop, -⟩ := found.matched
  have lies := Span.LiesIn.of_append skipped (rest.take count) (rest.drop count)
  rw [List.take_append_drop] at lies
  rw [Nat.zero_add] at start
  rw [stop, start]
  exact lies

-----------------------------------------------------------------------------------------
-- Listing the hits of a text in parts
-----------------------------------------------------------------------------------------

/-- Characters that belong to an earlier hit are passed over. -/
theorem hitsFrom_skip (skipped rest : Text) (offset : Nat) (before : Option Char)
    : hitsFrom pattern skipped.length offset before (skipped ++ rest)
      = hitsFrom pattern 0 (offset + byteSize skipped) (skipped.getLast?.or before) rest := by
  induction skipped generalizing offset before with
  | nil => rfl
  | cons char skipped ih =>
      rw [List.length_cons, List.cons_append, hitsFrom, ih, getLast?_cons_or, byteSize_cons,
        Nat.add_assoc]

/-- Where a pattern does not match, its hits are those behind the next character. -/
theorem hitsFrom_none {char : Char} {rest : Text} {offset : Nat} {before : Option Char}
    (mismatch : pattern before (char :: rest) = none)
    : hitsFrom pattern 0 offset before (char :: rest)
      = hitsFrom pattern 0 (offset + char.utf8Size) (some char) rest := by
  rw [hitsFrom, mismatch]

/-- (Matches pattern text) says that a pattern matches at the front of a text, whatever stands before
it.
-/
def Matches (pattern : Pattern α) (text : Text) : Prop :=
  ∃ before, (pattern before text).isSome

/-- A part of a text in which a pattern matches nowhere is passed over, by induction over its
characters.
-/
theorem hitsFrom_clear {skipped rest : Text} (clear : Clear (Matches pattern) skipped rest)
    (offset : Nat) (before : Option Char)
    : hitsFrom pattern 0 offset before (skipped ++ rest)
      = hitsFrom pattern 0 (offset + byteSize skipped) (skipped.getLast?.or before) rest := by
  induction skipped generalizing offset before with
  | nil => rfl
  | cons char skipped ih =>
      obtain ⟨here, behind⟩ := clear_cons.mp clear
      have mismatch : pattern before (char :: (skipped ++ rest)) = none :=
        Option.not_isSome_iff_eq_none.mp fun found => here ⟨before, found⟩
      rw [List.cons_append, hitsFrom_none mismatch, ih behind, getLast?_cons_or, byteSize_cons,
        Nat.add_assoc]

/-- Where a pattern matches, its hits are that match and those behind it. -/
theorem hitsFrom_some {taken rest : Text} {offset : Nat} {before : Option Char} {value : α}
    (nonempty : taken ≠ [])
    (matched : pattern before (taken ++ rest) = some (value, taken.length))
    : hitsFrom pattern 0 offset before (taken ++ rest)
      = { start := offset, stop := offset + byteSize taken, value }
        :: hitsFrom pattern 0 (offset + byteSize taken) (taken.getLast?.or before) rest := by
  cases taken with
  | nil => exact absurd rfl nonempty
  | cons char taken =>
      rw [List.cons_append] at matched ⊢
      rw [hitsFrom, matched]
      simp only [List.length_cons, Nat.add_sub_cancel, hitsFrom_skip]
      rw [← List.cons_append, ← List.length_cons (a := char), List.take_left, byteSize_cons,
        getLast?_cons_or, Nat.add_assoc]

-----------------------------------------------------------------------------------------
-- What stands outside the hits
-----------------------------------------------------------------------------------------

/-- (outsideFrom pattern skip before rest) are the characters of `rest`, which stands after the
character `before`, that belong to no hit of a pattern. Its first `skip` characters belong to an
earlier hit.
-/
def outsideFrom (pattern : Pattern α) : Nat → Option Char → Text → Text
  | _, _, [] => []
  | skip + 1, _, char :: rest => outsideFrom pattern skip (some char) rest
  | 0, before, char :: rest =>
      match pattern before (char :: rest) with
      | some (_, count) => outsideFrom pattern (count - 1) (some char) rest
      | none => char :: outsideFrom pattern 0 (some char) rest

/-- A text without the hits of a pattern. -/
def outside (pattern : Pattern α) (text : Text) : Text :=
  outsideFrom pattern 0 none text

theorem outsideFrom_skip (skipped rest : Text) (before : Option Char)
    : outsideFrom pattern skipped.length before (skipped ++ rest)
      = outsideFrom pattern 0 (skipped.getLast?.or before) rest := by
  induction skipped generalizing before with
  | nil => rfl
  | cons char skipped ih =>
      rw [List.length_cons, List.cons_append, outsideFrom, ih, getLast?_cons_or]

/-- A part of a text in which a pattern matches nowhere stands outside its hits. -/
theorem outsideFrom_clear {skipped rest : Text} (clear : Clear (Matches pattern) skipped rest)
    (before : Option Char)
    : outsideFrom pattern 0 before (skipped ++ rest)
      = skipped ++ outsideFrom pattern 0 (skipped.getLast?.or before) rest := by
  induction skipped generalizing before with
  | nil => rfl
  | cons char skipped ih =>
      obtain ⟨here, behind⟩ := clear_cons.mp clear
      have mismatch : pattern before (char :: (skipped ++ rest)) = none :=
        Option.not_isSome_iff_eq_none.mp fun found => here ⟨before, found⟩
      rw [List.cons_append, outsideFrom, mismatch]
      dsimp only
      rw [ih behind, getLast?_cons_or, List.cons_append]

/-- Where a pattern matches, the match is left out. -/
theorem outsideFrom_some {taken rest : Text} {before : Option Char} {value : α}
    (nonempty : taken ≠ [])
    (matched : pattern before (taken ++ rest) = some (value, taken.length))
    : outsideFrom pattern 0 before (taken ++ rest)
      = outsideFrom pattern 0 (taken.getLast?.or before) rest := by
  cases taken with
  | nil => exact absurd rfl nonempty
  | cons char taken =>
      rw [List.cons_append] at matched ⊢
      rw [outsideFrom, matched]
      simp only [List.length_cons, Nat.add_sub_cancel, outsideFrom_skip, getLast?_cons_or]

-----------------------------------------------------------------------------------------
-- The order of hits
-----------------------------------------------------------------------------------------

/-- No hit starts within the characters that belong to an earlier one. -/
theorem start_le_of_mem_hitsFrom {skip offset : Nat} {before : Option Char} {text : Text}
    {hit : Hit α} (member : hit ∈ hitsFrom pattern skip offset before text)
    : offset + byteSize (text.take skip) ≤ hit.start := by
  induction text generalizing skip offset before with
  | nil => cases skip <;> simp [hitsFrom] at member
  | cons char rest ih =>
      cases skip with
      | succ skip =>
          rw [List.take_succ_cons, byteSize_cons, ← Nat.add_assoc]
          exact ih member
      | zero =>
          rw [List.take_zero, byteSize_nil, Nat.add_zero]
          have behind {skip : Nat}
              (later : hit ∈ hitsFrom pattern skip (offset + char.utf8Size) (some char) rest)
              : offset ≤ hit.start := by
            have starts := ih later
            omega
          rw [hitsFrom] at member
          split at member
          · rcases List.mem_cons.mp member with rfl | later
            · exact Nat.le_refl offset
            · exact behind later
          · exact behind member

/-- Each hit stops before the next one starts, since its characters are passed over. -/
theorem pairwise_hitsFrom (skip offset : Nat) (before : Option Char) (text : Text)
    : (hitsFrom pattern skip offset before text).Pairwise
        fun first second => first.stop ≤ second.start := by
  induction text generalizing skip offset before with
  | nil => cases skip <;> exact .nil
  | cons char rest ih =>
      cases skip with
      | succ skip => exact ih _ _ _
      | zero =>
          rw [hitsFrom]
          split
          · next value count _ =>
              refine .cons (fun later member => ?_) (ih _ _ _)
              have starts := start_le_of_mem_hitsFrom member
              cases count with
              | zero =>
                  rw [List.take_zero, byteSize_nil]
                  dsimp only
                  omega
              | succ count =>
                  rw [List.take_succ_cons, byteSize_cons, ← Nat.add_assoc]
                  exact starts
          · exact ih _ _ _

-----------------------------------------------------------------------------------------
-- Matches that are no hits
-----------------------------------------------------------------------------------------

/-- What reaches beyond the front of a text is larger than the front. -/
theorem byteSize_lt_take {front rest : Text} {count : Nat} (beyond : front.length < count)
    (nonempty : rest ≠ [])
    : byteSize front < byteSize ((front ++ rest).take count) := by
  obtain ⟨more, rfl⟩ : ∃ more, count = front.length + (more + 1) :=
    ⟨count - front.length - 1, by omega⟩
  rw [List.take_length_add_append, byteSize_append]
  cases rest with
  | nil => exact absurd rfl nonempty
  | cons next rest => exact Nat.lt_add_of_pos_right (byteSize_pos (List.cons_ne_nil _ _))

/-- Where a pattern matches, a hit starts or an earlier one goes on. The induction is over what
stands in front of the match.
-/
theorem exists_hitFrom_of_match {skipped rest : Text} {skip offset : Nat} {before : Option Char}
    {value : α} {count : Nat} (free : skip ≤ skipped.length) (nonempty : rest ≠ [])
    (matched : pattern (skipped.getLast?.or before) rest = some (value, count))
    : ∃ hit ∈ hitsFrom pattern skip offset before (skipped ++ rest),
        (hit.start = offset + byteSize skipped ∧ hit.value = value)
        ∨ (hit.start < offset + byteSize skipped ∧ offset + byteSize skipped < hit.stop) := by
  induction skipped generalizing skip offset before with
  | nil =>
      obtain rfl := Nat.le_zero.mp free
      cases rest with
      | nil => exact absurd rfl nonempty
      | cons char rest =>
          rw [List.getLast?_nil, Option.none_or] at matched
          rw [List.nil_append, hitsFrom, matched]
          exact ⟨_, List.mem_cons_self, .inl ⟨rfl, rfl⟩⟩
  | cons char skipped ih =>
      rw [getLast?_cons_or] at matched
      rw [List.cons_append, byteSize_cons, ← Nat.add_assoc]
      have positive := char.utf8Size_pos
      cases skip with
      | succ skip => exact ih (Nat.le_of_succ_le_succ free) matched
      | zero =>
          cases first : pattern before (char :: (skipped ++ rest)) with
          | none =>
              rw [hitsFrom_none first]
              exact ih (Nat.zero_le _) matched
          | some found =>
              obtain ⟨other, taken⟩ := found
              rw [hitsFrom, first]
              by_cases short : taken - 1 ≤ skipped.length
              · obtain ⟨hit, listed, place⟩ := ih short matched
                exact ⟨hit, .tail _ listed, place⟩
              · -- the earlier match takes all that is skipped, and more
                have beyond : (char :: skipped).length < taken := by
                  rw [List.length_cons]
                  omega
                have goesOn := byteSize_lt_take beyond nonempty
                rw [byteSize_cons, List.cons_append] at goesOn
                refine ⟨_, List.mem_cons_self, .inr ⟨?_, ?_⟩⟩ <;> dsimp only <;> omega

/-- A match is a hit, unless an earlier hit goes on where it starts. -/
theorem exists_hit_of_match {skipped rest : Text} {value : α} {count : Nat} (nonempty : rest ≠ [])
    (matched : pattern skipped.getLast? rest = some (value, count))
    : ∃ hit ∈ hits pattern (skipped ++ rest),
        (hit.start = byteSize skipped ∧ hit.value = value)
        ∨ (hit.start < byteSize skipped ∧ byteSize skipped < hit.stop) := by
  have start : 0 + byteSize skipped = byteSize skipped := Nat.zero_add _
  have found : pattern (skipped.getLast?.or none) rest = some (value, count) := by
    rw [Option.or_none, matched]
  rw [← start, hits]
  exact exists_hitFrom_of_match (Nat.zero_le _) nonempty found

-----------------------------------------------------------------------------------------
-- The hits of a text that goes on
-----------------------------------------------------------------------------------------

/-- Where a pattern matches at no place, it has no hits. -/
theorem hitsFrom_eq_nil {skip offset : Nat} {before : Option Char} {text : Text}
    (never : ∀ before rest, rest <:+ text → pattern before rest = none)
    : hitsFrom pattern skip offset before text = [] := by
  induction text generalizing skip offset before with
  | nil => cases skip <;> rfl
  | cons char rest ih =>
      have behind : ∀ before more, more <:+ rest → pattern before more = none :=
        fun before more within => never before more (within.trans (List.suffix_cons char rest))
      cases skip with
      | succ skip => exact ih behind
      | zero =>
          rw [hitsFrom_none (never before _ (List.suffix_refl _))]
          exact ih behind

/-- (Extends pattern text added) says that the matches of a pattern in a text stay what they are
when more is added behind it. A match that is only there with what is added begins behind all
others.
-/
structure Extends (pattern : Pattern α) (text added : Text) : Prop where
  keeps : ∀ before rest value count,
    rest <:+ text
    → pattern before rest = some (value, count)
    → count ≤ rest.length ∧ pattern before (rest ++ added) = some (value, count)
  late : ∀ before rest,
    rest <:+ text
    → rest ≠ []
    → pattern before rest = none
    → pattern before (rest ++ added) ≠ none
    → ∀ before more, more <:+ rest → pattern before more = none

theorem Extends.of_cons {char : Char} {rest added : Text}
    (extended : Extends pattern (char :: rest) added)
    : Extends pattern rest added where
  keeps before more value count within :=
    extended.keeps before more value count (within.trans (List.suffix_cons char rest))
  late before more within :=
    extended.late before more (within.trans (List.suffix_cons char rest))

/-- The hits of a text come first among those of a longer one. The induction is over the text; a
match that reaches into what is added takes the place of no other hit.
-/
theorem Extends.hitsFrom_prefix {text added : Text} (extended : Extends pattern text added)
    (skip offset : Nat) (before : Option Char)
    : hitsFrom pattern skip offset before text
      <+: hitsFrom pattern skip offset before (text ++ added) := by
  induction text generalizing skip offset before with
  | nil =>
      cases skip <;> exact List.nil_prefix
  | cons char rest ih =>
      cases skip with
      | succ skip => exact ih extended.of_cons _ _ _
      | zero =>
          cases matched : pattern before (char :: rest) with
          | some found =>
              obtain ⟨value, count⟩ := found
              obtain ⟨fits, stays⟩ :=
                extended.keeps before _ value count (List.suffix_refl _) matched
              rw [List.cons_append] at stays ⊢
              rw [hitsFrom, hitsFrom, matched, stays]
              dsimp only
              rw [← List.cons_append, List.take_append_of_le_length fits, List.prefix_cons_inj]
              exact ih extended.of_cons _ _ _
          | none =>
              rw [hitsFrom_none matched]
              cases beyond : pattern before (char :: rest ++ added) with
              | none =>
                  rw [List.cons_append] at beyond ⊢
                  rw [hitsFrom_none beyond]
                  exact ih extended.of_cons _ _ _
              | some found =>
                  have reaches : pattern before (char :: rest ++ added) ≠ none := by
                    rw [beyond]
                    exact Option.some_ne_none found
                  have nothing := extended.late before _ (List.suffix_refl _)
                    (List.cons_ne_nil char rest) matched reaches
                  rw [hitsFrom_eq_nil fun before more within =>
                    nothing before more (within.trans (List.suffix_cons char rest))]
                  exact List.nil_prefix

end PageAudit.Text
