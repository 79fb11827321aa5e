import PageAudit.Proofs.Markup.Scan

/-! The search from tag to tag finds what the plain scanner finds. It remembers the next comment,
and what it remembers is always the first comment at or behind its place.
-/

namespace PageAudit.Markup

open Text (Clear Until)

-----------------------------------------------------------------------------------------
-- The places that the search goes to
-----------------------------------------------------------------------------------------

theorem startsWith_iff {text opening : Text}
    : Text.startsWith text opening = true ↔ opening <+: text := by
  rw [Text.startsWith, List.isPrefixOf_iff_prefix]

/-- The comment that is looked for is the first one. -/
theorem nextComment?_eq_some_iff {place comment : Place}
    : nextComment? place = some comment
      ↔ ∃ skipped,
          place.rest = skipped ++ comment.rest
          ∧ comment = place.behind skipped comment.rest
          ∧ OpensComment comment.rest
          ∧ Clear OpensComment skipped comment.rest := by
  simp only [nextComment?, Place.next?_eq_some_iff, startsWith_iff]
  constructor
  · rintro ⟨skipped, split, same, -, opens, clear⟩
    exact ⟨skipped, split, same, opens, clear⟩
  · rintro ⟨skipped, split, same, opens, clear⟩
    refine ⟨skipped, split, same, ?_, opens, clear⟩
    rintro empty
    rw [empty] at opens
    simp [OpensComment] at opens

theorem nextComment?_eq_none_iff {place : Place}
    : nextComment? place = none ↔ Clear OpensComment place.rest [] := by
  simp only [nextComment?, Place.next?_eq_none_iff, startsWith_iff]
  exact Iff.rfl

/-- A comment that is not passed stays the next one, and one that is passed is looked for anew.
In both cases the next comment is the first one from the later place on.
-/
theorem nextComment?_later {place later : Place} {passed : Text}
    (split : place.rest = passed ++ later.rest) (same : later = place.behind passed later.rest)
    : (if (nextComment? place).any (fun comment => comment.offset < later.offset) then
        nextComment? later
      else nextComment? place)
      = nextComment? later := by
  split
  · rfl
  · next notPassed =>
      cases next : nextComment? place with
      | none =>
          rw [nextComment?_eq_none_iff, split] at next
          exact (nextComment?_eq_none_iff.mpr (Text.clear_append.mp next).2).symm
      | some comment =>
          obtain ⟨skipped, splitToo, sameToo, opens, clear⟩ := nextComment?_eq_some_iff.mp next
          have less : Text.byteSize passed ≤ Text.byteSize skipped := by
            rw [next, sameToo, same] at notPassed
            simpa [Place.behind] using notPassed
          obtain ⟨more, rfl, tail⟩ :=
            Text.split_of_byteSize_le (split.symm.trans splitToo) less
          refine (nextComment?_eq_some_iff.mpr ⟨more, tail, ?_, opens, ?_⟩).symm
          · rw [same, Place.behind_behind]
            exact sameToo
          · exact (Text.clear_append.mp clear).2

/-- Where a comment opens, the search goes on where the scanner does. -/
theorem step_afterComment {comment : Place} (opens : OpensComment comment.rest)
    : Step comment none (afterComment comment) := by
  obtain ⟨text, split⟩ := opens
  have body : comment.skip 4 = comment.behind "<!--".toList text :=
    comment.skip_append "<!--".toList text split.symm
  unfold afterComment
  simp only [body]
  cases found : (comment.behind "<!--".toList text).next? (Text.startsWith · "-->") with
  | none =>
      rw [Place.next?_eq_none_iff] at found
      have never : Clear EndsComment text [] := found.mono fun _ => startsWith_iff.mpr
      have whole : comment.rest = "<!--".toList ++ (text ++ []) := by simp [← split]
      have step : Step comment none _ := .comment whole (.nowhere never)
      simpa [Place.finish_eq_behind, Place.behind_behind] using step
  | some ending =>
      obtain ⟨skipped, passed, same, -, ends, clear⟩ := Place.next?_eq_some_iff.mp found
      rw [startsWith_iff] at ends
      have first : Clear EndsComment skipped ending.rest := clear.mono fun _ => startsWith_iff.mpr
      have step : Step comment none _ :=
        .comment (by rw [← split]; exact congrArg _ passed) (.found ends first)
      obtain ⟨rest, behind⟩ := ends
      have skip : ending.skip 3 = ending.behind "-->".toList rest :=
        ending.skip_append "-->".toList rest behind.symm
      simp only [skip]
      rw [same, Place.behind_behind, Place.behind_behind]
      simpa [← behind] using step

theorem lower_of_mem_rawTextElements {name : Text} (element : name ∈ rawTextElements)
    : Text.lower name = name := by
  revert name
  decide

/-- The end of an element is recognised by as many characters as its name has. -/
theorem endsRawText_iff {name text : Text} (lower : Text.lower name = name)
    : endsRawText name text = true ↔ EndsElement name text := by
  constructor
  · intro ends
    unfold endsRawText at ends
    split at ends
    · next rest =>
        rw [startsWith_iff] at ends
        refine ⟨rest.take name.length, rest.drop name.length, by simp, ?_⟩
        have size : (Text.lower (rest.take name.length)).length ≤ name.length := by
          rw [Text.lower, List.length_map]
          exact List.length_take_le _ _
        have same := ends.eq_of_length_le size
        rw [Text.sameLetters, lower, ← same, beq_self_eq_true]
    · cases ends
  · rintro ⟨spelling, rest, rfl, same⟩
    rw [Text.sameLetters, lower, beq_iff_eq] at same
    have size : spelling.length = name.length := by
      rw [← same, Text.lower, List.length_map]
    rw [endsRawText, ← size, List.take_left, same]
    exact startsWith_iff.mpr List.prefix_rfl

/-- Behind a tag the search goes on where the scanner does. -/
theorem step_afterTag {place : Place} {lexeme : Lexeme} (front : lexeme.AtFront place.rest)
    : Step place (some (lexeme.tag place.offset))
        (afterTag (lexeme.tag place.offset)
          { offset := (lexeme.tag place.offset).span.stop, rest := lexeme.rest }) := by
  have behind : { offset := (lexeme.tag place.offset).span.stop, rest := lexeme.rest }
      = place.behind lexeme.written lexeme.rest := by
    rw [Place.behind, Lexeme.byteSize_written]
    rfl
  rw [behind]
  unfold afterTag
  split
  · next opening =>
      cases named : rawTextElements.find? (lexeme.tag place.offset).hasName with
      | none =>
          refine .markup front fun name begins => ?_
          exact List.find?_eq_none.mp named name begins.element begins.named
      | some name =>
          have begins : BeginsRawText lexeme name :=
            ⟨opening, List.mem_of_find?_eq_some named, List.find?_some named⟩
          have lower := lower_of_mem_rawTextElements begins.element
          simp only [afterRawText]
          cases found : (place.behind lexeme.written lexeme.rest).next? (endsRawText name) with
          | none =>
              rw [Place.next?_eq_none_iff] at found
              have never : Clear (EndsElement name) lexeme.rest [] :=
                found.mono fun _ => (endsRawText_iff lower).mpr
              have step : Step place _ _ :=
                .rawText front begins (List.append_nil _).symm (.nowhere never)
              simpa [Place.finish_eq_behind, Place.behind_behind] using step
          | some ending =>
              obtain ⟨skipped, passed, same, -, ends, clear⟩ := Place.next?_eq_some_iff.mp found
              have first : Clear (EndsElement name) skipped ending.rest :=
                clear.mono fun _ => (endsRawText_iff lower).mpr
              have step : Step place _ _ :=
                .rawText front begins passed (.found ((endsRawText_iff lower).mp ends) first)
              rw [Option.getD_some, same, Place.behind_behind]
              exact step
  · next other => exact .markup front fun name begins => other begins.opening

-----------------------------------------------------------------------------------------
-- The whole search
-----------------------------------------------------------------------------------------

/-- A comment in front of the next tag is the first thing behind the place, and no tag stands in
front of it.
-/
theorem of_comment_before {place comment : Place} {skipped rest : Text}
    (split : place.rest = skipped ++ rest)
    (noTag : Clear OpensTag skipped rest)
    (before : (nextComment? place).filter
        (fun comment => comment.offset < place.offset + Text.byteSize skipped)
      = some comment)
    : ∃ passed,
        place.rest = passed ++ comment.rest
        ∧ comment = place.behind passed comment.rest
        ∧ OpensComment comment.rest
        ∧ Clear OpensComment passed comment.rest
        ∧ Clear OpensTag passed comment.rest := by
  obtain ⟨next, less⟩ := Option.filter_eq_some_iff.mp before
  obtain ⟨passed, splitToo, same, opens, clear⟩ := nextComment?_eq_some_iff.mp next
  have fewer : Text.byteSize passed ≤ Text.byteSize skipped := by
    have start : comment.offset = place.offset + Text.byteSize passed :=
      congrArg Place.offset same
    simp only [start, decide_eq_true_eq] at less
    omega
  obtain ⟨more, rfl, tail⟩ := Text.split_of_byteSize_le (splitToo.symm.trans split) fewer
  rw [Text.clear_append, ← tail] at noTag
  exact ⟨passed, splitToo, same, opens, clear, noTag.1⟩

/-- When no comment opens in front of the next tag, none opens on the way there. -/
theorem clear_of_no_comment_before {place : Place} {skipped rest : Text}
    (split : place.rest = skipped ++ rest)
    (notBefore : (nextComment? place).filter
        (fun comment => comment.offset < place.offset + Text.byteSize skipped)
      = none)
    : Clear OpensComment skipped rest := by
  cases next : nextComment? place with
  | none =>
      rw [nextComment?_eq_none_iff, split, Text.clear_append, List.append_nil] at next
      exact next.1
  | some comment =>
      obtain ⟨passed, splitToo, same, -, clear⟩ := nextComment?_eq_some_iff.mp next
      have fewer : Text.byteSize skipped ≤ Text.byteSize passed := by
        rw [next, same] at notBefore
        simpa [Place.behind] using notBefore
      obtain ⟨more, rfl, tail⟩ := Text.split_of_byteSize_le (split.symm.trans splitToo) fewer
      rw [Text.clear_append, ← tail] at clear
      exact clear.1

/-- The search for tags adds what the plain scanner emits, by induction on the fuel: each round
skips characters where nothing begins and then takes one step of the scanner, so that fewer
characters are left.
-/
theorem scan_tagsFrom (fuel : Nat) (place : Place) (found : List Tag)
    (enough : place.rest.length < fuel)
    : ∃ tags, Scan place tags
        ∧ tagsFrom fuel place (nextComment? place) found = found.reverse ++ tags := by
  induction fuel generalizing place found with
  | zero => exact absurd enough (Nat.not_lt_zero _)
  | succ fuel ih =>
      rw [tagsFrom]
      cases next : nextLexeme? place with
      | none => exact ⟨[], scan_nil_of_noTag place (of_nextLexeme?_eq_none next), by simp⟩
      | some hit =>
          obtain ⟨start, lexeme⟩ := hit
          obtain ⟨skipped, rest, split, rfl, front, noTag⟩ := of_nextLexeme?_eq_some next
          dsimp only
          split
          -- a comment opens in front of the tag, which may stand in that comment
          · next comment before =>
              obtain ⟨passed, splitToo, same, opens, noComment, noTag⟩ :=
                of_comment_before split noTag before
              have step := step_afterComment opens
              have fewer : (afterComment comment).rest.length < fuel := by
                have shorter := step.length_rest_lt
                rw [splitToo, List.length_append] at enough
                omega
              obtain ⟨tags, scan, result⟩ := ih (afterComment comment) found fewer
              refine ⟨tags, Scan.skip splitToo noComment noTag ?_, result⟩
              rw [← same]
              exact .step step scan
          · next notBefore =>
              have noComment := clear_of_no_comment_before split notBefore
              generalize emits : lexeme.tag (place.offset + Text.byteSize skipped) = tag
              generalize goes : afterTag tag { offset := tag.span.stop, rest := lexeme.rest }
                = later
              have step : Step (place.behind skipped rest) (some tag) later := by
                rw [← goes, ← emits]
                exact step_afterTag front
              obtain ⟨passed, -, splitToo, same⟩ := step.passes
              rw [Place.behind_rest] at splitToo
              rw [Place.behind_behind] at same
              have fewer : later.rest.length < fuel := by
                have shorter := step.length_rest_lt
                rw [split, List.length_append] at enough
                rw [Place.behind_rest] at shorter
                omega
              rw [nextComment?_later (by rw [split, splitToo, List.append_assoc]) same]
              obtain ⟨tags, scan, result⟩ := ih later (tag :: found) fewer
              refine ⟨_, Scan.skip split noComment noTag (.step step scan), ?_⟩
              rw [result]
              simp

/-- The plain scanner emits the tags of a document. -/
theorem scan_tokenize (text : Text) : Scan (Place.start text) (tokenize text) := by
  obtain ⟨tags, scan, result⟩ :=
    scan_tagsFrom (text.length + 1) (Place.start text) [] (Nat.lt_succ_self _)
  have same : tokenize text = tags := result
  rw [same]
  exact scan

/-- The tags of a document are those that the plain scanner emits on its way from the start to the
end, and it emits no others. The fuel of the search is only a bound: with more of it the search
finds the same tags.
-/
theorem scan_start_iff_tokenize (text : Text)
    : (∀ tags, Scan (Place.start text) tags ↔ tags = tokenize text)
      ∧ ∀ fuel,
          text.length < fuel
          → tagsFrom fuel (Place.start text) (nextComment? (Place.start text)) []
            = tokenize text := by
  constructor
  · intro tags
    constructor
    · intro scan
      exact scan.unique (scan_tokenize text)
    · rintro rfl
      exact scan_tokenize text
  · intro fuel enough
    obtain ⟨tags, scan, result⟩ := scan_tagsFrom fuel (Place.start text) [] enough
    rw [result]
    exact scan.unique (scan_tokenize text)

end PageAudit.Markup
