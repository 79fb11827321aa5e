import Mathlib.Tactic.SplitIfs
import PageAudit.Text.Bytes
import PageAudit.Text.Order

/-! Texts are ordered as their bytes in UTF-8 are, since the encoding keeps the order of code
points: a longer encoding begins with a greater byte, and the bytes of encodings of one length are
digits.
-/

namespace PageAudit.Text

/-- The bytes from an index on are listed behind those that were listed before, by induction over
the loop.
-/
theorem toList_loop (array : ByteArray) (index : Nat) (listed : List UInt8)
    : ByteArray.toList.loop array index listed
      = listed.reverse ++ array.data.toList.drop index := by
  fun_induction ByteArray.toList.loop array index listed with
  | case1 index listed inside ih =>
      have within : index < array.data.toList.length := by simpa using inside
      rw [ih, List.drop_eq_getElem_cons within]
      simp [ByteArray.get!, inside]
  | case2 index listed outside =>
      rw [List.drop_eq_nil_of_le (by simpa using Nat.le_of_not_lt outside), List.append_nil]

theorem bytes_eq_flatMap (text : Text) : bytes text = text.flatMap String.utf8EncodeChar := by
  rw [bytes, String.toUTF8_eq_toByteArray, String.toByteArray_ofList, ByteArray.toList, toList_loop]
  exact List.toList_data_toByteArray

/-- A smaller first byte decides, and equal ones leave it to the rest. -/
theorem ofNat_cons_lt {first second : Nat} {left right : List UInt8} (small : second < 256)
    (notAbove : first ≤ second) (rest : first = second → left < right)
    : UInt8.ofNat first :: left < UInt8.ofNat second :: right := by
  rw [List.cons_lt_cons_iff]
  rcases Nat.lt_or_eq_of_le notAbove with less | rfl
  · exact .inl ((UInt8.ofNat_lt_iff_lt (Nat.lt_trans less small) small).mpr less)
  · exact .inr ⟨rfl, rest rfl⟩

/-- The bytes of the smaller of two code points come first, whatever follows. -/
theorem utf8EncodeChar_append_lt {first second : Char} (less : first.toNat < second.toNat)
    (left right : List UInt8)
    : String.utf8EncodeChar first ++ left < String.utf8EncodeChar second ++ right := by
  have high : second.toNat < 0x110000 := by
    rcases second.valid with below | ⟨-, below⟩
    · exact Nat.lt_trans below (by decide)
    · exact below
  unfold String.utf8EncodeChar
  change first.val.toNat < second.val.toNat at less
  change second.val.toNat < _ at high
  generalize first.val.toNat = low at less ⊢
  generalize second.val.toNat = top at less high ⊢
  dsimp only
  -- Byte by byte, until one is smaller. All bytes being equal would make the code points equal.
  split_ifs <;> simp only [List.cons_append, List.nil_append]
  all_goals
    repeat refine ofNat_cons_lt (by omega) (by omega) fun _ => ?_
    exfalso
    omega

theorem append_lt_append {shared left right : List UInt8}
    : shared ++ left < shared ++ right ↔ left < right := by
  induction shared with
  | nil => rfl
  | cons byte shared ih => simp [ih]

/-- The order of texts is that of their bytes, by induction over the first text. -/
theorem isBefore_iff_bytes_lt {left right : Text}
    : isBefore left right = true ↔ bytes left < bytes right := by
  rw [bytes_eq_flatMap, bytes_eq_flatMap]
  induction left generalizing right with
  | nil =>
      cases right with
      | nil => simp [isBefore]
      | cons second right =>
          obtain ⟨byte, others, split⟩ :=
            List.exists_cons_of_ne_nil (String.utf8EncodeChar_ne_nil (c := second))
          simp [isBefore, split]
  | cons first left ih =>
      cases right with
      | nil => simp [isBefore]
      | cons second right =>
          rw [List.flatMap_cons, List.flatMap_cons, isBefore]
          by_cases same : first = second
          · rw [if_pos same, same, append_lt_append, ih]
          · rw [if_neg same, decide_eq_true_eq]
            refine ⟨fun less => utf8EncodeChar_append_lt less _ _, fun less => ?_⟩
            refine Nat.lt_of_not_le fun notBelow => ?_
            have differ : second.toNat ≠ first.toNat := fun equal =>
              same (Char.ext (UInt32.toNat_inj.mp equal.symm))
            have above : second.toNat < first.toNat := Nat.lt_of_le_of_ne notBelow differ
            exact List.lt_asymm less (utf8EncodeChar_append_lt above _ _)

end PageAudit.Text
