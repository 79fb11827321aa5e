import PageAudit.Proofs.Text.Boundary
import PageAudit.Proofs.Text.Run
import PageAudit.Text.Bytes

/-! How bytes are written as text, and how long the text is. In base 64 three bytes take four
digits. With percent signs a byte takes one character or three, so bytes have many spellings.
-/

namespace PageAudit.Text

variable {bytes : List UInt8} {text : Text}

-----------------------------------------------------------------------------------------
-- Characters of one byte
-----------------------------------------------------------------------------------------

/-- A text is as long as it is large when each character takes one byte. -/
theorem byteSize_eq_length (single : ∀ char ∈ text, char.utf8Size = 1)
    : byteSize text = text.length := by
  induction text with
  | nil => rfl
  | cons char text ih =>
      obtain ⟨first, others⟩ := List.forall_mem_cons.mp single
      rw [byteSize_cons, List.length_cons, first, ih others, Nat.add_comm]

-----------------------------------------------------------------------------------------
-- Base 64
-----------------------------------------------------------------------------------------

namespace Base64

/-- The digit of a value below 64: capitals, small letters, decimal digits and two signs. -/
def digit (value : Nat) : Char :=
  if value < 26 then Char.ofNat ('A'.toNat + value)
  else if value < 52 then Char.ofNat ('a'.toNat + (value - 26))
  else if value < 62 then Char.ofNat ('0'.toNat + (value - 52))
  else if value = 62 then '+'
  else '/'

/-- So many digits, which tell the lowest six bits each of a number. -/
def digits : Nat → Nat → Text
  | 0, _ => []
  | count + 1, bits => digits count (bits / 64) ++ [digit (bits % 64)]

/-- Three bytes are written as four digits. One or two bytes at the end take as many digits as they
need, with zeros behind their last bits.
-/
def encode : List UInt8 → Text
  | [] => []
  | [first] => digits 2 (16 * first.toNat)
  | [first, second] => digits 3 (4 * (256 * first.toNat + second.toNat))
  | first :: second :: third :: rest =>
      digits 4 (256 * (256 * first.toNat + second.toNat) + third.toNat) ++ encode rest

/-- The signs that fill up the last group of four. -/
def padding (bytes : List UInt8) : Text :=
  List.replicate ((3 - bytes.length % 3) % 3) '='

example
    : encode [0x66, 0x6F, 0x6F, 0x62] ++ padding [0x66, 0x6F, 0x6F, 0x62] = "Zm9vYg==".toList := by
  decide

@[simp] theorem length_digits (count bits : Nat) : (digits count bits).length = count := by
  induction count generalizing bits with
  | zero => rfl
  | succ count ih => rw [digits, List.length_append, ih, List.length_singleton]

/-- Each group of six bits takes a digit, also when bits are missing in the last one. -/
theorem length_encode (bytes : List UInt8)
    : (encode bytes).length = (4 * bytes.length + 2) / 3 := by
  fun_induction encode bytes with
  | case1 => rfl
  | case2 first => simp
  | case3 first second => simp
  | case4 first second third rest ih =>
      rw [List.length_append, length_digits, ih]
      simp only [List.length_cons]
      omega

theorem exists_of_mem_digits {count bits : Nat} {char : Char} (member : char ∈ digits count bits)
    : ∃ value < 64, char = digit value := by
  induction count generalizing bits with
  | zero => cases member
  | succ count ih =>
      rcases List.mem_append.mp member with earlier | last
      · exact ih earlier
      · exact ⟨bits % 64, Nat.mod_lt _ (by decide), List.mem_singleton.mp last⟩

theorem exists_of_mem_encode {char : Char} (member : char ∈ encode bytes)
    : ∃ value < 64, char = digit value := by
  fun_induction encode bytes with
  | case1 => cases member
  | case2 first => exact exists_of_mem_digits member
  | case3 first second => exact exists_of_mem_digits member
  | case4 first second third rest ih =>
      rcases List.mem_append.mp member with here | later
      · exact exists_of_mem_digits here
      · exact ih later

/-- Digits are visible ASCII characters, and the sign that fills up is none of them. -/
theorem plain_of_mem_encode {char : Char} (member : char ∈ encode bytes)
    : char.utf8Size = 1 ∧ char ≠ '=' ∧ isBlank char = false := by
  have each : ∀ value < 64,
      (digit value).utf8Size = 1 ∧ digit value ≠ '=' ∧ isBlank (digit value) = false := by
    decide
  obtain ⟨value, small, rfl⟩ := exists_of_mem_encode member
  exact each value small

end Base64

-----------------------------------------------------------------------------------------
-- Percent signs
-----------------------------------------------------------------------------------------

/-- A character that may stand for itself in an address: a letter, a digit or one of four signs. -/
def IsUnreserved (char : Char) : Prop :=
  char.isAlphanum ∨ char ∈ ['-', '.', '_', '~']

/-- (PercentEncodes bytes text) says that a text spells bytes, each as an unreserved character of
its code, or as a percent sign and two hexadecimal digits.
-/
inductive PercentEncodes : List UInt8 → Text → Prop where
  | done : PercentEncodes [] []
  | plain {byte : UInt8} {bytes : List UInt8} {char : Char} {text : Text}
    (unreserved : IsUnreserved char) (code : char.toNat = byte.toNat)
    (others : PercentEncodes bytes text)
    : PercentEncodes (byte :: bytes) (char :: text)
  | escaped {byte : UInt8} {bytes : List UInt8} {high low : Char} {text : Text}
    (digits : hexByte? high low = some byte) (others : PercentEncodes bytes text)
    : PercentEncodes (byte :: bytes) ('%' :: high :: low :: text)

/-- A visible ASCII character behind the percent sign in the order of codes. -/
structure IsVisible (char : Char) : Prop where
  low : '%'.toNat < char.toNat
  high : char.toNat < 0x7F

namespace IsVisible

variable {char : Char}

theorem ne_percent (visible : IsVisible char) : char ≠ '%' := by
  rintro rfl
  exact Nat.lt_irrefl _ visible.low

theorem utf8Size (visible : IsVisible char) : char.utf8Size = 1 :=
  Char.utf8Size_eq_one_iff.mpr (UInt32.le_iff_toNat_le.mpr (Nat.le_of_lt visible.high))

theorem solid (visible : IsVisible char) : isBlank char = false := by
  have percent : '%'.toNat = 0x25 := rfl
  have low := visible.low
  exact isBlank_eq_false (by omega) (Nat.le_of_lt_succ visible.high)

end IsVisible

theorem IsUnreserved.isVisible {char : Char} (unreserved : IsUnreserved char) : IsVisible char := by
  have percent : '%'.toNat = 0x25 := rfl
  rcases unreserved with alphanumeric | sign
  · have bounds := toNat_of_isAlphanum alphanumeric
    exact ⟨by omega, by omega⟩
  · have each : ∀ sign ∈ ['-', '.', '_', '~'], 0x25 < sign.toNat ∧ sign.toNat < 0x7F := by simp
    obtain ⟨low, high⟩ := each char sign
    exact ⟨low, high⟩

/-- Hexadecimal digits are unreserved characters. -/
theorem isUnreserved_of_hexDigit? {char : Char} {value : Nat} (read : hexDigit? char = some value)
    : IsUnreserved char := by
  refine .inl (Bool.or_eq_true_iff.mpr ?_)
  unfold hexDigit? at read
  split at read
  · next decimal => exact .inr decimal
  · split at read
    · next small =>
        have top : 'f'.val ≤ 'z'.val := by decide
        have lower : char.isLower :=
          Bool.and_eq_true_iff.mpr
            ⟨decide_eq_true small.1, decide_eq_true (UInt32.le_trans small.2 top)⟩
        exact .inl (Bool.or_eq_true_iff.mpr (.inr lower))
    · split at read
      · next capital =>
          have top : 'F'.val ≤ 'Z'.val := by decide
          have upper : char.isUpper := decide_eq_true ⟨capital.1, UInt32.le_trans capital.2 top⟩
          exact .inl (Bool.or_eq_true_iff.mpr (.inl upper))
      · cases read

/-- An escaped byte is spelled in visible characters. -/
theorem visible_of_hexByte? {high low : Char} {byte : UInt8} (read : hexByte? high low = some byte)
    : IsVisible high ∧ IsVisible low := by
  obtain ⟨first, readHigh, read⟩ := Option.bind_eq_some_iff.mp read
  obtain ⟨second, readLow, -⟩ := Option.map_eq_some_iff.mp read
  exact ⟨(isUnreserved_of_hexDigit? readHigh).isVisible,
    (isUnreserved_of_hexDigit? readLow).isVisible⟩

/-- Every escaped byte takes two characters more than a plain one. -/
theorem PercentEncodes.length_eq (encodes : PercentEncodes bytes text)
    : text.length = bytes.length + 2 * text.count '%' := by
  induction encodes with
  | done => rfl
  | plain unreserved _ _ ih =>
      have other := unreserved.isVisible.ne_percent
      rw [List.length_cons, List.length_cons, ih, List.count_cons_of_ne other]
      omega
  | escaped digits _ ih =>
      obtain ⟨high, low⟩ := visible_of_hexByte? digits
      rw [List.count_cons_self, List.count_cons_of_ne high.ne_percent,
        List.count_cons_of_ne low.ne_percent]
      simp only [List.length_cons, ih]
      omega

/-- What bytes are spelled with has no blanks and takes one byte for each character. -/
theorem PercentEncodes.plain_of_mem (encodes : PercentEncodes bytes text) {char : Char}
    (member : char ∈ text)
    : char.utf8Size = 1 ∧ isBlank char = false := by
  induction encodes with
  | done => cases member
  | plain unreserved _ _ ih =>
      rcases List.mem_cons.mp member with rfl | later
      · exact ⟨unreserved.isVisible.utf8Size, unreserved.isVisible.solid⟩
      · exact ih later
  | escaped digits _ ih =>
      obtain ⟨high, low⟩ := visible_of_hexByte? digits
      simp only [List.mem_cons] at member
      rcases member with rfl | rfl | rfl | later
      · decide
      · exact ⟨high.utf8Size, high.solid⟩
      · exact ⟨low.utf8Size, low.solid⟩
      · exact ih later

end PageAudit.Text
