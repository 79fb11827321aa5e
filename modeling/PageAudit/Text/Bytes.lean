import PageAudit.Text.Basic

/-! Texts as bytes: their encoding in UTF-8, and bytes and numbers in hexadecimal digits. -/

namespace PageAudit.Text

/-- The bytes of a text in UTF-8. -/
def bytes (text : Text) : List UInt8 :=
  (String.ofList text).toUTF8.toList

/-- The text that bytes spell in UTF-8. -/
def ofBytes? (bytes : List UInt8) : Option Text :=
  (String.fromUTF8? (ByteArray.mk bytes.toArray)).map String.toList

/-- The value of a hexadecimal digit. -/
def hexDigit? (char : Char) : Option Nat :=
  if char.isDigit then some (char.toNat - '0'.toNat)
  else if 'a' ≤ char ∧ char ≤ 'f' then some (char.toNat - 'a'.toNat + 10)
  else if 'A' ≤ char ∧ char ≤ 'F' then some (char.toNat - 'A'.toNat + 10)
  else none

/-- The byte of two hexadecimal digits. -/
def hexByte? (first second : Char) : Option UInt8 :=
  (hexDigit? first).bind fun high => (hexDigit? second).map fun low => (16 * high + low).toUInt8

/-- The number that digits of a base up to 16 denote. No digits denote zero. -/
def digitsIn? (base : Nat) (digits : Text) : Option Nat :=
  digits.foldlM
    (fun value digit =>
      (hexDigit? digit).bind fun digit =>
        if digit < base then some (base * value + digit) else none)
    0

end PageAudit.Text
