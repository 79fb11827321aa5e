/-! Texts are lists of characters that are measured in UTF-8 bytes.

Every offset in this library counts bytes from the start of a text, so the functions here
convert between places in a list of characters and byte offsets.
-/

namespace PageAudit

/-- A text is the sequence of its Unicode scalar values. -/
abbrev Text := List Char

namespace Text

/-- A string literal stands for the text that it spells. -/
instance : Coe String Text := ⟨String.toList⟩

/-- The number of bytes in the UTF-8 encoding of a text. -/
def byteSize (text : Text) : Nat :=
  text.foldl (fun size char => size + char.utf8Size) 0

/-- The characters after the first `count` bytes, when that place is between two characters
or at an end of the text.
-/
def dropBytes? : Nat → Text → Option Text
  | 0, text => some text
  | _ + 1, [] => none
  | count + 1, char :: rest =>
      if char.utf8Size ≤ count + 1 then dropBytes? (count + 1 - char.utf8Size) rest else none

/-- The characters in the first `count` bytes in front of `seen`, which is in reverse, when
that place is between two characters or at an end of the text.
-/
def takeBytesOnto? (seen : Text) : Nat → Text → Option Text
  | 0, _ => some seen.reverse
  | _ + 1, [] => none
  | count + 1, char :: rest =>
      if char.utf8Size ≤ count + 1 then
        takeBytesOnto? (char :: seen) (count + 1 - char.utf8Size) rest
      else none

/-- The characters between two byte offsets, when they are in order and both lie between
characters of the text or at its ends.
-/
def slice? (text : Text) (start stop : Nat) : Option Text :=
  if start ≤ stop then
    (dropBytes? start text).bind (takeBytesOnto? [] (stop - start))
  else none

/-- What follows `opening` in a text that begins with it. -/
def after? : Text → Text → Option Text
  | [], text => some text
  | _ :: _, [] => none
  | expected :: opening, char :: rest =>
      if expected = char then after? opening rest else none

/-- A text begins with `opening`. -/
def startsWith (text opening : Text) : Bool :=
  opening.isPrefixOf text

/-- A text ends with `ending`. -/
def endsWith (text ending : Text) : Bool :=
  ending.isSuffixOf text

/-- A text contains `needle` at some place. -/
def contains (needle : Text) : Text → Bool
  | [] => needle.isEmpty
  | char :: rest => startsWith (char :: rest) needle || contains needle rest

/-- A character lies in one of some inclusive ranges of code points, which are in increasing
order.
-/
def inRanges : List (Nat × Nat) → Char → Bool
  | [], _ => false
  | (low, high) :: ranges, char =>
      low ≤ char.toNat && (char.toNat ≤ high || inRanges ranges char)

/-- The text with its ASCII letters in lower case. -/
def lower (text : Text) : Text :=
  text.map Char.toLower

/-- Two texts differ at most in the case of their ASCII letters. -/
def sameLetters (left right : Text) : Bool :=
  lower left == lower right

/-- The decimal digits of a number. -/
def ofNat (number : Nat) : Text :=
  Nat.toDigits 10 number

/-- The texts in order with `separator` between neighbours. -/
def join (separator : Text) (parts : List Text) : Text :=
  (parts.intersperse separator).flatten

/-- The parts of a text between the places of a separating character. -/
def splitOnChar (separator : Char) (text : Text) : List Text :=
  (text.foldr
    (fun char parts =>
      if char = separator then [] :: parts
      else match parts with
        | [] => [[char]]
        | part :: others => (char :: part) :: others)
    [[]])

end Text

end PageAudit
