import PageAudit.Text.Bytes
import PageAudit.Text.Numeral

/-! Numeric addresses of hosts, in the forms in which they may be written and in the one form
in which they are compared.
-/

namespace PageAudit.Web

namespace Ipv4

/-- A part of an address is decimal, or octal behind `0`, or hexadecimal behind `0x`. -/
def part? : Text → Option Nat
  | [] => none
  | '0' :: [] => some 0
  | '0' :: mark :: digits =>
      if mark = 'x' ∨ mark = 'X' then Text.digitsIn? 16 digits else Text.digitsIn? 8 (mark :: digits)
  | digits => Text.digitsIn? 10 digits

/-- The parts of a name without an empty part at its end. -/
def parts (name : Text) : List Text :=
  let parts := Text.splitOnChar '.' name
  if 1 < parts.length ∧ parts.getLast? = some [] then parts.dropLast else parts

/-- A name whose last part is a number can only be an address. -/
def endsInNumber (name : Text) : Bool :=
  match (parts name).getLast? with
  | some last => (!last.isEmpty && last.all Char.isDigit) || (part? last).isSome
  | none => false

/-- (combine? places numbers) is the address whose first bytes are all numbers but the last. The
last one fills the remaining places.
-/
def combine? : Nat → List Nat → Option Nat
  | _, [] => none
  | 0, _ => none
  | places + 1, [last] => if last < Nat.pow 256 (places + 1) then some last else none
  | places + 1, number :: next :: numbers =>
      if number < 256 then
        (combine? places (next :: numbers)).map (number * Nat.pow 256 places + ·)
      else none

/-- The address that a name denotes. -/
def ofName? (name : Text) : Option Nat :=
  ((parts name).mapM part?).bind (combine? 4)

/-- An address as four decimal bytes. -/
def write (address : Nat) : Text :=
  Text.join "."
    ([3, 2, 1, 0].map (fun place => Text.ofNat (address / Nat.pow 256 place % 256)))

end Ipv4

namespace Ipv6

/-- A group of an address has up to four hexadecimal digits. -/
def group? (text : Text) : Option Nat :=
  if text.isEmpty ∨ 4 < text.length then none else Text.digitsIn? 16 text

/-- A decimal byte without zeros in front. -/
def byte? (text : Text) : Option Nat :=
  match text with
  | '0' :: _ :: _ => none
  | _ => (Text.readNat? text).filter (· < 256)

/-- Four decimal bytes at the end of an address are two groups. -/
def lastGroups? (text : Text) : Option (List Nat) :=
  if text.any (· == '.') then
    match (Text.splitOnChar '.' text).mapM byte? with
    | some [first, second, third, fourth] =>
        some [first * 256 + second, third * 256 + fourth]
    | _ => none
  else (group? text).map ([·])

/-- The groups between colons, of which the last may be decimal. -/
def groups? : List Text → Option (List Nat)
  | [] => some []
  | [last] => lastGroups? last
  | text :: texts =>
      (group? text).bind fun group => (groups? texts).map (group :: ·)

/-- The groups of a text between colons. The empty text has none. -/
def groupsOf? (text : Text) : Option (List Nat) :=
  if text.isEmpty then some [] else groups? (Text.splitOnChar ':' text)

/-- (splitAtGap? before text) is what stands before and behind the first pair of colons. What is
read already is `before`, in reverse.
-/
def splitAtGap? : Text → Text → Option (Text × Text)
  | before, ':' :: ':' :: rest => some (before.reverse, rest)
  | _, [] => none
  | before, char :: rest => splitAtGap? (char :: before) rest

/-- The eight groups of an address. A pair of colons stands for at least one group of zeros. -/
def ofText? (text : Text) : Option (List Nat) :=
  match splitAtGap? [] text with
  | some (before, behind) =>
      if before.any (· == '.') then none
      else
        (groupsOf? before).bind fun left =>
          (groupsOf? behind).bind fun right =>
            if left.length + right.length < 8 then
              some (left ++ List.replicate (8 - left.length - right.length) 0 ++ right)
            else none
  | none => (groupsOf? text).filter (·.length == 8)

/-- The number of zeros at the front of some groups. -/
def zerosAtFront (groups : List Nat) : Nat :=
  (groups.takeWhile (· == 0)).length

/-- The place and the length of the longest run of zeros, and of two the first. -/
def longestZeros (groups : List Nat) : Nat × Nat :=
  (List.range groups.length).foldl
    (fun best place =>
      let length := zerosAtFront (groups.drop place)
      if best.2 < length then (place, length) else best)
    (0, 0)

/-- Groups in hexadecimal digits with colons between them. -/
def writeGroups (groups : List Nat) : Text :=
  Text.join ":" (groups.map (Nat.toDigits 16))

/-- An address in brackets. A run of at least two zeros, the longest one, is left out. -/
def write (groups : List Nat) : Text :=
  let (place, length) := longestZeros groups
  let inner :=
    if 1 < length then
      writeGroups (groups.take place) ++ ':' :: ':' :: writeGroups (groups.drop (place + length))
    else writeGroups groups
  '[' :: inner ++ [']']

end Ipv6

end PageAudit.Web
