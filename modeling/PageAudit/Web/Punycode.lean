import PageAudit.Text.Basic

/-! Punycode writes a label of a domain name in ASCII.

The ASCII characters come first. Behind a hyphen the others follow in the order of their code
points, as the distances from one insertion to the next. Distances are written in digits of
base 36 with thresholds that adapt to their size.
-/

namespace PageAudit.Web.Punycode

/-- The letters stand for the digits up to 25, and the decimal digits for the ten above. -/
def digitChar (value : Nat) : Char :=
  if value < 26 then Char.ofNat ('a'.toNat + value) else Char.ofNat ('0'.toNat + (value - 26))

/-- The value of a digit, whose letters are small ones. -/
def digitValue? (char : Char) : Option Nat :=
  if 'a' ≤ char ∧ char ≤ 'z' then some (char.toNat - 'a'.toNat)
  else if char.isDigit then some (char.toNat - '0'.toNat + 26)
  else none

/-- A digit below the threshold at its place ends a number. -/
def threshold (place bias : Nat) : Nat :=
  max 1 (min 26 (place - bias))

/-- (damp place distance) is the place, counted in steps of 36, where a distance has become
small by divisions by 35, and what is left of it.
-/
def damp (place distance : Nat) : Nat × Nat :=
  if 455 < distance then damp (place + 36) (distance / 35) else (place, distance)
termination_by distance
decreasing_by omega

/-- The bias for the next distance, from the last one and the number of characters so far. -/
def adapt (distance count : Nat) (isFirst : Bool) : Nat :=
  let scaled := if isFirst then distance / 700 else distance / 2
  let (place, rest) := damp 0 (scaled + scaled / count)
  place + 36 * rest / (rest + 38)

/-- The digits of a number from a place on. -/
def digits (bias place number : Nat) : Text :=
  let limit := threshold place bias
  if number < limit then [digitChar number]
  else
    digitChar (limit + (number - limit) % (36 - limit))
      :: digits bias (place + 36) ((number - limit) / (36 - limit))
termination_by number
decreasing_by
  have low : 1 ≤ threshold place bias := Nat.le_max_left ..
  exact Nat.lt_of_le_of_lt (Nat.div_le_self ..) (by omega)

/-- A character with a code point below this one is written as it is. -/
def firstCode : Nat :=
  128

/-- The state of writing: the digits so far, in reverse, the distance since the last
insertion, the bias, and the number of characters that are written.
-/
structure Writing where
  written : Text
  distance : Nat
  bias : Nat
  count : Nat

/-- (pass basic code writing char) moves over a character of the label while the characters with
a code are inserted. The first `basic` characters are ASCII.
-/
def pass (basic code : Nat) (writing : Writing) (char : Char) : Writing :=
  if char.toNat < code then { writing with distance := writing.distance + 1 }
  else if char.toNat = code then
    { written := (digits writing.bias 36 writing.distance).reverse ++ writing.written
      distance := 0
      bias := adapt writing.distance (writing.count + 1) (writing.count = basic)
      count := writing.count + 1 }
  else writing

/-- (insertAll label basic next writing codes) inserts the characters with the given codes, which
increase and are not below `next`.
-/
def insertAll (label : Text) (basic : Nat) : Nat → Writing → List Nat → Writing
  | _, writing, [] => writing
  | next, writing, code :: codes =>
      let start :=
        { writing with distance := writing.distance + (code - next) * (writing.count + 1) }
      let passed := label.foldl (pass basic code) start
      insertAll label basic (code + 1) { passed with distance := passed.distance + 1 } codes

/-- The written form of a label. -/
def encode (label : Text) : Text :=
  let basic := label.filter (fun char => char.toNat < firstCode)
  let codes := (label.map Char.toNat).filter (firstCode ≤ ·)
  let increasing := (codes.mergeSort (fun left right => decide (left ≤ right))).eraseDups
  let start := { written := [], distance := 0, bias := 72, count := basic.length }
  let written := (insertAll label basic.length firstCode start increasing).written.reverse
  if basic.isEmpty then written else basic ++ '-' :: written

/-- The state of reading: the characters so far, the code and the place of the last insertion,
the bias, and the number that is being read with the weight and the place of its next digit.
-/
structure Progress where
  read : Text
  code : Nat
  index : Nat
  bias : Nat
  number : Nat
  weight : Nat
  place : Nat

/-- One more digit. The last digit of a number inserts a character. -/
def readDigit? (progress : Progress) (char : Char) : Option Progress :=
  (digitValue? char).bind fun digit =>
    let limit := threshold progress.place progress.bias
    let number := progress.number + digit * progress.weight
    if limit ≤ digit then
      some
        { progress with
          number
          weight := progress.weight * (36 - limit)
          place := progress.place + 36 }
    else
      let count := progress.read.length + 1
      let target := progress.index + number
      let code := progress.code + target / count
      let index := target % count
      if code.isValidChar then
        some
          { read := progress.read.take index ++ Char.ofNat code :: progress.read.drop index
            code
            index := index + 1
            bias := adapt number count (progress.code = firstCode ∧ progress.index = 0)
            number := 0
            weight := 1
            place := 36 }
      else none

/-- The ASCII characters of a written label, and its digits. -/
def parts? (written : Text) : Option (Text × Text) :=
  match written.reverse.span (· != '-') with
  | (digits, []) => some ([], digits.reverse)
  | (_, [_]) => none
  | (digits, _ :: basic) => some (basic.reverse, digits.reverse)

/-- The label of a written form. -/
def decode? (written : Text) : Option Text :=
  (parts? written).bind fun (basic, digits) =>
    let start : Progress :=
      { read := basic, code := firstCode, index := 0, bias := 72, number := 0, weight := 1
        place := 36 }
    (digits.foldlM readDigit? start).bind fun progress =>
      if progress.place = 36 then some progress.read else none

end PageAudit.Web.Punycode
