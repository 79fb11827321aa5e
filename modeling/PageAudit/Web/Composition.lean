import PageAudit.Text.Basic
import PageAudit.Web.CombiningTable
import PageAudit.Web.CompositionTable

/-! Canonical composition: a base and its marks become one character where there is one, after
the marks have been put in order. Equivalent texts have one composed form.
-/

namespace PageAudit.Web

/-- The canonical combining class of a character. -/
def combiningClass (char : Char) : Nat :=
  let code := char.toNat
  match combiningRanges.find? (fun (low, high, _) => low ≤ code && code ≤ high) with
  | some (_, _, value) => value
  | none => 0

/-- The first syllable of the Korean ones, which are composed by rule. -/
def syllableBase : Nat :=
  0xAC00

/-- The base and the mark of a composed character. -/
def parts? (char : Char) : Option (Char × Char) :=
  let code := char.toNat
  if code < 0xC0 then none
  else if syllableBase ≤ code ∧ code < syllableBase + 11172 then
    let index := code - syllableBase
    if index % 28 = 0 then
      some (Char.ofNat (0x1100 + index / 588), Char.ofNat (0x1161 + index % 588 / 28))
    else
      some (Char.ofNat (code - index % 28), Char.ofNat (0x11A7 + index % 28))
  else
    (compositions.find? (fun (composed, _, _) => composed == code)).map
      (fun (_, base, mark) => (Char.ofNat base, Char.ofNat mark))

/-- The character that a base and a mark make up. -/
def compose? (base mark : Char) : Option Char :=
  let first := base.toNat
  let second := mark.toNat
  if 0x1100 ≤ first ∧ first < 0x1113 ∧ 0x1161 ≤ second ∧ second < 0x1176 then
    some (Char.ofNat (syllableBase + ((first - 0x1100) * 21 + (second - 0x1161)) * 28))
  else if syllableBase ≤ first ∧ first < syllableBase + 11172
      ∧ (first - syllableBase) % 28 = 0 ∧ 0x11A7 < second ∧ second < 0x11C3 then
    some (Char.ofNat (first + (second - 0x11A7)))
  else
    (compositions.find? (fun (_, left, right) => left == first && right == second)).map
      (fun (composed, _, _) => Char.ofNat composed)

/-- (expand fuel char) takes a character apart. A composed character has at most four parts, so
`fuel` is small.
-/
def expand : Nat → Char → Text
  | 0, char => [char]
  | fuel + 1, char =>
      match parts? char with
      | some (base, mark) => expand fuel base ++ [mark]
      | none => [char]

/-- (sink mark class marks) puts a mark behind those marks whose class is not greater. -/
def sink (mark : Char) (rank : Nat) : List (Char × Nat) → List (Char × Nat)
  | [] => [(mark, rank)]
  | (other, otherRank) :: marks =>
      if rank < otherRank then (mark, rank) :: (other, otherRank) :: marks
      else (other, otherRank) :: sink mark rank marks

/-- (order pending text) puts each run of marks in the order of their classes. The run that is
being read is `pending`.
-/
def order : List (Char × Nat) → Text → List (Char × Nat)
  | pending, [] => pending
  | pending, char :: rest =>
      let rank := combiningClass char
      if rank = 0 then pending ++ (char, 0) :: order [] rest
      else order (sink char rank pending) rest

/-- (joinMarks base skipped last marks) joins the characters that follow a base with it, as long as
a mark is not blocked by one that stays. Those that stay are in `skipped`, in reverse, and
`last` is the class of the last of them.
-/
def joinMarks (base : Char) (skipped : Text) (last : Nat) : List (Char × Nat) → Text
  | [] => base :: skipped.reverse
  | (char, rank) :: rest =>
      let joined :=
        if last = 0 ∧ skipped.isEmpty ∨ last < rank then compose? base char else none
      match joined with
      | some composed => joinMarks composed skipped last rest
      | none =>
          if rank = 0 then base :: skipped.reverse ++ joinMarks char [] 0 rest
          else joinMarks base (char :: skipped) rank rest

/-- (compose ordered) composes what can be composed. Marks before the first base stay. -/
def compose : List (Char × Nat) → Text
  | [] => []
  | (char, rank) :: rest =>
      if rank = 0 then joinMarks char [] 0 rest else char :: compose rest

/-- The composed form of a text. -/
def composed (text : Text) : Text :=
  if text.all (fun char => char.toNat < 0xC0) then text
  else compose (order [] (text.flatMap (expand 4)))

end PageAudit.Web
