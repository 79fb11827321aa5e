import PageAudit.Web.DirectionTable
import PageAudit.Web.Mark

/-! Names in which letters of both directions meet. Where some label of a name holds characters
that are written to the left, every label has to read the same in either surroundings: it
begins with a letter, it holds nothing of the other direction, and it ends with a letter or
a digit.
-/

namespace PageAudit.Web

/-- How a character behaves where directions meet. -/
inductive Direction where
  | rightward
  | leftward
  | arabicDigit
  | europeanDigit
  | neutral
  | mark
deriving DecidableEq

/-- The direction of a character. -/
def direction (char : Char) : Direction :=
  if isNonspacing char then .mark
  else if Text.inRanges europeanDigitRanges char then .europeanDigit
  else if Text.inRanges arabicDigitRanges char then .arabicDigit
  else if Text.inRanges leftwardRanges char then .leftward
  else if Text.inRanges neutralRanges char then .neutral
  else .rightward

namespace Direction

/-- A character that makes the direction of its name matter. -/
def isLeftward (direction : Direction) : Bool :=
  direction == .leftward || direction == .arabicDigit

/-- A label that begins with a letter to the right holds this. -/
def fitsRightward (direction : Direction) : Bool :=
  !direction.isLeftward

/-- A label that begins with a letter to the left holds this. -/
def fitsLeftward (direction : Direction) : Bool :=
  direction != .rightward

/-- A label may end with this, marks behind it apart. -/
def isFirm (direction : Direction) : Bool :=
  direction != .neutral && direction != .mark

/-- The characters of a label keep to the direction of the first one. Digits of both kinds do not
meet in a label to the left.
-/
def areOrderly (directions : List Direction) : Bool :=
  let isEnded := (directions.reverse.dropWhile (· == .mark)).head?.any isFirm
  match directions with
  | [] => true
  | .rightward :: _ => directions.all fitsRightward && isEnded
  | .leftward :: _ =>
      directions.all fitsLeftward && isEnded
        && !(directions.contains .arabicDigit && directions.contains .europeanDigit)
  | _ => false

end Direction

/-- The labels of a name keep to their directions, when those matter. -/
def labelsAreOrderly (labels : List Text) : Bool :=
  let directions := labels.map (·.map direction)
  !directions.any (·.any Direction.isLeftward) || directions.all Direction.areOrderly

end PageAudit.Web
