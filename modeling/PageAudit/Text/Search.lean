import PageAudit.Text.Basic

/-! Leftmost search: the places where a pattern is found in a text, from left to right and
without overlaps.
-/

namespace PageAudit.Text

/-- A pattern looks at the character before a place, if there is one, and at the text from
that place on. It answers with what it read and with the number of characters it took.
-/
abbrev Pattern (α : Type) := Option Char → Text → Option (α × Nat)

/-- Something that a pattern read, with the byte offsets where it starts and stops. -/
structure Hit (α : Type) where
  start : Nat
  stop : Nat
  value : α

/-- (hitsFrom pattern skip offset before rest) lists the hits of a pattern in `rest`, which
stands at `offset` after the character `before`. Its first `skip` characters belong to an
earlier hit and start no other one.
-/
def hitsFrom {α : Type} (pattern : Pattern α)
    : Nat → Nat → Option Char → Text → List (Hit α)
  | _, _, _, [] => []
  | skip + 1, offset, _, char :: rest =>
      hitsFrom pattern skip (offset + char.utf8Size) (some char) rest
  | 0, offset, before, char :: rest =>
      match pattern before (char :: rest) with
      | some (value, count) =>
        { start := offset, stop := offset + byteSize ((char :: rest).take count), value }
          :: hitsFrom pattern (count - 1) (offset + char.utf8Size) (some char) rest
      | none => hitsFrom pattern 0 (offset + char.utf8Size) (some char) rest

/-- Every hit of a pattern in a text, each starting at the first possible place at or after
the end of the one before.
-/
def hits {α : Type} (pattern : Pattern α) (text : Text) : List (Hit α) :=
  hitsFrom pattern 0 0 none text

/-- (firstHitFrom pattern offset before rest) is the leftmost hit of a pattern in `rest`,
which stands at `offset` after the character `before`.
-/
def firstHitFrom? {α : Type} (pattern : Pattern α)
    : Nat → Option Char → Text → Option (Hit α)
  | _, _, [] => none
  | offset, before, char :: rest =>
      match pattern before (char :: rest) with
      | some (value, count) =>
        some { start := offset, stop := offset + byteSize ((char :: rest).take count), value }
      | none => firstHitFrom? pattern (offset + char.utf8Size) (some char) rest

/-- The leftmost hit of a pattern in a text. -/
def firstHit? {α : Type} (pattern : Pattern α) (text : Text) : Option (Hit α) :=
  firstHitFrom? pattern 0 none text

end PageAudit.Text
