/-! Offsets count bytes. A distance between two of them is measured forward, to the one behind. -/

namespace PageAudit.Offset

/-- The distance from `base` forward to `offset`. -/
def distance (base offset : Nat) : Nat :=
  offset - base

/-- The offset that lies `distance` behind `base`. -/
def advance (base distance : Nat) : Nat :=
  base + distance

end PageAudit.Offset
