import PageAudit.Text.Basic

/-! Spans are ranges of byte offsets in a text. -/

namespace PageAudit

/-- The bytes from `start` up to, but not including, `stop`. -/
structure Span where
  start : Nat
  stop : Nat
deriving DecidableEq

namespace Span

/-- The span between two offsets. A stop in front of the start is raised to it. -/
def between (start stop : Nat) : Span :=
  { start, stop := max start stop }

/-- The empty span at the start of a document. -/
def documentStart : Span :=
  { start := 0, stop := 0 }

/-- The number of bytes in a span. -/
def size (span : Span) : Nat :=
  span.stop - span.start

/-- A span that holds no byte. -/
def isEmpty (span : Span) : Bool :=
  span.start == span.stop

/-- The span of as many bytes, moved right by `distance`. -/
def shift (distance : Nat) (span : Span) : Span :=
  { start := distance + span.start, stop := distance + span.stop }

end Span

end PageAudit
