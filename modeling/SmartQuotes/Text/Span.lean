import SmartQuotes.Text.Basic

/-!
# Spans and their union

A span is a half-open range of positions. `Span.merge` joins the spans of a list that overlap and
leaves apart those that merely touch.
-/

namespace SmartQuotes

/-- The positions from `start` up to, and without, `stop`. -/
structure Span where
  start : Int
  stop : Int
deriving DecidableEq, Repr, Inhabited

namespace Span

/-- The order by start, then by stop. -/
def le (a b : Span) : Bool :=
  a.start < b.start || (a.start == b.start && a.stop ≤ b.stop)

/-- Whether position `i` lies in the span. -/
def covers (s : Span) (i : Int) : Bool := s.start ≤ i && i < s.stop

/-- Extend `current` by each following span that starts inside it. -/
def fuse (current : Span) : List Span → List Span
  | [] => [current]
  | s :: rest =>
    if s.start < current.stop then fuse ⟨current.start, max current.stop s.stop⟩ rest
    else current :: fuse s rest

/-- The union of the spans as a sorted list, overlapping ones joined. -/
def merge (spans : List Span) : List Span :=
  match sortBy le spans with
  | [] => []
  | s :: rest => fuse s rest

end Span

end SmartQuotes
