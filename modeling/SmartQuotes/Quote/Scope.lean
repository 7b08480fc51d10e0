import SmartQuotes.Text.Span

/-!
# The characters that may be converted

A character is in scope when no excluded span covers it and it is none of the first or last `trim`
characters. The excluded spans are read in order with a cursor that drops a span as soon as a
position has reached its stop.
-/

namespace SmartQuotes.Text

/-- Whether the first of the remaining spans has begun at position `i`. -/
def begun (spans : List Span) (i : Int) : Bool :=
  match spans with
  | [] => false
  | s :: _ => s.start ≤ i

/-- Each character, from position `i` on, with whether the cursor stands in a span there. -/
def coverage (spans : List Span) (i : Nat) : Text → List (Bool × Char)
  | [] => []
  | c :: t =>
    let left := spans.dropWhile (fun s => s.stop ≤ (i : Int))
    (begun left i, c) :: coverage left (i + 1) t

/-- The characters that no excluded span covers. -/
def uncovered (t : Text) (excluded : List Span) : Text :=
  ((coverage excluded 0 t).filter (!·.1)).map (·.2)

/-- Trim a coverage, from position `i` on, to the positions from `low` up to `high`. -/
def trimCoverage (low high : Int) (i : Nat) : List (Bool × Char) → List (Bool × Char)
  | [] => []
  | (covered, c) :: rest =>
    (!covered && low ≤ (i : Int) && (i : Int) < high, c) :: trimCoverage low high (i + 1) rest

/-- Each character with whether it is in scope. -/
def scope (t : Text) (trim : Int) (excluded : List Span) : List (Bool × Char) :=
  trimCoverage trim (t.length - trim) 0 (coverage excluded 0 t)

/-- The characters in scope. -/
def inScope (t : Text) (trim : Int) (excluded : List Span) : Text :=
  ((scope t trim excluded).filter (·.1)).map (·.2)

end SmartQuotes.Text
