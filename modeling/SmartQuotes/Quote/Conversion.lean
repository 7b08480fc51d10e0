import SmartQuotes.Quote.Scope

/-!
# Converting one family of quotes

Of the quotes in scope the first, third, fifth and so on become the opening mark, the others the
closing mark. Where the marks are longer or shorter than the quote the excluded spans move with the
text: `Family.shift` gives their places in the converted text.
-/

namespace SmartQuotes

/-- A straight quote with the marks that take its place. -/
structure Family where
  quote : Text
  opening : Text
  closing : Text
deriving DecidableEq, Repr

namespace Family

/-- The mark for the next quote. -/
def mark (f : Family) (open_ : Bool) : Text := if open_ then f.opening else f.closing

/-- Whether a character of a scope is a quote to convert. -/
def converts (f : Family) (m : Bool × Char) : Bool := m.1 && [m.2] == f.quote

/-- Convert the quotes of a scope, the next of them to an opening mark if `open_`. -/
def curl (f : Family) (open_ : Bool) : List (Bool × Char) → Text
  | [] => []
  | m :: rest =>
    if f.converts m then f.mark open_ ++ curl f (!open_) rest
    else m.2 :: curl f open_ rest

/-- Whether the quote occurs at all outside the excluded spans. -/
def occurs (f : Family) (t : Text) (excluded : List Span) : Bool :=
  Text.occursIn f.quote (t.uncovered excluded)

/-- The text with its quotes in scope converted. -/
def convert (f : Family) (t : Text) (trim : Int) (excluded : List Span) : Text :=
  if f.occurs t excluded then f.curl true (t.scope trim excluded) else t

/-- The positions, from `i` on, of the quotes of a scope, each with the growth of the text up to
and with its mark. -/
def growth (f : Family) (open_ : Bool) (total : Int) (i : Nat) :
    List (Bool × Char) → List (Nat × Int)
  | [] => []
  | m :: rest =>
    if f.converts m then
      let total := total + ((f.mark open_).length - 1)
      (i, total) :: growth f (!open_) total (i + 1) rest
    else growth f open_ total (i + 1) rest

/-- Pass the converted quotes in front of position `start`. -/
def pass (start : Int) : Int → List (Nat × Int) → Int × List (Nat × Int)
  | delta, [] => (delta, [])
  | delta, (i, total) :: rest =>
    if (i : Int) < start then pass start total rest else (delta, (i, total) :: rest)

/-- Move each span by the growth in front of it. -/
def move : Int → List (Nat × Int) → List Span → List Span
  | _, _, [] => []
  | delta, grown, s :: rest =>
    let (delta, grown) := pass s.start delta grown
    ⟨s.start + delta, s.stop + delta⟩ :: move delta grown rest

/-- The excluded spans at their places in the converted text. -/
def shift (f : Family) (t : Text) (trim : Int) (excluded : List Span) : List Span :=
  if f.occurs t excluded then move 0 (f.growth true 0 0 (t.scope trim excluded)) excluded
  else excluded

end Family

end SmartQuotes
