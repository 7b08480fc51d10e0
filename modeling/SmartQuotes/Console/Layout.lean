import SmartQuotes.Console.Width
import SmartQuotes.Text.Class

/-!
# Laying out text

A text is cut into lines of a given width at the end of words. A word that is too long for a line is
folded over several lines or cut short with an ellipsis.
-/

namespace SmartQuotes.Console

/-- What is done with a line that is too long. -/
inductive Overflow
  | fold
  | ellipsis
deriving DecidableEq, Repr

/-! ## Words -/

/-- The text without the blanks at its end. -/
def stripEnd (t : Text) : Text := (t.reverse.dropWhile Text.Class.isBlank).reverse

/-- The words of a text, each with the blanks behind it; the first one with the blanks in front,
too. `word` is the beginning of the first word and `ends` tells whether a character that is not
blank begins a new one. -/
def wordsAfter (word : Text) (begun ends : Bool) : Text → List Text
  | [] => if begun then [word] else []
  | c :: t =>
    if Text.Class.isBlank c then wordsAfter (word ++ [c]) begun begun t
    else if ends then word :: wordsAfter [c] true false t
    else wordsAfter (word ++ [c]) true false t

def words (t : Text) : List Text := wordsAfter [] false false t

/-! ## Lines -/

/-- Cut a word into pieces that fit in a line, behind a piece that takes `used` cells. -/
def chopAfter (size : Nat) (piece : Text) (used : Nat) : Text → List Text
  | [] => [piece]
  | c :: t =>
    if size < used + cells c then piece :: chopAfter size [c] (cells c) t
    else chopAfter size (piece ++ [c]) (used + cells c) t

def chop (size : Nat) (word : Text) : List Text := chopAfter size [] 0 word

/-- A line that is complete, unless nothing is on it. -/
def complete (line : Text) : List Text := if line.isEmpty then [] else [line]

/-- Lay words on lines, behind a line that takes `used` cells. Blanks at the end of a line may go
beyond its width. -/
def layWords (size : Nat) (overflow : Overflow) (line : Text) (used : Nat) :
    List Text → List Text
  | [] => [line]
  | w :: ws =>
    let needed := width (stripEnd w)
    if used + needed ≤ size then layWords size overflow (line ++ w) (used + width w) ws
    else if size < needed && overflow == .fold then
      let pieces := chop size w
      let last := pieces.getLastD []
      complete line ++ pieces.dropLast ++ layWords size overflow last (width last) ws
    else complete line ++ layWords size overflow w (width w) ws

/-- The lines for a text without line feeds. -/
def breakLine (size : Nat) (overflow : Overflow) (t : Text) : List Text :=
  match words t with
  | [] => [t]
  | ws => layWords size overflow [] 0 ws

/-- Drop blanks at the end, as far as the line has more characters than its width. -/
def trimEnd (size : Nat) (line : Text) : Text :=
  let blanks := line.length - (stripEnd line).length
  line.take (line.length - min blanks (line.length - size))

/-- Cut a line that takes too many cells. -/
def truncate (size : Nat) (overflow : Overflow) (line : Text) : Text :=
  if width line ≤ size then line
  else match overflow with
    | .fold => fitTo size line
    | .ellipsis => fitTo (size - 1) line ++ ['…']

/-- Replace tabs by spaces up to the next multiple of eight cells; `used` counts the cells behind
the last tab, and `part` holds the characters. -/
def expandTabs (part : Text) (used : Nat) : Text → Text
  | [] => part
  | c :: t =>
    if c = '\t' then
      let reached := used + width (part ++ [' '])
      let filled := (reached + 7) / 8 * 8
      part ++ ' ' :: spaces (filled - reached) ++ expandTabs [] filled t
    else expandTabs (part ++ [c]) used t

/-- A line at the left of its width. -/
def alignLeft (size : Nat) (line : Text) : Text := line ++ spaces (size - width line)

/-- A line in the middle of its width, rather to the left. -/
def alignCenter (size : Nat) (line : Text) : Text :=
  alignLeft size (spaces ((size - width line) / 2) ++ line)

/-- The lines for a text in a column, all of its width; without wrapping there is one line for each
line of the text. -/
def columnLines (size : Nat) (wraps : Bool) (t : Text) : List Text :=
  (t.splitOn (· == '\n')).flatMap fun line =>
    let line := expandTabs [] 0 line
    let lines := if wraps then breakLine size .ellipsis line else [line]
    lines.map fun l => alignLeft size (truncate size .ellipsis (trimEnd size l))

/-- The lines for a heading, centred. -/
def headingLines (size : Nat) (t : Text) : List Text :=
  (breakLine size .fold t).map fun l =>
    alignCenter size (truncate size .fold (stripEnd (trimEnd size l)))

end SmartQuotes.Console
