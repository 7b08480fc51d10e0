import SmartQuotes.Outcome
import SmartQuotes.Script.Grammar
import SmartQuotes.Text.Position

/-!
# Fragments of scripts and expressions

A script is tried as a module first and then as a classic script; the error of the first attempt is
the one reported. An expression of a markup template is tried in parentheses, so that braces hold an
object, and then as statements; one that is neither is skipped with a note. Nothing is tried after a
breakdown.
-/

namespace SmartQuotes.Script

/-- A syntax error at its place in the whole document. -/
def parseErrorAt (document : Text) (start : Int) (e : SyntaxError) : ParseError :=
  let (line, column) := document.lineColumn (start + e.offset)
  ⟨e.message, some line, some column⟩

/-- The fragments of the script between two offsets of a document. -/
def extract (document : Text) (start stop : Int) (region : Region) :
    Except Failure (List Fragment) :=
  let source : Source := { text := document.slice start stop, base := start, region }
  match parse .module source with
  | .ok fragments => .ok fragments
  | .error (.broken b) => .error (.broken b)
  | .error (.refused e) =>
    match parse .classic source with
    | .ok fragments => .ok fragments
    | .error (.broken b) => .error (.broken b)
    | .error (.refused _) => .error (.refused (parseErrorAt document start e))

/-- A text in parentheses. -/
def parenthesized (t : Text) : Text := '(' :: t ++ [')']

/-- Whether a fragment lies between two offsets. -/
def isBetween (start stop : Int) (f : Fragment) : Bool := start ≤ f.start && f.stop ≤ stop

/-- The script between two offsets of a document that is an expression of its template. -/
def Source.embedded (document : Text) (start stop : Int) : Source :=
  { text := document.slice start stop, base := start, region := .template }

/-- The fragments of the expression between two offsets of a document. -/
def extractExpression (document : Text) (start stop : Int) : Outcome (List Fragment) :=
  let t := document.slice start stop
  let attempt (wrapped : Text) (base : Int) :=
    parse .classic { text := wrapped, base, region := .template }
  match attempt (parenthesized t) (start - 1) with
  | .ok fragments => .value (fragments.filter (isBetween start stop))
  | .error (.broken b) => ⟨[], .error (.broken b)⟩
  | .error (.refused _) =>
    match attempt t start with
    | .ok fragments => .value (fragments.filter (isBetween start stop))
    | .error (.broken b) => ⟨[], .error (.broken b)⟩
    | .error (.refused _) =>
      let (line, column) := document.lineColumn start
      ⟨[.skippedExpression line column t], .ok []⟩

end SmartQuotes.Script
