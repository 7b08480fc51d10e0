import SmartQuotes.Quote.Interpolation
import SmartQuotes.Quote.Marks

/-!
# The rule against straight quotes

A fragment with a straight quote in scope is reported. Its correction converts the single quotes
first and the double quotes of the result after them; excluded spans are moved in between when the
first step has changed the length.
-/

namespace SmartQuotes

namespace Fragment

/-- The spans of the fragment to leave untouched. -/
def excluded (f : Fragment) : List Span :=
  Interpolation.excluded f.text f.kind f.interpolations

/-- The characters of the fragment in scope. -/
def prose (f : Fragment) : Text := f.text.inScope f.kind.trimWidth f.excluded

/-- Whether a straight quote is in scope. -/
def holdsStraightQuote (f : Fragment) : Bool :=
  f.prose.contains singleQuote || f.prose.contains doubleQuote

end Fragment

namespace Marks

/-- Convert both families in a text. -/
def convert (m : Marks) (t : Text) (trim : Int) (excluded : List Span) : Text :=
  let once := m.single.convert t trim excluded
  let excluded :=
    if once.length = t.length then excluded else m.single.shift t trim excluded
  m.double.convert once trim excluded

/-- The text of a fragment with its straight quotes converted. -/
def correct (m : Marks) (f : Fragment) : Text :=
  m.convert f.text f.kind.trimWidth f.excluded

end Marks

/-- A reported fragment; there is no preview when the marks leave the text as it is. -/
structure Finding where
  start : Int
  stop : Int
  preview : Option Text
deriving DecidableEq, Repr

namespace Finding

/-- What every finding says. -/
def message : String := "Prefer the use of curly quotes"

/-- The name of the rule behind every finding. -/
def rule : String := "no-straight-quotes"

/-- The finding for a fragment, if it holds a straight quote in scope. -/
def ofFragment? (m : Marks) (f : Fragment) : Option Finding :=
  if f.holdsStraightQuote then
    let fixed := m.correct f
    some ⟨f.start, f.stop, if fixed = f.text then none else some fixed⟩
  else none

end Finding

end SmartQuotes
