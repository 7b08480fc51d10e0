import SmartQuotes.Text.Quoted
import SmartQuotes.Yaml.Moment

/-!
# Breakdowns

A text can stop its reader short of a verdict: nothing is refused, and no place is told. A breakdown
ends whatever the reader was called for.
-/

namespace SmartQuotes

/-- Why a reader stops. -/
inductive Breakdown
  /-- The part of a template that closes an expression stands where an operand has to start. -/
  | partWithoutHead
  /-- A reference names a number beyond all characters. -/
  | beyondCharacters
  /-- A reference names a number that no word of the machine holds. -/
  | beyondWords
  /-- A section of a document does not start with a name; the text from the section on. -/
  | namelessSection (found : Text)
  /-- A section of a document is of no known kind; what stands for the kind. -/
  | unknownSection (found : Text)
  /-- A text that is marked as a truth value is none. -/
  | noTruth (found : Text)
  /-- A text that is marked as a number is empty. -/
  | noDigits
  /-- A text is no whole number in a base. -/
  | noWhole (base : Nat) (found : Text)
  /-- A text is no number with a point. -/
  | noDecimal (found : Text)
  /-- A text that is marked as a moment is none. -/
  | noMoment
  /-- A day or a moment that cannot be. -/
  | impossible (f : Yaml.Moment.Fault)
deriving DecidableEq, Repr

namespace Breakdown

/-- What is said when a document is given up. -/
def givenUp (why : Text) : Text :=
  text "The markup you provided was rejected by the parser. Trying a different parser or a " ++
    text "different encoding may help.\n\nOriginal exception(s) from parser:\n " ++
    text "AssertionError: " ++ why

/-- What is said of the breakdown. -/
def message : Breakdown → Text
  | partWithoutHead => text "Template literal must start with a template head"
  | beyondCharacters => text "chr() arg not in range(0x110000)"
  | beyondWords => text "Python int too large to convert to C int"
  | namelessSection found => givenUp (text "expected name token at " ++ Text.quoted (found.take 20))
  | unknownSection found =>
    givenUp (text "unknown status keyword " ++ Text.quoted found ++ text " in marked section")
  | noTruth found => Text.quoted found
  | noDigits => text "string index out of range"
  | noWhole base found =>
    text s!"invalid literal for int() with base {base}: " ++ Text.quoted found
  | noDecimal found => text "could not convert string to float: " ++ Text.quoted found
  | noMoment => text "'NoneType' object has no attribute 'groupdict'"
  | impossible f => f.message

end Breakdown

end SmartQuotes
