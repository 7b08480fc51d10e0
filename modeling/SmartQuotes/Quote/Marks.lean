import SmartQuotes.Quote.Conversion

/-!
# Quotation marks

The marks that take the place of the two straight quotes. The defaults are the typographic English
ones.
-/

namespace SmartQuotes

/-- The straight single quote. -/
def singleQuote : Char := '\x27'

/-- The straight double quote. -/
def doubleQuote : Char := '\x22'

/-- The replacement marks of both families. -/
structure Marks where
  singleOpening : Text := ['‘']
  singleClosing : Text := ['’']
  doubleOpening : Text := ['“']
  doubleClosing : Text := ['”']
deriving DecidableEq, Repr

namespace Marks

/-- The single quotes with their marks. -/
def single (m : Marks) : Family := ⟨[singleQuote], m.singleOpening, m.singleClosing⟩

/-- The double quotes with their marks. -/
def double (m : Marks) : Family := ⟨[doubleQuote], m.doubleOpening, m.doubleClosing⟩

end Marks

end SmartQuotes
