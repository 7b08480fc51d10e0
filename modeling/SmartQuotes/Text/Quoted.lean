import SmartQuotes.Text.Class

/-!
# Quoted texts

The form in which messages show a text: between single quotes, or between double quotes when it
holds single quotes only. The quote and the backslash are escaped by a backslash, unprintable
characters by their code point in hexadecimal.
-/

namespace SmartQuotes.Text

/-- A digit of a hexadecimal number. -/
def hexDigit (n : Nat) : Char := Char.ofNat (if n < 10 then 48 + n else 87 + n)

/-- The last `width` hexadecimal digits of a number. -/
def hex : Nat → Nat → Text
  | 0, _ => []
  | width + 1, n => hex width (n / 16) ++ [hexDigit (n % 16)]

/-- The escape of an unprintable character, as short as its code point allows. -/
def escapePoint (n : Nat) : Text :=
  if n < 0x100 then '\\' :: 'x' :: hex 2 n
  else if n < 0x10000 then '\\' :: 'u' :: hex 4 n
  else '\\' :: 'U' :: hex 8 n

/-- One character between quotes. -/
def quotedChar (quote c : Char) : Text :=
  if c = quote || c = '\\' then ['\\', c]
  else if c = '\n' then ['\\', 'n']
  else if c = '\r' then ['\\', 'r']
  else if c = '\t' then ['\\', 't']
  else if Class.isPrintable c then [c]
  else escapePoint c.toNat

/-- The quote to put around a text. -/
def outerQuote (t : Text) : Char :=
  if t.contains '\x27' && !t.contains '\x22' then '\x22' else '\x27'

/-- The text between quotes. -/
def quoted (t : Text) : Text :=
  outerQuote t :: t.flatMap (quotedChar (outerQuote t)) ++ [outerQuote t]

end SmartQuotes.Text
