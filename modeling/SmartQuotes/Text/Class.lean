import SmartQuotes.Text.Basic
import SmartQuotes.Text.Class.Cased
import SmartQuotes.Text.Class.Letters
import SmartQuotes.Text.Class.Lower
import SmartQuotes.Text.Class.Marks
import SmartQuotes.Text.Class.Numerals
import SmartQuotes.Text.Class.Unprintable

/-!
# Classes of characters

Blanks, words, identifiers, printable characters and lower case for the whole of Unicode. ASCII is
answered without a table.
-/

namespace SmartQuotes

namespace Text.Class

/-- Blank characters: separators of words, lines and columns. -/
def isBlank (c : Char) : Bool :=
  let n := c.toNat
  if n < 0x80 then n == 0x20 || (9 ≤ n && n ≤ 0xd) || (0x1c ≤ n && n ≤ 0x1f)
  else n == 0x85 || n == 0xa0 || n == 0x1680 || (0x2000 ≤ n && n ≤ 0x200a) ||
    n == 0x2028 || n == 0x2029 || n == 0x202f || n == 0x205f || n == 0x3000

/-- Letters of the ASCII range. -/
def isAsciiLetter (c : Char) : Bool := ('a' ≤ c && c ≤ 'z') || ('A' ≤ c && c ≤ 'Z')

/-- Digits of the ASCII range. -/
def isAsciiDigit (c : Char) : Bool := '0' ≤ c && c ≤ '9'

/-- The value of a decimal digit: a range of digits counts from zero on, again and again. -/
def digitValue? (c : Char) : Option Nat :=
  (digits.find? fun r => r.1 ≤ c.toNat && c.toNat ≤ r.2).map fun r => (c.toNat - r.1) % 10

/-- Characters of words: letters, numerals and the underscore. -/
def isWord (c : Char) : Bool :=
  if c.toNat < 0x80 then isAsciiLetter c || isAsciiDigit c || c == '_'
  else within c.toNat letters || within c.toNat numerals

/-- Characters that a quoted text shows as they are. -/
def isPrintable (c : Char) : Bool :=
  if c.toNat < 0x80 then 0x20 ≤ c.toNat && c.toNat < 0x7f
  else !within c.toNat unprintable

/-- The code point of the lower case letter, looked up in a table of runs. -/
def lowerPoint (n : Nat) : List (Nat × Nat × Nat × Int) → Nat
  | [] => n
  | (low, high, step, delta) :: rest =>
    if low ≤ n && n ≤ high && (n - low) % step == 0 then (n + delta).toNat
    else lowerPoint n rest

/-- The lower case of a character; one letter has a lower case of two characters. -/
def lower (c : Char) : Text :=
  if c.toNat < 0x80 then [if 'A' ≤ c && c ≤ 'Z' then Char.ofNat (c.toNat + 32) else c]
  else if c.toNat = 0x130 then ['i', '\u0307']
  else [Char.ofNat (lowerPoint c.toNat lowerRuns)]

end Text.Class

namespace Text

/-- Whether the first character that is not passed over belongs to a word with a case. -/
def startsCased (t : Text) : Bool :=
  ((t.dropWhile fun c => Class.within c.toNat Class.caseIgnorable).head?.map fun c =>
    Class.within c.toNat Class.cased).getD false

/-- The lower case of a text behind the given characters, the last of which comes first. A sigma has
a form of its own at the end of a word. -/
def lowerAfter (before : Text) : Text → Text
  | [] => []
  | c :: t =>
    (if c = 'Σ' then [if startsCased before && !startsCased t then 'ς' else 'σ']
      else Class.lower c) ++ lowerAfter (c :: before) t

/-- The text in lower case. -/
def lower (t : Text) : Text := lowerAfter [] t

/-- Whether the text has no character but blanks. -/
def isBlank (t : Text) : Bool := t.all Class.isBlank

/-- The text without the blanks at its ends. -/
def strip (t : Text) : Text :=
  ((t.dropWhile Class.isBlank).reverse.dropWhile Class.isBlank).reverse

end Text

end SmartQuotes
