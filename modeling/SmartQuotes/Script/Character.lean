import SmartQuotes.Text.Class

/-!
# Characters of scripts

The classes of characters that the lexical grammar of ECMAScript tells apart.
-/

namespace SmartQuotes.Script

open Text.Class

/-- The four characters that end a line. A line feed after a carriage return ends no line of its
own. -/
def isLineEnd (c : Char) : Bool :=
  c == '\n' || c == '\r' || c == '\u2028' || c == '\u2029'

/-- Blanks that separate tokens without ending a line. -/
def isSpace (c : Char) : Bool :=
  let n := c.toNat
  n == 9 || n == 0xb || n == 0xc || n == 0x20 || n == 0xa0 || n == 0x1680 || n == 0x180e ||
    (0x2000 ≤ n && n ≤ 0x200a) || n == 0x202f || n == 0x205f || n == 0x3000 || n == 0xfeff

/-- Characters that may start a name; the backslash starts an escaped one. -/
def isNameStart (c : Char) : Bool :=
  let n := c.toNat
  if n < 0x80 then isAsciiLetter c || c == '$' || c == '_' || c == '\\'
  else within n letters || within n letterNumbers ||
    n == 0x1885 || n == 0x1886 || n == 0x2118 || n == 0x212e || n == 0x309b || n == 0x309c

/-- Characters that may continue a name. -/
def isNamePart (c : Char) : Bool :=
  let n := c.toNat
  if n < 0x80 then isNameStart c || isAsciiDigit c
  else isNameStart c || within n digits || within n combining || within n connectors ||
    n == 0x200c || n == 0x200d || n == 0xb7 || n == 0x387 || (0x1369 ≤ n && n ≤ 0x1371) ||
    n == 0x19da

/-- The value of a hexadecimal digit. -/
def hexValue? (c : Char) : Option Nat :=
  if '0' ≤ c && c ≤ '9' then some (c.toNat - 48)
  else if 'a' ≤ c && c ≤ 'f' then some (c.toNat - 87)
  else if 'A' ≤ c && c ≤ 'F' then some (c.toNat - 55)
  else none

def isHexDigit (c : Char) : Bool := (hexValue? c).isSome

def isOctalDigit (c : Char) : Bool := '0' ≤ c && c ≤ '7'

end SmartQuotes.Script
