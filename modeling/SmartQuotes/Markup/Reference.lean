import SmartQuotes.Markup.Reference.Names
import SmartQuotes.Text.Class

/-!
# Character references

In an attribute value an ampersand starts a reference to a character, by number or by name. What is
no reference stands for itself, and so do the characters behind the longest name that is known.
-/

namespace SmartQuotes.Markup.Reference

/-! ## References by number -/

/-- The value of a hexadecimal digit. -/
def digit? (c : Char) : Option Nat :=
  if '0' ≤ c && c ≤ '9' then some (c.toNat - 48)
  else if 'a' ≤ c && c ≤ 'f' then some (c.toNat - 87)
  else if 'A' ≤ c && c ≤ 'F' then some (c.toNat - 55)
  else none

/-- The number written by digits of the given base. -/
def number (base : Nat) (digits : Text) : Nat :=
  digits.foldl (fun n c => n * base + (digit? c).getD 0) 0

/-- The characters that the numbers from 0x80 to 0x9f stand for. -/
def windows : Text := [
  '\u20ac', '\u0081', '\u201a', '\u0192', '\u201e', '\u2026', '\u2020', '\u2021',
  '\u02c6', '\u2030', '\u0160', '\u2039', '\u0152', '\u008d', '\u017d', '\u008f',
  '\u0090', '\u2018', '\u2019', '\u201c', '\u201d', '\u2022', '\u2013', '\u2014',
  '\u02dc', '\u2122', '\u0161', '\u203a', '\u0153', '\u009d', '\u017e', '\u0178']

/-- Whether a number stands for no character. -/
def isVoid (n : Nat) : Bool :=
  (1 ≤ n && n ≤ 8) || n == 0xb || (0xe ≤ n && n ≤ 0x1f) || n == 0x7f ||
    (0xfdd0 ≤ n && n ≤ 0xfdef) || n % 0x10000 == 0xfffe || n % 0x10000 == 0xffff

/-- The text that a number stands for. -/
def ofNumber (n : Nat) : Text :=
  if 0x80 ≤ n && n ≤ 0x9f then (windows.drop (n - 0x80)).take 1
  else if n == 0 || (0xd800 ≤ n && n ≤ 0xdfff) || 0x10ffff < n then ['\ufffd']
  else if isVoid n then []
  else [Char.ofNat n]

/-! ## References by name -/

/-- The text that a row gives for a name. -/
def ofRow? (name : Text) (row : String) : Option Text :=
  (Text.splitOn (· == ' ') (text row)).findSome? fun entry =>
    let key := entry.takeWhile (· != '=')
    if key = name then
      some ((Text.splitOn (· == '+') (entry.drop (key.length + 1))).map
        fun digits => Char.ofNat (number 16 digits))
    else none

/-- The text that a name stands for. The name includes the semicolon behind it, if there is one. -/
def ofName? (name : Text) : Option Text :=
  if name.getLast? = some ';' then (shortRows ++ longRows).findSome? (ofRow? name.dropLast)
  else shortRows.findSome? (ofRow? name)

/-- The text for the longest known name of at most `n` characters, and at least two, that a text
starts with, together with the characters behind that name. -/
def ofLongestName? (t : Text) : Nat → Option Text
  | 0 | 1 => none
  | n + 2 =>
    match ofName? (t.take (n + 2)) with
    | some found => some (found ++ t.drop (n + 2))
    | none => ofLongestName? t (n + 1)

/-- The text that a name with its semicolon stands for. -/
def ofName (name : Text) : Text :=
  match ofName? name with
  | some found => found
  | none => (ofLongestName? name (name.length - 1)).getD ('&' :: name)

/-! ## Texts -/

/-- Characters of names. -/
def isNameChar (c : Char) : Bool := !(text "\t\n\x0c <&#;").contains c

/-- One more than the number of characters if a semicolon follows them. -/
def withSemicolon (t : Text) (n : Nat) : Nat := if (t.drop n).head? = some ';' then n + 1 else n

/-- The reference behind an ampersand: how many characters it has, and what it stands for. -/
def read? (t : Text) : Option (Nat × Text) :=
  match t with
  | '#' :: r =>
    let decimal := r.takeWhile Text.Class.isAsciiDigit
    if !decimal.isEmpty then
      some (withSemicolon t (1 + decimal.length), ofNumber (number 10 decimal))
    else if r.head? = some 'x' || r.head? = some 'X' then
      let digits := (r.drop 1).takeWhile fun c => (digit? c).isSome
      if digits.isEmpty then none
      else some (withSemicolon t (2 + digits.length), ofNumber (number 16 digits))
    else none
  | t =>
    let name := (t.takeWhile isNameChar).take 32
    if name.isEmpty then none
    else
      let width := withSemicolon t name.length
      some (width, ofName (t.take width))

/-- The text with its references replaced. -/
def decode (t : Text) : Text :=
  match t with
  | [] => []
  | c :: r =>
    if c = '&' then
      match read? r with
      | some (n, found) => found ++ decode (r.drop n)
      | none => c :: decode r
    else c :: decode r
termination_by t.length
decreasing_by all_goals simp only [List.length_cons, List.length_drop]; omega

end SmartQuotes.Markup.Reference
