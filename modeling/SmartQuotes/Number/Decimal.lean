import SmartQuotes.Text.Basic

/-!
# Decimal numbers

A decimal number is a row of digits with a power of ten. It is read from digits with a point and an
exponent, and written in the same form: with an exponent only where a plain row of digits would
start or end in many zeros.
-/

namespace SmartQuotes.Number

/-- The number `digits · 10 ^ exponent`. -/
structure Decimal where
  digits : Nat
  exponent : Int
deriving DecidableEq, Repr

def isDigit (c : Char) : Bool := '0' ≤ c && c ≤ '9'

/-- The number that a row of decimal digits writes. -/
def natural (t : Text) : Nat := t.foldl (fun n c => n * 10 + (c.toNat - 48)) 0

/-- The digits of a number in base ten. -/
def digitsOf (n : Nat) : Text := (toString n).toList

namespace Decimal

/-! ## Reading -/

/-- The exponent that a text writes. -/
def exponentOf : Text → Int
  | '-' :: t => -natural t
  | '+' :: t => natural t
  | t => natural t

/-- The number written by digits with a point among them, and an exponent behind the letter `e`;
point and exponent may be missing. -/
def ofText (t : Text) : Decimal :=
  let isMark (c : Char) : Bool := c == 'e' || c == 'E'
  let number := t.takeWhile fun c => !isMark c
  let whole := number.takeWhile (· != '.')
  let decimals := number.drop (whole.length + 1)
  ⟨natural (whole ++ decimals), exponentOf (t.drop (number.length + 1)) - decimals.length⟩

/-! ## Writing -/

/-- The number of digits in front of the point; a number below one tenth has less than none. -/
def point (d : Decimal) : Int := (digitsOf d.digits).length + d.exponent

/-- A number without the zeros at its end, and how many there were. -/
def stripZeros : Nat → Nat → Nat × Nat
  | 0, n => (n, 0)
  | fuel + 1, n =>
    if n ≠ 0 ∧ n % 10 = 0 then
      let (m, k) := stripZeros fuel (n / 10)
      (m, k + 1)
    else (n, 0)

/-- The same number with as few digits as possible. -/
def normal (d : Decimal) : Decimal :=
  let (digits, zeros) := stripZeros (digitsOf d.digits).length d.digits
  ⟨digits, d.exponent + zeros⟩

/-- The number as a row of digits with a point and at least one digit on either side. -/
def positional (d : Decimal) : Text :=
  let ds := digitsOf d.digits
  if d.point ≤ 0 then text "0." ++ List.replicate (-d.point).toNat '0' ++ ds
  else
    let n := d.point.toNat
    let behind := ds.drop n
    ds.take n ++ List.replicate (n - ds.length) '0' ++ ['.'] ++
      (if behind.isEmpty then ['0'] else behind)

/-- The number with one digit in front of the point and an exponent of at least two digits. -/
def scientific (d : Decimal) : Text :=
  let ds := digitsOf d.digits
  let e := d.point - 1
  let es := digitsOf e.natAbs
  let behind := ds.drop 1
  ds.take 1 ++ (if behind.isEmpty then [] else '.' :: behind) ++
    ['e', if e < 0 then '-' else '+'] ++ List.replicate (2 - es.length) '0' ++ es

/-- The written number: positional from 0.0001 on and below 10^16. -/
def written (d : Decimal) : Text :=
  let d := d.normal
  if d.digits = 0 then text "0.0"
  else if -3 ≤ d.point && d.point ≤ 16 then d.positional
  else d.scientific

end Decimal

end SmartQuotes.Number
