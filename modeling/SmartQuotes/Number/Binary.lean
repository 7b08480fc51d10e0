import SmartQuotes.Number.Decimal

/-!
# Binary numbers

Numbers of 53 binary digits with an exponent, as machines compute with them. A fraction is rounded
to the nearest such number, of two equally near ones to the even one; a sum or product is rounded
once. What would need an exponent beyond the highest one is no such number.
-/

namespace SmartQuotes.Number

/-- The number `significand · 2 ^ exponent`. -/
structure Binary where
  significand : Nat
  exponent : Int
deriving DecidableEq, Repr

namespace Binary

/-- The least significand of a number with all its digits. -/
def leading : Nat := Nat.pow 2 52

def lowestExponent : Int := -1074

def highestExponent : Int := 971

def zero : Binary := ⟨0, lowestExponent⟩

/-- The whole number nearest to a quotient, of two equally near ones the even one. -/
def roundedQuotient (n d : Nat) : Nat :=
  let q := n / d
  if 2 * (n % d) > d || (2 * (n % d) == d && q % 2 == 1) then q + 1 else q

/-- The number nearest to the fraction `n / d`, if the exponents reach so far. -/
def nearest? (n d : Nat) : Option Binary :=
  if n = 0 then some zero
  else
    let above (e : Int) : Nat := n * Nat.pow 2 (-e).toNat
    let below (e : Int) : Nat := d * Nat.pow 2 e.toNat
    let guess : Int := (n.log2 : Int) - d.log2 - 52
    let exact := if above guess / below guess < leading then guess - 1 else guess
    let e := max lowestExponent exact
    let m := roundedQuotient (above e) (below e)
    let rounded : Binary := if m = 2 * leading then ⟨leading, e + 1⟩ else ⟨m, e⟩
    if rounded.exponent ≤ highestExponent then some rounded else none

/-- The number nearest to `n · 2 ^ e`. -/
def scaled? (n : Nat) (e : Int) : Option Binary :=
  nearest? (n * Nat.pow 2 e.toNat) (Nat.pow 2 (-e).toNat)

/-- The number nearest to a decimal one. Those far beyond the exponents are not computed. -/
def ofDecimal? (d : Decimal) : Option Binary :=
  if d.digits = 0 || d.point < -330 then some zero
  else if d.point > 310 then none
  else nearest? (d.digits * Nat.pow 10 d.exponent.toNat) (Nat.pow 10 (-d.exponent).toNat)

/-- The rounded sum. -/
def add? (a b : Binary) : Option Binary :=
  let e := min a.exponent b.exponent
  let shifted (x : Binary) : Nat := x.significand * Nat.pow 2 (x.exponent - e).toNat
  scaled? (shifted a + shifted b) e

/-- The rounded product. -/
def mul? (a b : Binary) : Option Binary :=
  scaled? (a.significand * b.significand) (a.exponent + b.exponent)

/-- The whole number that the number is, if it is one. -/
def toNat? (b : Binary) : Option Nat :=
  let d := Nat.pow 2 (-b.exponent).toNat
  if b.significand % d = 0 then some (b.significand / d * Nat.pow 2 b.exponent.toNat) else none

/-! ## Shortest decimals -/

/-- How far below the number the fractions reach that round to it, in quarters of its last digit:
half as far where the digits of smaller numbers are worth half as much. -/
def quartersBelow (b : Binary) : Nat :=
  if b.significand = leading && b.exponent != lowestExponent then 1 else 2

/-- The decimal of `count` digits nearest to the number among those that round to it. `size` is the
number of digits that the number has in front of its point. -/
def decimalOf? (b : Binary) (size : Int) (count : Nat) : Option Decimal :=
  let quarter := b.exponent - 2
  let power : Int := size - count
  let above (quarters : Nat) : Nat :=
    quarters * Nat.pow 2 quarter.toNat * Nat.pow 10 (-power).toNat
  let unit := Nat.pow 2 (-quarter).toNat * Nat.pow 10 power.toNat
  let value := above (4 * b.significand)
  let low := above (4 * b.significand - b.quartersBelow)
  let high := above (4 * b.significand + 2)
  let isEven := b.significand % 2 == 0
  let rounds (n : Nat) : Bool :=
    let x := n * unit
    (low < x || (isEven && low == x)) && (x < high || (isEven && x == high))
  let n := value / unit
  match rounds n, rounds (n + 1) with
  | false, false => none
  | true, false => some ⟨n, power⟩
  | false, true => some ⟨n + 1, power⟩
  | true, true => some ⟨roundedQuotient value unit, power⟩

/-- The first decimal found with `count` digits or more. -/
def shortestFrom (b : Binary) (size : Int) (count : Nat) : Nat → Option Decimal
  | 0 => none
  | fuel + 1 =>
    match b.decimalOf? size count with
    | some d => some d
    | none => b.shortestFrom size (count + 1) fuel

/-- The number of digits in front of the point. -/
def size (b : Binary) : Int :=
  let n := b.significand * Nat.pow 2 b.exponent.toNat
  let d := Nat.pow 2 (-b.exponent).toNat
  if d ≤ n then (digitsOf (n / d)).length else 1 - (digitsOf (d / n)).length

/-- The decimal with the fewest digits that rounds to the number; 17 digits are always enough. -/
def shortest (b : Binary) : Decimal :=
  if b.significand = 0 then ⟨0, 0⟩
  else (b.shortestFrom b.size 1 17).getD ⟨0, 0⟩

/-- The written form of the shortest decimal. -/
def written (b : Binary) : Text := b.shortest.written

end Binary

end SmartQuotes.Number
