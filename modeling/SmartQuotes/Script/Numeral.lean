import SmartQuotes.Number.Binary
import SmartQuotes.Script.Character
import SmartQuotes.Script.Token

/-!
# Values of numbers

Whole numbers in another base than ten have their exact value, all others the nearest binary one.
-/

namespace SmartQuotes.Script.Numeral

open Number

/-- The number that digits of a base write. -/
def inBase (base : Nat) (t : Text) : Nat :=
  t.foldl (fun n c => base * n + (hexValue? c).getD 0) 0

/-- The form of a whole number in messages. There is none of zero. -/
def shownWhole? (n : Nat) : Option String := if n = 0 then none else some (toString n)

/-- The form in messages of a number in base ten: a whole one has no point. -/
def shownDecimal? (d : Decimal) : Option String :=
  match Binary.ofDecimal? d with
  | none => some "inf"
  | some b =>
    match b.toNat? with
    | some n => shownWhole? n
    | none => some (String.ofList b.written)

/-- The form of a number in messages, given its token. There is none of zero. -/
def shown? (t : Token) : Option String :=
  match t.value.toList with
  | '0' :: mark :: digits =>
    if mark = 'x' || mark = 'X' then shownWhole? (inBase 16 digits)
    else if mark = 'b' || mark = 'B' then shownWhole? (inBase 2 digits)
    else if mark = 'o' || mark = 'O' then shownWhole? (inBase 8 digits)
    else if t.octal then shownWhole? (inBase 8 (mark :: digits))
    else shownDecimal? (.ofText ('0' :: mark :: digits))
  | spelling => shownDecimal? (.ofText spelling)

end SmartQuotes.Script.Numeral
