import SmartQuotes.Config.Value
import SmartQuotes.Yaml.Node

/-!
# Values of scalars

What the text of a scalar stands for under its tag. A tag may be written in front of any text, so
that the text need not have the form that the tag asks for; then the scalar has no value.
-/

namespace SmartQuotes.Config.Scalar

open SmartQuotes.Number
open SmartQuotes.Yaml (Plain.unsigned Moment)

/-! ## Truth values -/

/-- The words for the two truth values. -/
def truths : List (String × Bool) :=
  [("yes", true), ("no", false), ("true", true), ("false", false), ("on", true), ("off", false)]

def truthOf (t : Text) : Except Breakdown Value :=
  match truths.find? fun w => text w.1 == t.lower with
  | some (_, b) => .ok (.bool b)
  | none => .error (.noTruth t.lower)

/-! ## Whole numbers -/

/-- The value of a digit or of a letter that serves as one. -/
def digitOf? (c : Char) : Option Nat :=
  match Text.Class.digitValue? c with
  | some d => some d
  | none =>
    if 'a' ≤ c && c ≤ 'z' then some (c.toNat - 87)
    else if 'A' ≤ c && c ≤ 'Z' then some (c.toNat - 55)
    else none

/-- The number that digits of a base write; there is at least one. -/
def digitsIn? (base : Nat) (t : Text) : Option Nat :=
  if t.isEmpty then none
  else
    let digit? (c : Char) : Option Nat := (digitOf? c).filter (· < base)
    t.foldlM (fun n c => (digit? c).map fun d => base * n + d) 0

/-- A text without the mark of its base, if it has one. -/
def withoutMark (base : Nat) (t : Text) : Text :=
  match t with
  | '0' :: c :: r =>
    if (base == 2 && (c == 'b' || c == 'B')) || (base == 8 && (c == 'o' || c == 'O')) ||
        (base == 16 && (c == 'x' || c == 'X')) then r
    else t
  | t => t

/-- The number that a text writes in a base, with a sign and between blanks. -/
def wholeIn (base : Nat) (t : Text) : Except Breakdown Int :=
  let found : Option Int := match t.strip with
    | '-' :: r => (digitsIn? base (withoutMark base r)).map fun n => -(n : Int)
    | '+' :: r => (digitsIn? base (withoutMark base r)).map Int.ofNat
    | r => (digitsIn? base (withoutMark base r)).map Int.ofNat
  match found with
  | some i => .ok i
  | none => .error (.noWhole base t)

/-- The number that parts write in base 60. -/
def sixties (parts : List Text) : Except Breakdown Int :=
  parts.foldlM (fun n t => do return n * 60 + (← wholeIn 10 t)) 0

/-- The magnitude of a whole number, whose start tells its base. -/
def magnitudeOf (t : Text) : Except Breakdown Int :=
  match t with
  | [] => .error .noDigits
  | ['0'] => .ok 0
  | '0' :: 'b' :: r => wholeIn 2 r
  | '0' :: 'x' :: r => wholeIn 16 r
  | '0' :: _ => wholeIn 8 t
  | _ =>
    match Text.splitOn (· == ':') t with
    | [_] => wholeIn 10 t
    | parts => sixties parts

/-- The whole number that a text writes. -/
def intOf (t : Text) : Except Breakdown Value :=
  let t := t.filter (· != '_')
  if t.isEmpty then .error .noDigits
  else do
    let magnitude ← magnitudeOf (Plain.unsigned t)
    return .int (if t.head? == some '-' then -magnitude else magnitude)

/-! ## Numbers with a point -/

/-- Whether a text is digits with a point among them, and perhaps an exponent. -/
def isDecimal (t : Text) : Bool :=
  let isDigit (c : Char) : Bool := (Text.Class.digitValue? c).isSome
  let number := t.takeWhile (· != 'e')
  let whole := number.takeWhile (· != '.')
  let decimals := number.drop (whole.length + 1)
  let exponentIsFine := match t.drop number.length with
    | [] => true
    | _ :: r =>
      let digits := Plain.unsigned r
      !digits.isEmpty && digits.all isDigit
  whole.all isDigit && decimals.all isDigit && !(whole ++ decimals).isEmpty && exponentIsFine

/-- A text with the digits of all scripts in their plain form. -/
def plainDigits (t : Text) : Text :=
  t.map fun c => match Text.Class.digitValue? c with
    | some d => Char.ofNat (48 + d)
    | none => c

/-- The number in small letters that a text writes, with a sign and between blanks. -/
def decimalOf (t : Text) : Except Breakdown Rounded :=
  let inner := t.strip
  let negative := inner.head? == some '-'
  let magnitude := Plain.unsigned inner
  if magnitude == text "inf" || magnitude == text "infinity" then .ok (.infinite negative)
  else if magnitude == text "nan" then .ok .undefined
  else if isDecimal magnitude then
    .ok (.ofMagnitude negative (Binary.ofDecimal? (.ofText (plainDigits magnitude))))
  else .error (.noDecimal t)

/-- The sum of parts in base 60, of which the last one comes first, from the place of the given
worth on. Parts, products and sums are all rounded. -/
def roundedSixties (worth : Nat) (sum : Binary) : List Text → Option Binary
  | [] => some sum
  | part :: rest =>
    (Binary.ofDecimal? (.ofText part)).bind fun b =>
    (Binary.nearest? worth 1).bind fun w =>
    (b.mul? w).bind fun product =>
    (sum.add? product).bind fun sum => roundedSixties (60 * worth) sum rest

/-- The number with a point that a text writes. -/
def realOf (t : Text) : Except Breakdown Value :=
  let t := Text.lower (t.filter (· != '_'))
  if t.isEmpty then .error .noDigits
  else
    let negative := t.head? == some '-'
    let t := Plain.unsigned t
    if t == text ".inf" then .ok (.real (.infinite negative))
    else if t == text ".nan" then .ok (.real .undefined)
    else match Text.splitOn (· == ':') t with
      | [_] => do return .real ((← decimalOf t).signed negative)
      | parts => do
        let _ ← parts.mapM decimalOf
        return .real (.ofMagnitude negative (roundedSixties 1 .zero parts.reverse))

/-! ## Days and moments -/

def momentOf (t : Text) : Except Breakdown Value :=
  match Moment.ofText? t with
  | none => .error .noMoment
  | some m =>
    match m.read with
    | .error f => .error (.impossible f)
    | .ok (day, none) => .ok (.day day)
    | .ok (day, some clock) => .ok (.moment day clock)

/-! ## All scalars -/

/-- The value of a scalar. -/
def value (tag : Yaml.Tag) (t : Text) : Except Breakdown Value :=
  match tag with
  | .null => .ok .null
  | .bool => truthOf t
  | .int => intOf t
  | .float => realOf t
  | .timestamp => momentOf t
  | _ => .ok (.text t)

end SmartQuotes.Config.Scalar
