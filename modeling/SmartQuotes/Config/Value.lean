import SmartQuotes.Number.Binary
import SmartQuotes.Text.Quoted
import SmartQuotes.Yaml.Moment

/-!
# Values of configuration files

The values that a configuration file may hold, the names of their types, and the form in which
messages show them.
-/

namespace SmartQuotes.Config

/-- A number with a point, rounded to a binary one. -/
inductive Rounded
  | finite (negative : Bool) (magnitude : Number.Binary)
  | infinite (negative : Bool)
  | undefined
deriving DecidableEq, Repr

/-- A value of a configuration file; entries of mappings keep their order. -/
inductive Value
  | null
  | bool (b : Bool)
  | int (i : Int)
  | real (r : Rounded)
  | text (t : Text)
  | day (d : Yaml.Day)
  | moment (d : Yaml.Day) (c : Yaml.Clock)
  | list (items : List Value)
  | mapping (entries : List (Value × Value))
deriving Repr, Inhabited

/-! ## Types -/

/-- The types that messages speak of. -/
inductive Shape
  | null
  | bool
  | int
  | real
  | text
  | day
  | moment
  | list
  | mapping
deriving DecidableEq, Repr

namespace Shape

/-- The name of a type. -/
def name : Shape → String
  | null => "NoneType"
  | bool => "bool"
  | int => "int"
  | real => "float"
  | text => "str"
  | day => "datetime.date"
  | moment => "datetime.datetime"
  | list => "list"
  | mapping => "dict"

/-- The form in which messages show a type. -/
def shown (s : Shape) : Text := SmartQuotes.text "<class '" ++ SmartQuotes.text s.name ++
  SmartQuotes.text "'>"

end Shape

/-! ## Written forms -/

namespace Rounded

/-- A number of the given magnitude; what no binary number comes near is infinite. -/
def ofMagnitude (negative : Bool) : Option Number.Binary → Rounded
  | some b => finite negative b
  | none => infinite negative

/-- The number, or the opposite one. -/
def signed (r : Rounded) (negative : Bool) : Rounded :=
  match r with
  | finite n b => finite (n != negative) b
  | infinite n => infinite (n != negative)
  | undefined => undefined

/-- The whole number that the number is, if it is one. -/
def toInt? : Rounded → Option Int
  | finite negative b => b.toNat?.map fun n => if negative then -n else n
  | _ => none

def shown : Rounded → Text
  | finite negative b => (if negative then ['-'] else []) ++ b.written
  | infinite negative => text (if negative then "-inf" else "inf")
  | undefined => text "nan"

end Rounded

namespace Value

def shape : Value → Shape
  | null => .null
  | bool _ => .bool
  | int _ => .int
  | real _ => .real
  | text _ => .text
  | day _ => .day
  | moment _ _ => .moment
  | list _ => .list
  | mapping _ => .mapping

/-- The form in which messages show a value. -/
def shown : Value → Text
  | null => SmartQuotes.text "None"
  | bool b => SmartQuotes.text (if b then "True" else "False")
  | int i => SmartQuotes.text (toString i)
  | real r => r.shown
  | text t => t.quoted
  | day d => d.shown
  | moment d c => c.shown d
  | list items => '[' :: Text.join [',', ' '] (items.attach.map fun ⟨v, _⟩ => v.shown) ++ [']']
  | mapping entries =>
    '\x7b' :: Text.join [',', ' '] (entries.attach.map fun ⟨(k, v), _⟩ =>
      k.shown ++ [':', ' '] ++ v.shown) ++ ['\x7d']
termination_by v => sizeOf v
decreasing_by
  · have := List.sizeOf_lt_of_mem ‹_ ∈ items›
    simp; omega
  · have := List.sizeOf_lt_of_mem ‹(k, v) ∈ entries›
    simp at this ⊢; omega
  · have := List.sizeOf_lt_of_mem ‹(k, v) ∈ entries›
    simp at this ⊢; omega

/-- The name of a key. -/
def written : Value → Text
  | text t => t
  | day d => d.written
  | moment d c => d.written ++ ' ' :: c.written
  | v => v.shown

end Value

end SmartQuotes.Config
