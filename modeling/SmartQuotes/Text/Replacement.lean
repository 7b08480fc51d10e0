import SmartQuotes.Text.Basic

/-!
# Replacing parts of a text

Replacements are applied from left to right. One that starts inside a replaced part is left out, so
that a later pass can compute it again on the changed text.
-/

namespace SmartQuotes

/-- Put `text` in the place of the characters from `start` up to `stop`. -/
structure Replacement where
  start : Int
  stop : Int
  text : Text
deriving DecidableEq, Repr

namespace Replacement

/-- The order by start, then by stop. -/
def le (a b : Replacement) : Bool :=
  a.start < b.start || (a.start == b.start && a.stop ≤ b.stop)

/-- The members of a sorted list that start no earlier than the last chosen one stops. -/
def choose (last : Int) : List Replacement → List Replacement
  | [] => []
  | r :: rest => if r.start < last then choose last rest else r :: choose r.stop rest

/-- The text from `last` on, with the chosen replacements put in. -/
def weave (t : Text) (last : Int) : List Replacement → Text
  | [] => t.slice last t.length
  | r :: rest => t.slice last r.start ++ r.text ++ weave t r.stop rest

/-- The changed text and the number of replacements applied. -/
def applyAll (t : Text) (replacements : List Replacement) : Text × Nat :=
  let chosen := choose 0 (sortBy le replacements)
  (weave t 0 chosen, chosen.length)

end Replacement

end SmartQuotes
