/-!
# Tables of code points

A class of characters is given by a sorted list of closed ranges of code points.
-/

namespace SmartQuotes.Text.Class

/-- Whether code point `n` lies in one of the sorted ranges. -/
def within (n : Nat) : List (Nat × Nat) → Bool
  | [] => false
  | (low, high) :: rest => if n ≤ high then low ≤ n else within n rest

end SmartQuotes.Text.Class
