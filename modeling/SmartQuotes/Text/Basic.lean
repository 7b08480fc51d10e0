/-!
# Text

A text is its list of code points, so that positions, lengths and offsets all count code points.
Bounds of a slice may be negative (they then count from the end) and may lie outside the text
(they are then clamped).
-/

namespace SmartQuotes

/-- A text, one entry per code point. -/
abbrev Text := List Char

/-- The text of a string. -/
def text (s : String) : Text := s.toList

namespace Text

/-- A slice bound as an offset of a text of length `n`. -/
def bound (n : Nat) (i : Int) : Nat :=
  if i < 0 then (n + i).toNat else min i.toNat n

/-- The characters from bound `a` up to bound `b`. -/
def slice (t : Text) (a b : Int) : Text :=
  (t.drop (bound t.length a)).take (bound t.length b - bound t.length a)

/-- The characters from offset `a` up to offset `b`. -/
def extract (t : Text) (a b : Nat) : Text :=
  (t.take b).drop a

/-- Whether `part` occurs in `t` as a block of adjacent characters. -/
def occursIn (part : Text) : Text → Bool
  | [] => part.isEmpty
  | c :: t => part.isPrefixOf (c :: t) || occursIn part t

/-- The offset of the first place at which `part` occurs in `t`. -/
def locate? (part : Text) : Text → Option Nat
  | [] => if part.isEmpty then some 0 else none
  | c :: t => if part.isPrefixOf (c :: t) then some 0 else (locate? part t).map (· + 1)

/-- The parts of `t` between the characters that satisfy `p`. -/
def splitOn (p : Char → Bool) : Text → List Text
  | [] => [[]]
  | c :: t =>
    if p c then [] :: splitOn p t
    else match splitOn p t with
      | [] => [[c]]
      | w :: ws => (c :: w) :: ws

/-- The given texts with `sep` between them. -/
def join (sep : Text) (ts : List Text) : Text := sep.intercalate ts

end Text

/-- The sum of numbers. -/
def total (ns : List Nat) : Nat := ns.foldr (· + ·) 0

/-- Insert `x` in front of the first member that it is not to follow. -/
def insertBy {α : Type} (le : α → α → Bool) (x : α) : List α → List α
  | [] => [x]
  | y :: ys => if le x y then x :: y :: ys else y :: insertBy le x ys

/-- Order a list by `le`; members that `le` does not tell apart keep their order. -/
def sortBy {α : Type} (le : α → α → Bool) : List α → List α
  | [] => []
  | x :: xs => insertBy le x (sortBy le xs)

end SmartQuotes
