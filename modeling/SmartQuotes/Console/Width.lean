import SmartQuotes.Console.Width.Ranges
import SmartQuotes.Text.Basic

/-!
# Widths on a terminal

A terminal shows a text in cells. Characters take no cell, one or two. A character that takes none
belongs to the one before it, and a joiner ties two characters together, so that a text falls into
clusters, which are never cut apart.
-/

namespace SmartQuotes.Console

/-- The cells that a character takes on its own. -/
def cells (c : Char) : Nat :=
  let n := c.toNat
  if 0x20 ≤ n && n < 0x7f then 1
  else if Text.Class.within n zeroWidth then 0
  else if Text.Class.within n doubleWidth then 2
  else 1

/-- Characters that are shown together. -/
structure Cluster where
  text : Text
  width : Nat
deriving DecidableEq, Repr

namespace Cluster

/-- The cluster with characters behind it that take no cell. -/
def extend (k : Cluster) (t : Text) : Cluster := { k with text := k.text ++ t }

/-- The clusters of a text behind an open one; `last` is the last character that takes a cell,
unless it was widened. -/
def gather (k : Cluster) (last : Option Char) : Text → List Cluster
  | [] => [k]
  | '\u200d' :: c :: t => gather (k.extend ['\u200d', c]) last t
  | c :: t =>
    if c = '\ufe0f' then
      if last.any fun l => Text.Class.within l.toNat widened then
        gather { k.extend [c] with width := k.width + 1 } none t
      else gather (k.extend [c]) last t
    else if cells c = 0 then gather (k.extend [c]) last t
    else k :: gather ⟨[c], cells c⟩ (some c) t

end Cluster

/-- The clusters of a text, in order. -/
def clusters : Text → List Cluster
  | [] => []
  | c :: t => Cluster.gather ⟨[c], cells c⟩ (if cells c = 0 then none else some c) t

/-- The cells that a text takes. -/
def width (t : Text) : Nat := total ((clusters t).map (·.width))

def spaces (n : Nat) : Text := List.replicate n ' '

/-- The clusters in front that take at most so many cells. -/
def takeCells (n : Nat) : List Cluster → List Cluster
  | [] => []
  | k :: ks => if k.width ≤ n then k :: takeCells (n - k.width) ks else []

/-- The text cut or filled up with spaces to so many cells. -/
def fitTo (n : Nat) (t : Text) : Text :=
  let kept := takeCells n (clusters t)
  kept.flatMap (·.text) ++ spaces (n - total (kept.map (·.width)))

/-- The text cut to at most so many cells. -/
def cropTo (n : Nat) (t : Text) : Text := if width t ≤ n then t else fitTo n t

end SmartQuotes.Console
