import SmartQuotes.Console.Layout

/-!
# Tables

A table with a title, a header and a rounded frame, fitted to the width of a terminal. Columns that
wrap give way first, the widest ones before the others; if that is not enough, all columns do.
Between the frame and the first and last column there is no padding.
-/

namespace SmartQuotes.Console

structure Column where
  header : Text
  wraps : Bool
  left : Nat
  right : Nat
deriving DecidableEq, Repr

/-- A column with the texts in it, below its header. -/
structure FilledColumn extends Column where
  cells : List Text
deriving DecidableEq, Repr

structure Table where
  title : Text
  columns : List FilledColumn
deriving DecidableEq, Repr

/-! ## Widths of columns -/

/-- Characters that end a line when widths are measured. -/
def endsLine (c : Char) : Bool :=
  [0xa, 0xb, 0xc, 0xd, 0x1c, 0x1d, 0x1e, 0x85, 0x2028, 0x2029].contains c.toNat

/-- The cells that the longest line of a text takes. -/
def measure (t : Text) : Nat := ((t.splitOn endsLine).map width).foldl max 0

namespace FilledColumn

def padding (c : FilledColumn) : Nat := c.left + c.right

/-- All texts in the column. -/
def texts (c : FilledColumn) : List Text := c.header :: c.cells

/-- The cells that the column wants, of so many. -/
def wanted (c : FilledColumn) (available : Nat) : Nat :=
  (c.texts.map fun t =>
    if available ≤ c.padding then available
    else min (min (measure t) available + c.padding) available).foldl max 0

end FilledColumn

/-- The quotient rounded to the nearest integer, and in the middle to the even one. -/
def roundDiv (a b : Nat) : Nat :=
  let q := a / b
  let twice := 2 * (a % b)
  if twice < b || (twice == b && q % 2 == 0) then q else q + 1

/-- A width that may be reduced, and by how much at most. -/
structure Reducible where
  width : Nat
  limit : Nat
  shares : Bool

/-- Reduce widths by a total that is spread evenly over those that share in it. `sharers` is the
number of them. -/
def reduce (total sharers : Nat) : List Reducible → List Nat
  | [] => []
  | r :: rs =>
    if r.shares then
      let part := min r.limit (roundDiv total sharers)
      (r.width - part) :: reduce (total - part) (sharers - 1) rs
    else r.width :: reduce total sharers rs

def reduceAll (total : Nat) (rs : List Reducible) : List Nat :=
  reduce total (rs.countP (·.shares)) rs

/-- Narrow the widest columns that wrap until the columns fit or there is nothing left to tell them
apart by; at most so many times. -/
def collapse (available : Nat) (wraps : List Bool) (widths : List Nat) : Nat → List Nat
  | 0 => widths
  | n + 1 =>
    let excess := total widths - available
    let wrapping := (widths.zip wraps).filterMap fun (w, yes) => if yes then some w else none
    let widest := wrapping.foldl max 0
    let difference := widest - (wrapping.filter (· != widest)).foldl max 0
    if excess = 0 || difference = 0 then widths
    else
      let step := reduceAll excess ((widths.zip wraps).map fun (w, yes) =>
        ⟨w, min excess difference, yes && w == widest⟩)
      collapse available wraps step n

namespace Table

/-- The cells that the frame takes. -/
def frame (t : Table) : Nat := t.columns.length + 1

/-- The widths of the columns, paddings included, of so many cells. -/
def widths (t : Table) (available : Nat) : List Nat :=
  let measured (a : Nat) (c : FilledColumn) : Nat := if a = 0 then 0 else c.wanted a
  let wanted := t.columns.map fun c => max 1 (measured available c)
  if total wanted ≤ available then wanted
  else
    let collapsed := collapse available (t.columns.map (·.wraps)) wanted (total wanted)
    let reduced := reduceAll (total collapsed - available) (collapsed.map fun w => ⟨w, w, w != 0⟩)
    (reduced.zip t.columns).map fun (w, c) => measured w c

/-! ## Rows -/

/-- The lines of a text in a column, paddings included. -/
def cellLines (c : FilledColumn) (size : Nat) (t : Text) : List Text :=
  if size ≤ c.padding then []
  else (columnLines (size - c.padding) c.wraps t).map fun l =>
    fitTo size (spaces c.left ++ l ++ spaces c.right)

/-- A line of the frame, with its left end, its junctions and its right end. -/
def rule (left junction right : Char) (widths : List Nat) : Text :=
  left :: Text.join [junction] (widths.map (List.replicate · '─')) ++ [right]

/-- The lines of a row. -/
def rowLines (row : List (FilledColumn × Nat × Text)) : List Text :=
  let blocks := row.map fun (c, size, t) => (size, cellLines c size t)
  let height := (blocks.map (·.2.length)).foldl max 1
  (List.range height).map fun i =>
    '│' :: Text.join ['│'] (blocks.map fun (size, lines) => lines.getD i (spaces size)) ++ ['│']

/-- The text of a column in a row; the header is row zero. -/
def row (t : Table) (widths : List Nat) (i : Nat) : List Text :=
  rowLines ((t.columns.zip widths).map fun (c, size) => (c, size, c.texts.getD i []))

/-- The number of rows below the header. -/
def height (t : Table) : Nat := (t.columns.map (·.cells.length)).foldl max 0

/-- The lines of a table on a terminal of so many cells. -/
def lines (t : Table) (size : Nat) : List Text :=
  let widths := t.widths (size - t.frame)
  let middle := rule '├' '┼' '┤' widths
  let rows := (List.range t.height).map fun i => t.row widths (i + 1)
  let all :=
    headingLines (total widths + t.frame) t.title ++ [rule '╭' '┬' '╮' widths] ++
      t.row widths 0 ++ [middle] ++ [middle].intercalate rows ++ [rule '╰' '┴' '╯' widths]
  all.map (cropTo size)

end Table

end SmartQuotes.Console
