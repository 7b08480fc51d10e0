import SmartQuotes.Text.Basic

/-!
# Lines and columns

Only a line feed ends a line. Lines and reported columns count from 1; `offsetOf` takes a column
that counts from 0.
-/

namespace SmartQuotes.Text

/-- The offset of the last line feed. -/
def lastLineFeed : Text → Option Nat
  | [] => none
  | c :: t =>
    match lastLineFeed t with
    | some i => some (i + 1)
    | none => if c = '\n' then some 0 else none

/-- The line and the column of an offset. A negative offset selects the characters before it from
the end of the text, and its column is still reckoned from the number itself. -/
def lineColumn (t : Text) (index : Int) : Nat × Int :=
  let before := t.slice 0 index
  let column := match lastLineFeed before with
    | none => index + 1
    | some i => index - i
  (before.count '\n' + 1, column)

/-- The offset after the first `n` line feeds, if there are that many. -/
def afterLineFeeds : Nat → Text → Option Nat
  | 0, _ => some 0
  | _ + 1, [] => none
  | n + 1, c :: t =>
    if c = '\n' then (afterLineFeeds n t).map (· + 1)
    else (afterLineFeeds (n + 1) t).map (· + 1)

/-- The offset of a line and a column counted from 0, clamped to the length; the end of the text
for a line that does not exist. -/
def offsetOf (t : Text) (line column : Int) : Int :=
  match afterLineFeeds (line - 1).toNat t with
  | none => t.length
  | some start => min (start + column) t.length

end SmartQuotes.Text
