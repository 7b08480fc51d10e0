import SmartQuotes.Console.Styled
import SmartQuotes.Console.Table
import SmartQuotes.Linter.Session

/-!
# Summaries

The issues that a linter has collected, as a table with a row for each. Paths and messages are
styled texts; the suggestion is escaped, so that no tag in it is obeyed.
-/

namespace SmartQuotes

namespace Entry

/-- The place of an issue: its path, line and column. -/
def location (e : Entry) : Text :=
  e.path ++ ':' :: Note.number e.issue.line ++ ':' :: Note.number e.issue.column

/-- The preview between guillemets, if there is one that is not empty. -/
def suggestion (e : Entry) : Text :=
  match e.issue.preview with
  | none => []
  | some t => if t.isEmpty then [] else Console.Styled.escape (text "«" ++ t ++ text "»")

end Entry

namespace Linter

/-- A column of styled texts as it is shown. -/
def summaryColumn (header : String) (wraps : Bool) (left right : Nat) (cells : List Text) :
    Except Console.Styled.Fault Console.FilledColumn := do
  return { header := text header, wraps, left, right, cells := ← cells.mapM Console.Styled.shown }

/-- The table of issues. -/
def summaryTable (entries : List Entry) : Except Console.Styled.Fault Console.Table := do
  let rule ← summaryColumn "Rule" false 0 1 (entries.map fun _ => text Finding.rule)
  let location ← summaryColumn "Location" true 1 1 (entries.map Entry.location)
  let message ← summaryColumn "Message" true 1 1 (entries.map fun _ => text Finding.message)
  let suggestion ← summaryColumn "Suggestion" true 1 0 (entries.map Entry.suggestion)
  return ⟨text "Straight quotes summary", [rule, location, message, suggestion]⟩

/-- The lines of the summary on a terminal of so many cells; nothing if nothing was collected or
there are no cells to show it in. -/
def summary (l : Linter) (size : Nat) : Except Console.Styled.Fault (List Text) :=
  if l.collected.isEmpty || size = 0 then .ok []
  else do return (← summaryTable l.collected).lines size

end Linter

end SmartQuotes
