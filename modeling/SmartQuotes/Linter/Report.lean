import SmartQuotes.Note
import SmartQuotes.Quote.Review
import SmartQuotes.Text.Position

/-!
# Reports

What is told of one document: its issues with their places and, when it was fixed, the fixed text
and the number of fixes.
-/

namespace SmartQuotes

/-- A reported fragment at its place in a document. -/
structure Issue where
  line : Nat
  column : Int
  preview : Option Text
deriving DecidableEq, Repr

namespace Issue

/-- The issue for a warning. -/
def ofWarning (document : Text) (w : Warning) : Issue :=
  let (line, column) := document.lineColumn w.start
  ⟨line, column, w.preview⟩

/-- What is noted of an issue in the document at a path. -/
def note (path : Text) (i : Issue) : Note := .issue path i.line i.column i.preview

end Issue

structure Report where
  path : Text
  issues : List Issue
  fixed : Option Text
  applied : Nat
deriving DecidableEq, Repr

namespace Report

/-- What is noted of a report. -/
def notes (r : Report) : List Note := r.issues.map (Issue.note r.path)

end Report

end SmartQuotes
