import SmartQuotes.Breakdown

/-!
# Documents that cannot be parsed

What is said of a document whose script is refused, with the place in the whole document; and the
failures that parsing may end with.
-/

namespace SmartQuotes

structure ParseError where
  description : String
  line : Option Int
  column : Option Int
deriving DecidableEq, Repr

namespace ParseError

/-- The description with the place behind it, if the line is known. -/
def message (e : ParseError) : String :=
  match e.line, e.column with
  | none, _ => e.description
  | some line, none => s!"{e.description} (line {line}, column None)"
  | some line, some column => s!"{e.description} (line {line}, column {column})"

end ParseError

/-- Why a document has no fragments: it is refused, or its reader breaks down. -/
inductive Failure
  | refused (e : ParseError)
  | broken (b : Breakdown)
deriving DecidableEq, Repr

end SmartQuotes
