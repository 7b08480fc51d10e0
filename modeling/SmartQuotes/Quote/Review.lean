import SmartQuotes.Quote.Rule
import SmartQuotes.Text.Replacement

/-!
# Reviewing the fragments of a document

The rule runs over the visited fragments; its findings come out sorted by position. At level `fix`
each finding carries the text to put in the place of its fragment.
-/

namespace SmartQuotes

/-- How the rule behaves. -/
inductive Level
  | ignore
  | warn
  | fix
deriving DecidableEq, Repr, Inhabited

namespace Level

def name : Level → String
  | ignore => "ignore"
  | warn => "warn"
  | fix => "fix"

def ofName? (s : String) : Option Level := [ignore, warn, fix].find? (·.name == s)

end Level

/-- A finding with the text that replaces its fragment, if it is to be replaced. -/
structure Warning extends Finding where
  replacement : Option Text
deriving DecidableEq, Repr

namespace Warning

/-- The order by start, then by stop. -/
def le (a b : Warning) : Bool :=
  a.start < b.start || (a.start == b.start && a.stop ≤ b.stop)

/-- The warning for a fragment, if there is a finding. -/
def ofFragment? (m : Marks) (level : Level) (f : Fragment) : Option Warning :=
  (Finding.ofFragment? m f).map fun finding =>
    { toFinding := finding
      replacement :=
        if level = .fix && finding.preview.isSome then some (m.correct f) else none }

/-- The replacement that a warning asks for. -/
def replacement? (w : Warning) : Option Replacement :=
  w.replacement.map fun t => ⟨w.start, w.stop, t⟩

end Warning

/-- The warnings for the fragments of a document, sorted by position. -/
def review (m : Marks) (level : Level) (templateAware : Bool) (fragments : List Fragment) :
    List Warning :=
  if level = .ignore then []
  else
    let visited := fragments.filter (·.isVisited (.ofDocument templateAware))
    sortBy Warning.le (visited.filterMap (Warning.ofFragment? m level))

end SmartQuotes
