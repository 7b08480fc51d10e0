import SmartQuotes.Command.Page
import SmartQuotes.Path

/-!
# Requests

What a command line asks for. Flags are obeyed in their order, so that a wish for help comes before
any problem behind it. Words that are left over are refused last, those in front of the command
first.
-/

namespace SmartQuotes.Command

/-- What can be done. -/
inductive Job
  | check (paths : List Path) (config : Option Path) (summary : Bool)
  | fix (paths : List Path) (config : Option Path)
  | convert (kind : Kind) (fragment : Text) (config : Option Path)
deriving DecidableEq, Repr

inductive Request
  | help (page : Page)
  | refuse (page : Page) (problem : Problem)
  | nothing
  | perform (verbose : Bool) (job : Job)
deriving DecidableEq, Repr

/-- What the steps of a command line have chosen. -/
structure Choices where
  verbose : Bool := false
  config : Option Path := none
  summary : Bool := false
  kind : Kind := .literal
  operands : Option (List Text) := none
deriving DecidableEq, Repr

namespace Choices

/-- The choices behind a step, or the request that it settles. -/
def apply (page : Page) (c : Choices) : Step → Except Request Choices
  | .flag .help _ => .error (.help page)
  | .flag .verbose _ => .ok { c with verbose := true }
  | .flag .config value => .ok { c with config := value.map Path.ofText }
  | .flag .summary _ => .ok { c with summary := true }
  | .flag .kind value =>
    match Kind.ofName? (String.ofList (value.getD [])) with
    | some kind => .ok { c with kind }
    | none => .error (.refuse page (.unknownKind (value.getD [])))
  | .operands words => .ok { c with operands := some words }

/-- The choices of a command line and the words that are left over, or what is asked for instead. -/
def ofReading (page : Page) (r : Reading) : Except Request (Choices × List Text) := do
  let c ← r.steps.foldlM (apply page) {}
  let left ← r.ending.mapError (.refuse page)
  return (c, left)

/-- The paths that are named, or the working directory. -/
def paths (c : Choices) : List Path :=
  match c.operands.getD [] with
  | [] => [Path.ofText ['.']]
  | words => words.map Path.ofText

/-- The job for a command; the page of the program names none. -/
def job (c : Choices) : Page → Except Request Job
  | .check => .ok (.check c.paths c.config c.summary)
  | .fix => .ok (.fix c.paths c.config)
  | page =>
    match c.operands.getD [] with
    | word :: _ => .ok (.convert c.kind word c.config)
    | [] => .error (.refuse page .missingText)

end Choices

namespace Request

/-- Refuse words that are left over. -/
def checkLeft (left : List Text) : Except Request Unit :=
  if left.isEmpty then .ok () else .error (.refuse .program (.unrecognized left))

/-- The request behind the name of a command. -/
def ofCommand (verbose : Bool) (left : List Text) (name : Text) (words : List Text) :
    Except Request Request := do
  match Page.ofCommand? name with
  | none => .error (.refuse .program (.unknownCommand name))
  | some page =>
    let (c, more) ← Choices.ofReading page (page.form.read words)
    let job ← c.job page
    checkLeft (left ++ more)
    return .perform verbose job

/-- The request of a command line, where anything that comes before it counts as an error. -/
def ofWords? (words : List Text) : Except Request Request := do
  let (c, left) ← Choices.ofReading .program (Page.program.form.read words)
  match c.operands with
  | some (name :: rest) => ofCommand c.verbose left name rest
  | _ => checkLeft left; return .nothing

/-- The request of a command line. -/
def ofWords (words : List Text) : Request :=
  match ofWords? words with
  | .ok r => r
  | .error r => r

end Request

end SmartQuotes.Command
