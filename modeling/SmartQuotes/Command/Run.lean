import SmartQuotes.Command.Request
import SmartQuotes.Command.Source
import SmartQuotes.Config.Load
import SmartQuotes.Linter.Summary

/-!
# Running a command

A run prints to two channels, may change files, and ends with an exit code or with a fault that
nobody handles. What was printed and written before a fault stays.
-/

namespace SmartQuotes.Command

/-- What is printed on one of the two channels. -/
inductive Printed
  | output (t : Text)
  | message (t : Text)
deriving DecidableEq, Repr

namespace Printed

def outputLine (t : Text) : Printed := output (t ++ ['\n'])

def messageLine (t : Text) : Printed := message (t ++ ['\n'])

/-- What is printed of notes; those for finding faults only if the user asks for them. -/
def notes (verbose : Bool) (ns : List Note) : List Printed :=
  (ns.filter fun n => verbose || n.severity == .warning).map fun n =>
    messageLine (text n.severity.name ++ text ": " ++ n.message)

end Printed

/-- A fault that ends a run: a file that is no text, a text that cannot be shown, or a text that
stops its reader. -/
inductive Fault
  | undecodable (f : Utf8.Fault)
  | unshowable (f : Console.Styled.Fault)
  | broken (b : Breakdown)
deriving DecidableEq, Repr

structure Run where
  printed : List Printed
  tree : FileTree
  ending : Except Fault Nat

namespace Run

/-- Everything printed for the user to work with. -/
def output (r : Run) : Text := r.printed.flatMap fun
  | .output t => t
  | .message _ => []

/-- Everything printed to inform the user. -/
def messages (r : Run) : Text := r.printed.flatMap fun
  | .output _ => []
  | .message t => t

/-- The run with something printed before it. -/
def after (r : Run) (printed : List Printed) : Run := { r with printed := printed ++ r.printed }

/-- A run that only prints. -/
def quit (tree : FileTree) (printed : List Printed) (code : Nat) : Run := ⟨printed, tree, .ok code⟩

end Run

/-! ## Checking -/

/-- What is printed for a report with issues. -/
def listing (r : Report) : List Printed :=
  if r.issues.isEmpty then []
  else
    .outputLine (r.path ++ [':']) :: r.issues.map fun i =>
      .outputLine (text "  - [" ++ text Finding.rule ++ text "] " ++ Note.number i.line ++ [':'] ++
        Note.number i.column ++ text ": " ++ text Finding.message ++ Note.previewText i.preview)

/-- What is printed of a document that cannot be parsed. -/
def parseFailure (path : Text) (e : ParseError) : List Printed :=
  [.messageLine (path ++ text ": parse error: " ++ text e.message)]

/-- Checked files: the linter behind them, what was printed, whether anything is wrong with them,
and the fault at which checking ended, if any. -/
structure Checked where
  linter : Linter
  printed : List Printed
  failed : Bool
  fault : Option Fault

/-- Check a document. -/
def checkDocument (verbose : Bool) (l : Linter) (language : Language) (path document : Text) :
    Checked :=
  let (next, x) := l.run .lint language path document
  let noted := Printed.notes verbose x.notes
  match x.result with
  | .error (.refused e) => ⟨next, noted ++ parseFailure path e, true, none⟩
  | .error (.broken b) => ⟨next, noted, false, some (.broken b)⟩
  | .ok r => ⟨next, noted ++ listing r, !r.issues.isEmpty, none⟩

/-- The text of a source. -/
def Source.read (tree : FileTree) (s : Source) : Except Utf8.Fault Text :=
  match tree.content? s.place with
  | some c => c.read
  | none => .ok []

def checkSources (tree : FileTree) (verbose : Bool) (l : Linter) : List Source → Checked
  | [] => ⟨l, [], false, none⟩
  | s :: rest =>
    match s.read tree with
    | .error f => ⟨l, [], false, some (.undecodable f)⟩
    | .ok document =>
      let c := checkDocument verbose l s.language (tree.shown s.place) document
      if c.fault.isSome then c
      else
        let more := checkSources tree verbose c.linter rest
        { more with printed := c.printed ++ more.printed, failed := c.failed || more.failed }

/-- The end of a check: the summary, if it is asked for, and the verdict. -/
def finishCheck (tree : FileTree) (columns : Nat) (summary : Bool) (c : Checked) : Run :=
  let verdict (printed : List Printed) : Run :=
    if c.failed then .quit tree printed 1
    else .quit tree (printed ++ [.outputLine (text "No straight quotes found.")]) 0
  match c.fault with
  | some f => ⟨c.printed, tree, .error f⟩
  | none =>
    if summary then
      match c.linter.summary columns with
      | .error f => ⟨c.printed, tree, .error (.unshowable f)⟩
      | .ok lines => verdict (c.printed ++ lines.map .outputLine)
    else verdict c.printed

/-! ## Fixing -/

/-- Fixed files: the tree behind them, what was printed, how many files were changed, whether a
document could not be parsed, and the fault at which fixing ended, if any. -/
structure Fixed where
  tree : FileTree
  printed : List Printed
  updated : Nat
  failed : Bool
  fault : Option Fault

/-- Fix a document in a file and write it back if it has changed. -/
def fixDocument (tree : FileTree) (verbose : Bool) (l : Linter) (s : Source) (document : Text) :
    Fixed :=
  let path := tree.shown s.place
  let x := l.inspect .fix s.language path document
  let noted := Printed.notes verbose x.notes
  match x.result with
  | .error (.refused e) => ⟨tree, noted ++ parseFailure path e, 0, true, none⟩
  | .error (.broken b) => ⟨tree, noted, 0, false, some (.broken b)⟩
  | .ok r =>
    let fixed := r.fixed.getD document
    if fixed = document then ⟨tree, noted, 0, false, none⟩
    else
      let done := Printed.outputLine
        (text "Fixed: " ++ path ++ text " (" ++ Note.number r.applied ++ text " change(s))")
      ⟨tree.write s.place fixed, noted ++ [done], 1, false, none⟩

def fixSources (tree : FileTree) (verbose : Bool) (l : Linter) : List Source → Fixed
  | [] => ⟨tree, [], 0, false, none⟩
  | s :: rest =>
    match s.read tree with
    | .error f => ⟨tree, [], 0, false, some (.undecodable f)⟩
    | .ok document =>
      let x := fixDocument tree verbose l s document
      if x.fault.isSome then x
      else
        let more := fixSources x.tree verbose l rest
        { more with
          printed := x.printed ++ more.printed
          updated := x.updated + more.updated
          failed := x.failed || more.failed }

/-- The end of fixing. -/
def finishFix (x : Fixed) : Run :=
  match x.fault with
  | some f => ⟨x.printed, x.tree, .error f⟩
  | none =>
    let verdict :=
      if x.updated = 0 then text "No changes applied: files were already compliant."
      else Note.number x.updated ++ text " file(s) updated."
    .quit x.tree (x.printed ++ [.outputLine verdict]) (if x.failed then 1 else 0)

/-! ## Jobs -/

/-- Load the configuration and go on with its settings. -/
def withSettings (tree : FileTree) (verbose : Bool) (config : Option Path)
    (go : Config.Settings → Run) : Run :=
  let (notes, result) := Config.load tree config
  let noted := Printed.notes verbose notes
  match result with
  | .ok s => (go s).after noted
  | .error (.undecodable f) => ⟨noted, tree, .error (.undecodable f)⟩
  | .error (.broken b) => ⟨noted, tree, .error (.broken b)⟩
  | .error (.refused r) =>
    .quit tree (noted ++ [.messageLine (text "Error: " ++ r.message)]) 2

/-- Collect the sources and go on with them. -/
def withSources (tree : FileTree) (s : Config.Settings) (paths : List Path)
    (go : List Source → Run) : Run :=
  match Source.collect tree s.extensions paths with
  | .ok sources => go sources
  | .error p => .quit tree [.messageLine (text "Path not found: " ++ p.toText)] 1

/-- The linter for the settings of a configuration. -/
def linterOf (s : Config.Settings) (summary : Bool) : Linter :=
  { marks := s.marks, level := s.level, collects := s.summary || summary }

/-- The text of a single fragment with typographic quotes. -/
def converted (marks : Marks) (kind : Kind) (t : Text) : Text :=
  marks.correct
    { kind, start := 0, stop := t.length, text := t, region := .script, interpolations := none }

/-- Do a job on a terminal of so many columns. -/
def perform (tree : FileTree) (columns : Nat) (verbose : Bool) : Job → Run
  | .check paths config summary =>
    withSettings tree verbose config fun s =>
      withSources tree s paths fun sources =>
        finishCheck tree columns summary (checkSources tree verbose (linterOf s summary) sources)
  | .fix paths config =>
    withSettings tree verbose config fun s =>
      withSources tree s paths fun sources =>
        finishFix (fixSources tree verbose (linterOf s false) sources)
  | .convert kind t config =>
    withSettings tree verbose config fun s =>
      .quit tree [.outputLine (converted s.marks kind t)] 0

/-- Run the program with the words of a command line, on a terminal of so many columns. -/
def run (tree : FileTree) (words : List Text) (columns : Nat := 100) : Run :=
  match Request.ofWords words with
  | .help page => .quit tree [.output page.help] 0
  | .refuse page problem => .quit tree [.message (page.refusal problem)] 2
  | .nothing => .quit tree [.message (Page.help .program)] 1
  | .perform verbose job => perform tree columns verbose job

end SmartQuotes.Command
