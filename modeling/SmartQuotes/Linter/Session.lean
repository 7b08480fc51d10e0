import SmartQuotes.Document
import SmartQuotes.Linter.Inspector

/-!
# A linter at work

A linter keeps its marks for good. Its level and whether issues are collected may change between
documents; collected issues are kept in the order in which they were reported.
-/

namespace SmartQuotes

/-- An issue that was collected, with the path of its document. -/
structure Entry where
  path : Text
  issue : Issue
deriving DecidableEq, Repr

structure Linter where
  marks : Marks
  level : Level := .fix
  collects : Bool := false
  collected : List Entry := []
deriving DecidableEq, Repr

/-- What a linter does with a document. -/
inductive Task
  | lint
  | fix
deriving DecidableEq, Repr

namespace Linter

/-- The inspector for documents in a language. -/
def inspector (l : Linter) (language : Language) : Inspector :=
  ⟨language.extract, language.isTemplateAware, l.marks, l.level⟩

/-- Lint or fix a document. -/
def inspect (l : Linter) (task : Task) (language : Language) (path document : Text) :
    Outcome Report :=
  match task with
  | .lint => (l.inspector language).lint path document
  | .fix => (l.inspector language).fix path document

/-- Collect the issues of a completed report. -/
def collect (l : Linter) (r : Report) : Linter :=
  if l.collects then { l with collected := l.collected ++ r.issues.map (⟨r.path, ·⟩) } else l

/-- The linter after a document. -/
def after (l : Linter) (x : Outcome Report) : Linter :=
  match x.result with
  | .ok r => l.collect r
  | .error _ => l

/-- Lint or fix a document and collect its issues. -/
def run (l : Linter) (task : Task) (language : Language) (path document : Text) :
    Linter × Outcome Report :=
  let x := l.inspect task language path document
  (l.after x, x)

end Linter

end SmartQuotes
