import SmartQuotes.Linter.Report
import SmartQuotes.Outcome

/-!
# Linting and fixing one document

An inspector extracts the fragments of a document and reviews them. Fixes of nested fragments
overlap; the outer one wins and the inner one is computed again on the changed text, so that fixing
goes on until a pass applies nothing, and for ten passes at most. The extraction is a parameter:
nothing here depends on a language.
-/

namespace SmartQuotes

/-- How documents are reviewed. -/
structure Inspector where
  extract : Text → Outcome (List Fragment)
  templateAware : Bool
  marks : Marks
  level : Level

namespace Inspector

/-- The warnings for a document. -/
def warnings (i : Inspector) (document : Text) : Outcome (List Warning) := do
  let fragments ← i.extract document
  return review i.marks i.level i.templateAware fragments

/-- Report the issues of a document; they are noted, too. -/
def report (i : Inspector) (path document : Text) (fixed : Option Text) (applied : Nat) :
    Outcome Report := do
  let found ← i.warnings document
  let r : Report := ⟨path, found.map (Issue.ofWarning document), fixed, applied⟩
  Outcome.note r.notes
  return r

/-- Report the fragments that hold straight quotes. -/
def lint (i : Inspector) (path document : Text) : Outcome Report := i.report path document none 0

/-! ## Fixing -/

/-- The number of passes after which fixing is given up. -/
def maxPasses : Nat := 10

/-- Apply the replacements for a document: the changed text and how many were applied. -/
def pass (i : Inspector) (document : Text) : Outcome (Text × Nat) := do
  let found ← i.warnings document
  return Replacement.applyAll document (found.filterMap Warning.replacement?)

/-- A document after some passes. -/
structure Progress where
  document : Text
  applied : Nat
  settled : Bool
deriving DecidableEq, Repr

/-- Repeat the pass until nothing is applied, at most so many times. -/
def passes (i : Inspector) (document : Text) (applied : Nat) : Nat → Outcome Progress
  | 0 => .value ⟨document, applied, false⟩
  | n + 1 => do
    let (next, count) ← i.pass document
    if count = 0 then return ⟨next, applied, true⟩
    else i.passes next (applied + count) n

/-- Fix a document and report what is left. -/
def fix (i : Inspector) (path document : Text) : Outcome Report := do
  let p ← i.passes document 0 maxPasses
  unless p.settled do Outcome.note [.fixesPending path maxPasses]
  i.report path p.document (some p.document) p.applied

end Inspector

end SmartQuotes
