import SmartQuotes.Script.Grammar.Statement

/-!
# Parsing scripts

Scripts are parsed as a module, in which all code is strict and names may be imported and exported,
or as a classic script. A parse succeeds with the fragments of the script, each within its text and
in increasing order, or ends early, with the first syntax error for instance.
-/

namespace SmartQuotes.Script

open SmartQuotes.Script.Parser

variable {σ : Source}

namespace Grammar

/-- Read a production that nests, at most `fuel` deep. -/
def read : Nat → Nest σ
  | 0 => fun _ => fail .unexpectedEnd
  | fuel + 1 => fun goal =>
    let nest := read fuel
    let plain (p : Parser σ Unit) : Parser σ Form := do
      p
      return .other
    match goal with
    | .assignment => assignment nest
    | .unary => unary nest
    | .power => power nest
    | .callee => callee nest
    | .call => call nest
    | .pattern declaration => pattern nest declaration
    | .statement => plain (statement nest)
    | .item => plain (item nest)
    | .element => plain (element nest)

/-- No production nests deeper: each one reads a character before it reads the next inside. -/
def depth (source : Source) : Nat := 2 * source.length + 16

end Grammar

/-- The two goals of a parse. -/
inductive Mode
  | module
  | classic
deriving DecidableEq, Repr

/-- Let the last token end behind the first one. -/
def passFirst : Parser σ Unit := fun s =>
  .ok ⟨(), { s with lastIndex := s.cursor.index, lastLine := s.cursor.line }, s.since_self⟩

/-- Take the opening of a markup comment for operators. -/
def endSloppy : Parser σ Unit := fun s => .ok ⟨(), { s with sloppy := false }, s.since_self⟩

/-- Read the first token. It is read before the goal is known to the lexer, so that a markup comment
may start any script. -/
def start (mode : Mode) : Parser σ Unit := do
  let _ ← next
  passFirst
  if mode = .module then
    setContext fun c => { c with strict := true, isModule := true }
    endSloppy

/-- Read a whole script. -/
def program (mode : Mode) : Parser σ Unit := do
  start mode
  let nest := Grammar.read (Grammar.depth σ)
  Grammar.directives nest
  let _ ← manyUntil isAtEnd (nest .item)

/-- Read an expression and nothing else. -/
def soleExpression : Parser σ Unit := do
  start .classic
  let nest := Grammar.read (Grammar.depth σ)
  let _ ← Grammar.expression nest
  unless ← isAtEnd do unexpected (← peek)

/-- The fragments of a script. -/
def parse (mode : Mode) (source : Source) : Except Halt (List Fragment) := do
  let behind ← program mode (.initial source)
  return behind.state.found.fragments

end SmartQuotes.Script
