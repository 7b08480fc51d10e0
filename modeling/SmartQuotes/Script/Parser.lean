import SmartQuotes.Script.Form
import SmartQuotes.Script.State

/-!
# Parsers

A parser yields something and the state behind it, or refuses the script. Fragments are recorded as the
nodes that hold them are completed.
-/

namespace SmartQuotes.Script

/-- A parser of a script. -/
def Parser (σ : Source) (α : Type) : Type := (s : State σ) → Except Halt (Step s α)

namespace Parser

variable {σ : Source}

/-- Yield something without reading. -/
def value {α : Type} (a : α) : Parser σ α := fun s => .ok ⟨a, s, s.since_self⟩

/-- Go on with what a parser yields. -/
def andThen {α β : Type} (p : Parser σ α) (f : α → Parser σ β) : Parser σ β := fun s =>
  match p s with
  | .error e => .error e
  | .ok ⟨a, t, ht⟩ =>
    match f a t with
    | .error e => .error e
    | .ok ⟨b, u, hu⟩ => .ok ⟨b, u, Nat.le_trans ht hu⟩

instance : Monad (Parser σ) where
  pure := value
  bind := andThen

/-- The state at this place. -/
def state : Parser σ (State σ) := fun s => .ok ⟨s, s, s.since_self⟩

/-! ## Refusing -/

/-- End the parse. -/
def halt {α : Type} (h : Halt) : Parser σ α := fun _ => .error h

/-- Refuse the script at the end of the last token. -/
def fail {α : Type} (cause : Cause) : Parser σ α := fun s =>
  .error (.refused ⟨s.lastIndex, s.lastLine, cause⟩)

/-- Refuse the script at the end of the last token, with the line on which the next one ends. -/
def failAhead {α : Type} (cause : Cause) : Parser σ α := fun s =>
  .error (.refused ⟨s.lastIndex, s.cursor.line, cause⟩)

/-- Refuse the script at a token. -/
def refuse {α : Type} (t : Token) (cause : Cause) : Parser σ α :=
  halt (.refused ⟨t.start, t.line, cause⟩)

/-- Why a token cannot stand where it does. -/
def causeOf (strict : Bool) (t : Token) : Cause :=
  match t.kind with
  | .endOfInput => .unexpectedEnd
  | .identifier => .unexpectedIdentifier
  | .numeric => .unexpectedNumber
  | .string => .unexpectedString
  | .template => .unexpectedQuasi t.value
  | .keyword =>
    if Token.isFutureReserved t.value then .unexpectedReserved
    else if strict && Token.isStrictReserved t.value then .strictReserved
    else .unexpectedToken t.value
  | _ => .unexpectedToken t.value

/-- Refuse the script at a token that cannot stand there. -/
def unexpected {α : Type} (t : Token) : Parser σ α := do
  refuse t (causeOf (← state).context.strict t)

/-! ## Tokens -/

/-- The next token. -/
def peek : Parser σ Token := return (← state).lookahead

/-- The offset at which the next token starts. -/
def here : Parser σ Nat := return (← state).mark.index

/-- Whether a line ends between the last token and the next one. -/
def newline : Parser σ Bool := return (← state).newline

/-- Read the next token. -/
def next : Parser σ Token := fun s =>
  match hgap : s.cursor.skipGap s.sloppy with
  | .error e => .error (.refused e)
  | .ok mark =>
    match hlex : lex s.braces mark with
    | .error e => .error (.refused e)
    | .ok _ =>
      .ok ⟨s.lookahead, s.advance (s.follows_gap hgap) (lexes_lex hlex),
        Nat.le_trans s.lookahead_le_cursor (s.cursor_le_advance _ _)⟩

/-- The token read ahead is yielded, and nothing is read ahead then that starts in front of the
place up to which had been read. -/
theorem next_spec {s : State σ} {x : Step s Token} (h : next s = .ok x) :
    x.value = s.lookahead ∧ s.cursor.index ≤ x.state.lookahead.start := by
  unfold next at h
  split at h
  · cases h
  · next mark hgap =>
    split at h
    · cases h
    · next l hlex =>
      cases h
      exact ⟨rfl, s.cursor_le_advance (s.follows_gap hgap) (lexes_lex hlex)⟩

/-- The token behind the next one, which stays unread. -/
def peekSecond : Parser σ Token := fun s =>
  match s.cursor.skipGap s.sloppy with
  | .error e => .error (.refused e)
  | .ok cursor =>
    match lex s.braces cursor with
    | .error e => .error (.refused e)
    | .ok second => .ok ⟨second.token, { s with braces := second.braces }, s.since_self⟩

/-- Whether the given punctuator is next. -/
def isAt (s : String) : Parser σ Bool := return (← peek).isPunctuator s

/-- Whether the given keyword is next. -/
def isAtKeyword (s : String) : Parser σ Bool := return (← peek).isKeyword s

/-- Whether the given contextual keyword is next. -/
def isAtContextual (s : String) : Parser σ Bool := return (← peek).isContextual s

def isAtEnd : Parser σ Bool := return (← peek).kind == .endOfInput

/-- Read the given punctuator. -/
def expect (s : String) : Parser σ Unit := do
  let t ← next
  unless t.isPunctuator s do unexpected t

/-- Read the given keyword. -/
def expectKeyword (s : String) : Parser σ Unit := do
  let t ← next
  unless t.isKeyword s do unexpected t

/-- Read the given punctuator if it is next. -/
def accept (s : String) : Parser σ Bool := do
  if ← isAt s then
    let _ ← next
    return true
  else return false

/-- Read the given keyword if it is next. -/
def acceptKeyword (s : String) : Parser σ Bool := do
  if ← isAtKeyword s then
    let _ ← next
    return true
  else return false

/-- Read the given contextual keyword if it is next. -/
def acceptContextual (s : String) : Parser σ Bool := do
  if ← isAtContextual s then
    let _ ← next
    return true
  else return false

/-- Let the last token end where the next one starts. -/
def endHere : Parser σ Unit := fun s =>
  .ok ⟨(), { s with lastIndex := s.mark.index, lastLine := s.mark.line }, s.since_self⟩

/-- Read the end of a statement: a semicolon, or else a place where one may be left out. -/
def semicolon : Parser σ Unit := do
  unless ← accept ";" do
    unless ← newline do
      let t ← peek
      unless t.kind == .endOfInput || t.isPunctuator "\x7d" do unexpected t
      endHere

/-! ## Context -/

def context : Parser σ Context := return (← state).context

def setContext (f : Context → Context) : Parser σ Unit := fun s =>
  .ok ⟨(), { s with context := f s.context }, s.since_self⟩

/-- Say that the expression just read is neither a target of assignments nor a pattern. -/
def noTarget : Parser σ Unit :=
  setContext fun c => { c with assignable := false, bindable := false }

/-- Read an expression that stands for itself: an initial value that only a pattern could hold is
refused, and what is known of the enclosing expression is kept. -/
def isolate {α : Type} (p : Parser σ α) : Parser σ α := do
  let before ← context
  setContext fun c => { c with assignable := true, bindable := true, initializer := none }
  let a ← p
  if let some t := (← context).initializer then unexpected t
  setContext fun c => { c with
    assignable := before.assignable
    bindable := before.bindable
    initializer := before.initializer }
  return a

/-- Read a part of an expression that may turn out to be a pattern. -/
def inherit {α : Type} (p : Parser σ α) : Parser σ α := do
  let before ← context
  setContext fun c => { c with assignable := true, bindable := true, initializer := none }
  let a ← p
  setContext fun c => { c with
    assignable := c.assignable && before.assignable
    bindable := c.bindable && before.bindable
    initializer := before.initializer <|> c.initializer }
  return a

/-! ## Loops -/

/-- Repeat a step until it has a result, at most `fuel` times. -/
def iterateFrom {α β : Type} (step : α → Parser σ (α ⊕ β)) : Nat → α → Parser σ β
  | 0, _ => fail .unexpectedEnd
  | fuel + 1, a => do
    match ← step a with
    | .inl a => iterateFrom step fuel a
    | .inr b => return b

/-- Each step of a repetition reads at least one character. -/
def maxSteps (σ : Source) : Nat := σ.length + 2

/-- Repeat a step until it has a result. -/
def iterate {α β : Type} (a : α) (step : α → Parser σ (α ⊕ β)) : Parser σ β :=
  iterateFrom step (maxSteps σ) a

/-- Read items until the test holds. -/
def manyUntil {α : Type} (test : Parser σ Bool) (item : Parser σ α) : Parser σ (List α) :=
  iterate [] fun read => do
    if ← test then return .inr read.reverse
    else return .inl ((← item) :: read)

/-! ## Recording -/

/-- Record the fragment from `start` up to the end of the last token. -/
def record (kind : Kind) (hkind : kind.IsPlain) (start : Nat) : Parser σ Unit := fun s =>
  .ok ⟨(), { s with found := s.found.insert (s.part kind start) (s.holds_part hkind start) },
    s.since_self⟩

/-- Record a template literal that has been read up to its end. -/
def recordTemplate (r : TemplateRun σ) : Parser σ Unit := fun s =>
  .ok ⟨(), { s with found := s.found.insert r.fragment r.holds_fragment }, s.since_self⟩

/-- Read the next token as a literal; strings are recorded. -/
def literal : Parser σ Token := do
  let start ← here
  let t ← next
  if t.kind == .string then record .literal Kind.isPlain_literal start
  return t

/-! ## Kinds of lookahead -/

/-- Whether an asynchronous function is next. -/
def isAtAsyncFunction : Parser σ Bool := do
  if ← isAtContextual "async" then
    let line := (← state).cursor.line
    let second ← peekSecond
    return line == second.line && second.isKeyword "function"
  else return false

/-- Whether an import that looks like a call is next. -/
def isAtImportCall : Parser σ Bool := do
  if ← isAtKeyword "import" then return (← peekSecond).isPunctuator "("
  else return false

/-- Whether the next token, a `let`, starts a declaration. -/
def isAtDeclaration : Parser σ Bool := do
  let second ← peekSecond
  return second.kind == .identifier || second.isPunctuator "[" || second.isPunctuator "\x7b" ||
    second.isKeyword "let" || second.isKeyword "yield"

/-- Read a word of any kind. -/
def identifierName : Parser σ Token := do
  let t ← next
  unless t.isName do unexpected t
  return t

/-- Read a name to bind. `declaration` is the keyword of the declaration, if there is one. -/
def bindingName (declaration : Option String) : Parser σ Token := do
  let t ← next
  let c ← context
  if t.isKeyword "yield" then
    if c.strict then refuse t .strictReserved
    else unless c.allowsYield do unexpected t
  else if t.kind != .identifier then
    if c.strict && t.kind == .keyword && Token.isStrictReserved t.value then
      refuse t .strictReserved
    else if c.strict || t.value != "let" || declaration != some "var" then unexpected t
  else if (c.isModule || c.awaits) && t.value == "await" then unexpected t
  return t

end Parser

/-! ## Productions that nest -/

/-- The productions that may contain one another without end. -/
inductive Goal
  | assignment
  | unary
  | power
  | callee
  | call
  | pattern (declaration : Option String)
  | statement
  | item
  | element

/-- How a production reads those inside it. -/
abbrev Nest (σ : Source) := Goal → Parser σ Form

end SmartQuotes.Script
