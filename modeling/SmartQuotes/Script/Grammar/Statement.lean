import SmartQuotes.Script.Grammar.Expression
import SmartQuotes.Script.Numeral

/-!
# Statements, declarations and modules
-/

namespace SmartQuotes.Script.Grammar

open SmartQuotes.Script.Parser

variable {σ : Source}

/-! ## Declarations -/

/-- A declared name or pattern, and whether it has an initial value. -/
structure Declared where
  target : Form
  initialized : Bool

/-- Refuse a declared name that strict code may not bind. -/
def checkDeclared (target : Form) : Parser σ Unit := do
  if (← context).strict && ((target.name?.map Token.isRestricted).getD false) then
    failAhead .strictVariableName

/-- Read a member of a `var` declaration. -/
def variable_ (nest : Nest σ) (inFor : Bool) : Parser σ Declared := do
  let target ← nest (.pattern (some "var"))
  checkDeclared target
  if ← accept "=" then
    let _ ← isolate (nest .assignment)
    return ⟨target, true⟩
  else
    if !target.isIdentifier && !inFor then expect "="
    return ⟨target, false⟩

/-- Read a member of a `let` or `const` declaration. -/
def lexicalBinding (nest : Nest σ) (kind : String) (inFor : Bool) : Parser σ Declared := do
  let target ← nest (.pattern (some kind))
  checkDeclared target
  if kind == "const" then
    if (← isAtKeyword "in") || (← isAtContextual "of") then return ⟨target, false⟩
    unless ← accept "=" do fail (.missingInitializer "const")
    let _ ← isolate (nest .assignment)
    return ⟨target, true⟩
  else if (!inFor && !target.isIdentifier) || (← isAt "=") then
    expect "="
    let _ ← isolate (nest .assignment)
    return ⟨target, true⟩
  else return ⟨target, false⟩

/-- Read members with commas between them. -/
def declarations (one : Parser σ Declared) : Parser σ (List Declared) := do
  let first ← one
  let rest ← manyUntil (return !(← isAt ",")) do
    expect ","
    one
  return first :: rest

/-- Read a `let` or `const` declaration. -/
def lexicalDeclaration (nest : Nest σ) : Parser σ Unit := do
  let kind := (← next).value
  let _ ← declarations (lexicalBinding nest kind false)
  semicolon

/-! ## Statements without parts -/

/-- Read an expression as a statement. -/
def expressionStatement (nest : Nest σ) : Parser σ Unit := do
  let _ ← expression nest
  semicolon

/-- Read the label that a jump names, if it names one on its line. -/
def jumpLabel : Parser σ Bool := do
  if (← peek).kind == .identifier && !(← newline) then
    let label ← bindingName none
    unless (← context).labels.contains label.points do fail (.labelUndefined label.value)
    return true
  else return false

def continueStatement : Parser σ Unit := do
  expectKeyword "continue"
  let labelled ← jumpLabel
  semicolon
  unless labelled || (← context).inLoop do fail .continueOutside

def breakStatement : Parser σ Unit := do
  expectKeyword "break"
  let labelled ← jumpLabel
  semicolon
  let c ← context
  unless labelled || c.inLoop || c.inSwitch do fail .breakOutside

def returnStatement (nest : Nest σ) : Parser σ Unit := do
  unless (← context).inFunction do failAhead .returnOutside
  expectKeyword "return"
  let t ← peek
  let bare := t.isPunctuator ";" || t.isPunctuator "\x7d" || t.kind == .endOfInput || (← newline)
  if !bare || t.kind == .string || t.kind == .template then
    let _ ← expression nest
  semicolon

def throwStatement (nest : Nest σ) : Parser σ Unit := do
  expectKeyword "throw"
  if ← newline then fail .throwNewline
  expressionStatement nest

/-! ## Statements with parts -/

/-- Read statements in braces. -/
def block (nest : Nest σ) : Parser σ Unit := do
  expect "\x7b"
  let _ ← manyUntil (isAt "\x7d") (nest .item)
  expect "\x7d"

/-- Read a branch of a condition. -/
def branch (nest : Nest σ) : Parser σ Unit := do
  if (← context).strict && (← isAtKeyword "function") then failAhead .strictFunction
  let _ ← nest .statement

/-- Read an expression in parentheses. -/
def condition (nest : Nest σ) : Parser σ Unit := do
  expect "("
  let _ ← expression nest
  expect ")"

def ifStatement (nest : Nest σ) : Parser σ Unit := do
  expectKeyword "if"
  condition nest
  branch nest
  if ← acceptKeyword "else" then branch nest

/-- Read the body of a loop. -/
def loopBody (body : Parser σ Unit) : Parser σ Unit := do
  let before := (← context).inLoop
  setContext fun c => { c with inLoop := true }
  body
  setContext fun c => { c with inLoop := before }

def doStatement (nest : Nest σ) : Parser σ Unit := do
  expectKeyword "do"
  loopBody do
    let _ ← nest .statement
  expectKeyword "while"
  condition nest
  let _ ← accept ";"

def whileStatement (nest : Nest σ) : Parser σ Unit := do
  expectKeyword "while"
  condition nest
  loopBody do
    let _ ← nest .statement

/-- Read the expression that a loop runs over, behind `in` or `of`. -/
def loopRange (nest : Nest σ) (isOf : Bool) : Parser σ Unit := do
  let _ ← next
  if isOf then
    let _ ← nest .assignment
  else
    let _ ← expression nest

/-- Read something in which `in` is no operator. -/
def withoutIn {α : Type} (p : Parser σ α) : Parser σ α := do
  let before := (← context).allowsIn
  setContext fun c => { c with allowsIn := false }
  let a ← p
  setContext fun c => { c with allowsIn := before }
  return a

/-- Read the head of a loop that starts with `var`, and say whether it runs over something. -/
def forVariables (nest : Nest σ) : Parser σ Bool := do
  let _ ← next
  let declared ← withoutIn (declarations (variable_ nest true))
  match declared with
  | [d] =>
    if ← isAtKeyword "in" then
      if d.initialized && (d.target.isDestructuring || (← context).strict) then
        failAhead (.loopInitializer "for-in")
      loopRange nest false
      return true
    if !d.initialized && (← isAtContextual "of") then
      loopRange nest true
      return true
  | _ => pure ()
  expect ";"
  return false

/-- Read the head of a loop that starts with `let` or `const`, and say whether it runs over
something. -/
def forLexical (nest : Nest σ) : Parser σ Bool := do
  let kind := (← next).value
  if !(← context).strict && (← peek).value == "in" then
    loopRange nest false
    return true
  let declared ← withoutIn (declarations (lexicalBinding nest kind true))
  match declared with
  | [d] =>
    if !d.initialized && (← isAtKeyword "in") then
      loopRange nest false
      return true
    if !d.initialized && (← isAtContextual "of") then
      loopRange nest true
      return true
  | _ => pure ()
  semicolon
  return false

/-- Read the head of a loop that starts with an expression, and say whether it runs over
something. -/
def forExpression (nest : Nest σ) : Parser σ Bool := do
  let form ← withoutIn (inherit (nest .assignment))
  if ← isAtKeyword "in" then
    if !(← context).assignable || form.isAssignment then failAhead .forInTarget
    loopRange nest false
    return true
  if ← isAtContextual "of" then
    if !(← context).assignable || form.isAssignment then failAhead .forOfTarget
    loopRange nest true
    return true
  let _ ← manyUntil (return !(← isAt ",")) do
    expect ","
    isolate (nest .assignment)
  expect ";"
  return false

def forStatement (nest : Nest σ) : Parser σ Unit := do
  expectKeyword "for"
  expect "("
  let overRange ← if ← accept ";" then pure false
    else if ← isAtKeyword "var" then forVariables nest
    else if (← isAtKeyword "const") || (← isAtKeyword "let") then forLexical nest
    else forExpression nest
  unless overRange do
    unless ← isAt ";" do
      let _ ← expression nest
    expect ";"
    unless ← isAt ")" do
      let _ ← expression nest
  expect ")"
  loopBody do
    let _ ← isolate (nest .statement)

def withStatement (nest : Nest σ) : Parser σ Unit := do
  if (← context).strict then failAhead .strictWith
  expectKeyword "with"
  condition nest
  let _ ← nest .statement

/-- Read a clause of a switch and say whether it is the default. -/
def switchClause (nest : Nest σ) : Parser σ Bool := do
  let isDefault ← acceptKeyword "default"
  unless isDefault do
    expectKeyword "case"
    let _ ← expression nest
  expect ":"
  let _ ← manyUntil
    (return (← isAt "\x7d") || (← isAtKeyword "default") || (← isAtKeyword "case")) (nest .item)
  return isDefault

def switchStatement (nest : Nest σ) : Parser σ Unit := do
  expectKeyword "switch"
  condition nest
  let before := (← context).inSwitch
  setContext fun c => { c with inSwitch := true }
  expect "\x7b"
  iterate false fun hasDefault => do
    if ← isAt "\x7d" then return .inr ()
    let isDefault ← switchClause nest
    if isDefault && hasDefault then fail .secondDefault
    return .inl (hasDefault || isDefault)
  expect "\x7d"
  setContext fun c => { c with inSwitch := before }

/-- Read a catch clause behind its keyword. -/
def catchClause (nest : Nest σ) : Parser σ Unit := do
  expect "("
  if ← isAt ")" then unexpected (← peek)
  let target ← nest (.pattern none)
  let _ ← target.names.foldlM (fun (seen : List (List Nat)) t => do
    if seen.contains t.points then failAhead (.duplicateBinding t.value)
    return t.points :: seen) []
  if (← context).strict && ((target.name?.map Token.isRestricted).getD false) then
    failAhead .strictCatch
  expect ")"
  block nest

def tryStatement (nest : Nest σ) : Parser σ Unit := do
  expectKeyword "try"
  block nest
  let caught ← acceptKeyword "catch"
  if caught then catchClause nest
  let finished ← acceptKeyword "finally"
  if finished then block nest
  unless caught || finished do fail .noCatchOrFinally

/-- Read a labelled statement behind its label. -/
def labelled (nest : Nest σ) (label : Token) : Parser σ Unit := do
  if (← context).labels.contains label.points then fail (.labelRedeclared label.value)
  setContext fun c => { c with labels := label.points :: c.labels }
  let t ← peek
  if t.isKeyword "class" then unexpected t
  else if t.isKeyword "function" then
    let isGenerator ← functionDeclaration nest false
    if (← context).strict then refuse t .strictFunction
    if isGenerator then refuse t .generatorLabel
  else
    let _ ← nest .statement
  setContext fun c => { c with labels := c.labels.erase label.points }

/-- Read a statement that starts with a name. -/
def namedStatement (nest : Nest σ) : Parser σ Unit := do
  let form ← expression nest
  match form.identifier? with
  | some name => if ← accept ":" then labelled nest name else semicolon
  | none => semicolon

/-- Read a statement. -/
def statement (nest : Nest σ) : Parser σ Unit := do
  let t ← peek
  match t.kind with
  | .endOfInput => unexpected t
  | .elementName => unexpected t
  | .punctuator =>
    if t.value == "\x7b" then block nest
    else if t.value == ";" then expect ";"
    else expressionStatement nest
  | .identifier =>
    if ← isAtAsyncFunction then
      let _ ← functionDeclaration nest false
    else namedStatement nest
  | .keyword =>
    match t.value with
    | "break" => breakStatement
    | "continue" => continueStatement
    | "debugger" =>
      let _ ← next
      semicolon
    | "do" => doStatement nest
    | "for" => forStatement nest
    | "function" =>
      let _ ← functionDeclaration nest false
    | "if" => ifStatement nest
    | "return" => returnStatement nest
    | "switch" => switchStatement nest
    | "throw" => throwStatement nest
    | "try" => tryStatement nest
    | "var" =>
      let _ ← next
      let _ ← declarations (variable_ nest false)
      semicolon
    | "while" => whileStatement nest
    | "with" => withStatement nest
    | _ => expressionStatement nest
  | _ => expressionStatement nest

/-! ## Modules -/

/-- Read the name of the module that is imported from. -/
def moduleName : Parser σ Unit := do
  unless (← peek).kind == .string do fail .misplaced
  let _ ← literal

/-- The form in messages of the value of a token, unless it is empty or zero. -/
def shownValue? (t : Token) : Option String :=
  if t.kind == .numeric then Numeral.shown? t
  else if t.value.isEmpty then none
  else some t.value

/-- Read the name of the module behind `from`. -/
def fromModule : Parser σ Unit := do
  unless ← acceptContextual "from" do
    match shownValue? (← peek) with
    | some value => fail (.unexpectedToken value)
    | none => fail .misplaced
  moduleName

/-- Read an imported name. -/
def importName : Parser σ Unit := do
  if (← peek).kind == .identifier then
    let _ ← bindingName none
    if ← acceptContextual "as" then
      let _ ← bindingName none
  else
    let _ ← identifierName
    if ← acceptContextual "as" then
      let _ ← bindingName none
    else unexpected (← next)

/-- Read names in braces with commas between them. -/
def namesInBraces (one : Parser σ Unit) : Parser σ Unit := do
  expect "\x7b"
  let _ ← manyUntil (isAt "\x7d") do
    one
    unless ← isAt "\x7d" do expect ","
  expect "\x7d"

/-- Read the name for all that a module exports. -/
def importAll : Parser σ Unit := do
  expect "*"
  unless ← acceptContextual "as" do fail .misplaced
  let _ ← identifierName

def importDeclaration : Parser σ Unit := do
  if (← context).inFunction then fail .misplaced
  expectKeyword "import"
  let t ← peek
  if t.kind == .string then moduleName
  else
    if t.isPunctuator "\x7b" then namesInBraces importName
    else if t.isPunctuator "*" then importAll
    else if t.isName && !t.isKeyword "default" then
      let _ ← identifierName
      if ← accept "," then
        if ← isAt "*" then importAll
        else if ← isAt "\x7b" then namesInBraces importName
        else unexpected (← peek)
    else unexpected (← next)
    fromModule
  semicolon

/-- Read an exported name. -/
def exportName : Parser σ Unit := do
  let _ ← identifierName
  if ← acceptContextual "as" then
    let _ ← identifierName

/-- Read what is exported as the default. -/
def exportDefault (nest : Nest σ) : Parser σ Unit := do
  if ← isAtKeyword "function" then
    let _ ← functionDeclaration nest true
  else if ← isAtKeyword "class" then
    let _ ← classDeclaration nest true
  else if ← isAtContextual "async" then
    if ← isAtAsyncFunction then
      let _ ← functionDeclaration nest true
    else
      let _ ← nest .assignment
  else
    if ← isAtContextual "from" then fail (.unexpectedToken "from")
    if ← isAt "\x7b" then
      let _ ← objectLiteral nest
    else if ← isAt "[" then
      let _ ← arrayLiteral nest
    else
      let _ ← nest .assignment
    semicolon

/-- Read exported names in braces and tell whether `default` is among them: it may stand there only
for a name of another module. -/
def exportsInBraces : Parser σ Bool := do
  expect "\x7b"
  let needsModule ← iterate false fun needsModule => do
    if ← isAt "\x7d" then return .inr needsModule
    let needsModule := needsModule || (← isAtKeyword "default")
    exportName
    unless ← isAt "\x7d" do expect ","
    return .inl needsModule
  expect "\x7d"
  return needsModule

/-- Read exported names: a default one in front, names in braces, or both. -/
def exportNames : Parser σ Unit := do
  let needsModule ← do
    if (← peek).kind == .identifier then
      let _ ← identifierName
      if ← accept "," then exportsInBraces else pure false
    else exportsInBraces
  if needsModule || (← isAtContextual "from") then fromModule
  semicolon

def exportDeclaration (nest : Nest σ) : Parser σ Unit := do
  if (← context).inFunction then fail .misplaced
  expectKeyword "export"
  let t ← peek
  if ← acceptKeyword "default" then exportDefault nest
  else if ← accept "*" then
    fromModule
    semicolon
  else if t.kind == .keyword then
    match t.value with
    | "let" | "const" => lexicalDeclaration nest
    | "var" | "class" | "function" =>
      let _ ← nest .item
    | _ => unexpected t
  else if ← isAtAsyncFunction then
    let _ ← functionDeclaration nest false
  else exportNames

/-- Read a statement or a declaration. -/
def item (nest : Nest σ) : Parser σ Unit := do
  setContext fun c => { c with assignable := true, bindable := true }
  let t ← peek
  if t.kind != .keyword then statement nest
  else
    match t.value with
    | "export" =>
      unless (← context).isModule do refuse t .misplaced
      exportDeclaration nest
    | "import" =>
      if ← isAtImportCall then expressionStatement nest
      else
        unless (← context).isModule do refuse t .misplaced
        importDeclaration
    | "const" => lexicalDeclaration nest
    | "function" =>
      let _ ← functionDeclaration nest false
    | "class" =>
      let _ ← classDeclaration nest false
    | "let" => if ← isAtDeclaration then lexicalDeclaration nest else statement nest
    | _ => statement nest

end SmartQuotes.Script.Grammar
