import SmartQuotes.Script.Grammar.Binding

/-!
# Functions, methods and classes
-/

namespace SmartQuotes.Script.Grammar

open SmartQuotes.Script.Parser

variable {σ : Source}

/-! ## Bodies -/

/-- Read the directives in front of a body. A directive for strict code takes effect at once, and
refuses legacy octal escapes in the directives before it. -/
def directives (nest : Nest σ) : Parser σ Unit :=
  iterate (none : Option Token) fun octal => do
    let t ← peek
    unless t.kind == .string do return .inr ()
    let form ← isolate (nest .assignment)
    let rest ← manyUntil (return !(← isAt ",")) do
      expect ","
      isolate (nest .assignment)
    let raw := σ.text.extract (t.start + 1) (t.stop - 1)
    semicolon
    unless form.isLiteral && rest.isEmpty && !raw.isEmpty do return .inr ()
    if raw == text "use strict" then
      setContext fun c => { c with strict := true }
      if let some first := octal then refuse first .strictOctal
      unless (← context).allowsDirective do refuse t .strictDirective
      return .inl octal
    else return .inl (octal <|> if t.octal then some t else none)

/-- Read the body of a function in braces. -/
def functionBody (nest : Nest σ) : Parser σ Unit := do
  expect "\x7b"
  directives nest
  let before ← context
  setContext fun c => { c with
    labels := []
    inLoop := false
    inSwitch := false
    inFunction := true }
  let _ ← manyUntil (return (← isAtEnd) || (← isAt "\x7d")) (nest .item)
  expect "\x7d"
  setContext fun c => { c with
    labels := before.labels
    inLoop := before.inLoop
    inSwitch := before.inSwitch
    inFunction := before.inFunction }

/-- Read a body behind parameters and refuse those that it turns out not to allow. -/
def checkedBody (body : Parser σ Unit) (p : Parameters) : Parser σ Unit := do
  let before ← context
  setContext fun c => { c with allowsDirective := p.simple }
  body
  p.check
  setContext fun c => { c with strict := before.strict, allowsDirective := before.allowsDirective }

/-- Read something in which `yield` and `await` have a meaning of their own. -/
def withOperators (yields awaits : Bool) (p : Parser σ Unit) : Parser σ Unit := do
  let before ← context
  setContext fun c => { c with allowsYield := yields, awaits := awaits }
  p
  setContext fun c => { c with allowsYield := before.allowsYield, awaits := before.awaits }

/-- What the name of a function adds to its parameters. -/
def checkFunctionName (t : Token) : Parser σ Parameters := do
  if (← context).strict then
    if Token.isRestricted t.value then refuse t .strictFunctionName
    return {}
  else if Token.isRestricted t.value then
    return { restricted := some (some t), cause := some .strictFunctionName }
  else if Token.isStrictReserved t.value then
    return { restricted := some (some t), cause := some .strictReserved }
  else return {}

/-- Read the words in front of the name of a function: whether it is asynchronous, and whether it is
a generator. -/
def functionHead : Parser σ (Bool × Bool) := do
  let isAsync ← acceptContextual "async"
  expectKeyword "function"
  let isGenerator ← if isAsync then pure false else accept "*"
  return (isAsync, isGenerator)

/-- Read a function declaration and say whether it is a generator. -/
def functionDeclaration (nest : Nest σ) (nameOptional : Bool) : Parser σ Bool := do
  let (isAsync, isGenerator) ← functionHead
  let found ← if nameOptional && (← isAt "(") then pure {} else do
    let t ← peek
    let _ ← bindingName none
    checkFunctionName t
  withOperators (!isGenerator) isAsync do
    checkedBody (functionBody nest) (← parameters nest found)
  return isGenerator

/-- Read a function expression. -/
def functionExpression (nest : Nest σ) : Parser σ Form := do
  let (isAsync, isGenerator) ← functionHead
  withOperators (!isGenerator) isAsync do
    let found ← if ← isAt "(" then pure {} else do
      let t ← peek
      let _ ← if !(← context).strict && !isGenerator && t.isKeyword "yield" then identifierName
        else bindingName none
      checkFunctionName t
    checkedBody (functionBody nest) (← parameters nest found)
  return .other

/-! ## Methods -/

/-- Read the body of a method behind its parameters. -/
def methodBody (nest : Nest σ) (p : Parameters) : Parser σ Unit := do
  noTarget
  checkedBody (isolate (functionBody nest)) p

/-- Read something for which `yield` is an operator or not. -/
def withYield (allowed : Bool) (p : Parser σ Unit) : Parser σ Unit := do
  let before := (← context).allowsYield
  setContext fun c => { c with allowsYield := allowed }
  p
  setContext fun c => { c with allowsYield := before }

/-- Read a method. -/
def method (nest : Nest σ) : Parser σ Unit :=
  withYield true do methodBody nest (← parameters nest {})

/-- Read an asynchronous method. -/
def asyncMethod (nest : Nest σ) : Parser σ Unit :=
  withOperators false true do methodBody nest (← parameters nest {})

/-- Read a method that is a generator. -/
def generatorMethod (nest : Nest σ) : Parser σ Unit :=
  withYield true do
    let p ← parameters nest {}
    setContext fun c => { c with allowsYield := false }
    methodBody nest p

/-- Read a getter behind its key. From here on `yield` is an operator in the enclosing code. -/
def getter (nest : Nest σ) : Parser σ Unit := do
  setContext fun c => { c with allowsYield := false }
  withYield true do
    let p ← parameters nest {}
    unless p.members.isEmpty do failAhead .getterArity
    methodBody nest p

/-- Read a setter behind its key. -/
def setter (nest : Nest σ) : Parser σ Unit :=
  withYield true do
    let p ← parameters nest {}
    match p.members with
    | [form] => if form.isSpread then failAhead .setterRest
    | _ => failAhead .setterArity
    methodBody nest p

/-! ## Classes -/

/-- What a member of a class is. -/
inductive Member
  | method
  | generator
  | accessor
deriving DecidableEq

/-- Read a member of a class. `hasConstructor` says whether its constructor has been read, and so
does the result. -/
def classMember (nest : Nest σ) (hasConstructor : Bool) : Parser σ Bool := do
  let first ← peek
  let mut token := first
  let mut key : Option Key := none
  let mut computed := false
  let mut isStatic := false
  let mut isAsync := false
  if !(← accept "*") then
    computed ← isAt "["
    let k ← propertyKey nest
    key := some k
    let named := match k with
      | .name s => s == "static"
      | _ => false
    let second ← peek
    if named && (second.startsKey || second.isPunctuator "*") then
      token := second
      isStatic := true
      computed := second.isPunctuator "["
      if !(← accept "*") then key := some (← propertyKey nest)
    if token.isContextual "async" && !(← newline) then
      let after ← peek
      unless [":", "(", "*"].contains after.value do
        isAsync := true
        token := after
        key := some (← propertyKey nest)
        if token.isContextual "constructor" then refuse token .constructorAsync
  let keyFollows := (← peek).startsKey
  let mut member : Option Member := none
  if token.isContextual "get" && keyFollows then
    computed ← isAt "["
    key := some (← propertyKey nest)
    getter nest
    member := some .accessor
  else if token.isContextual "set" && keyFollows then
    computed ← isAt "["
    key := some (← propertyKey nest)
    setter nest
    member := some .accessor
  else if token.isPunctuator "*" && keyFollows then
    computed ← isAt "["
    key := some (← propertyKey nest)
    generatorMethod nest
    member := some .generator
  if member.isNone && key.isSome && (← isAt "(") then
    if isAsync then asyncMethod nest else method nest
    member := some .method
  match member, key with
  | some found, some k =>
    if computed then return hasConstructor
    if isStatic then
      if k.is "prototype" then refuse token .staticPrototype
      return hasConstructor
    if k.is "constructor" then
      unless found == .method do refuse token .constructorAccessor
      if hasConstructor then refuse token .duplicateConstructor
      return true
    return hasConstructor
  | _, _ => unexpected (← peek)

/-- Read the members of a class in braces. -/
def classBody (nest : Nest σ) : Parser σ Unit := do
  expect "\x7b"
  iterate false fun hasConstructor => do
    if ← isAt "\x7d" then return .inr ()
    else if ← accept ";" then return .inl hasConstructor
    else return .inl (← classMember nest hasConstructor)
  expect "\x7d"

/-- Read a class, whose code is strict. `isNamed` says from the token behind the keyword whether a
name has to follow. -/
def classDefinition (nest : Nest σ) (isNamed : Token → Bool) : Parser σ Form := do
  let before := (← context).strict
  setContext fun c => { c with strict := true }
  expectKeyword "class"
  if isNamed (← peek) then
    let _ ← bindingName none
  if ← acceptKeyword "extends" then
    let _ ← isolate (nest .call)
  classBody nest
  setContext fun c => { c with strict := before }
  return .other

/-- Read a class declaration. -/
def classDeclaration (nest : Nest σ) (nameOptional : Bool) : Parser σ Form :=
  classDefinition nest fun t => !(nameOptional && t.kind != .identifier)

/-- Read a class expression. -/
def classExpression (nest : Nest σ) : Parser σ Form :=
  classDefinition nest fun t => t.kind == .identifier

end SmartQuotes.Script.Grammar
