import SmartQuotes.Script.Parser

/-!
# Binding patterns and parameters

Patterns bind names in declarations, parameter lists and catch clauses. Parameters are checked for
names that strict code refuses; whether the code is strict may be known only after the body, so what
was found is kept until then.
-/

namespace SmartQuotes.Script.Grammar

open SmartQuotes.Script.Parser

variable {σ : Source}

/-! ## Keys of properties -/

/-- The key of a property, as far as it can be one of the names with a meaning. -/
inductive Key
  | name (s : String)
  | text (s : String)
  | other

namespace Key

/-- Whether the key is the given name, written as a word or as a string. -/
def is (k : Key) (s : String) : Bool :=
  match k with
  | name t => t == s
  | text t => t == s
  | other => false

end Key

/-- Read the key of a property, which may be computed. -/
def propertyKey (nest : Nest σ) : Parser σ Key := do
  let t ← peek
  match t.kind with
  | .string | .numeric =>
    let t ← literal
    if (← context).strict && t.octal then refuse t .strictOctal
    return if t.kind == .string then .text t.value else .other
  | .identifier | .boolean | .null | .keyword =>
    let _ ← next
    return .name t.value
  | _ =>
    let t ← next
    if t.isPunctuator "[" then
      let key ← isolate (nest .assignment)
      expect "]"
      return match key with
        | .identifier t => .name t.value
        | .literal (some s) => .text s
        | _ => .other
    else unexpected t

/-! ## Patterns -/

/-- Read a pattern with its initial value, if it has one. -/
def patternWithDefault (nest : Nest σ) (declaration : Option String) : Parser σ Form := do
  let target ← nest (.pattern declaration)
  if ← accept "=" then
    let before := (← context).allowsYield
    setContext fun c => { c with allowsYield := true }
    let value ← isolate (nest .assignment)
    setContext fun c => { c with allowsYield := before }
    return .initialized target value
  else return target

/-- Read a rest element behind which nothing is checked. -/
def bindingRest (nest : Nest σ) (declaration : Option String) : Parser σ Form := do
  expect "..."
  return .spread (← nest (.pattern declaration))

/-- Read the rest of the parameters. -/
def restParameter (nest : Nest σ) : Parser σ Form := do
  expect "..."
  let target ← nest (.pattern none)
  if ← isAt "=" then fail .restDefault
  unless ← isAt ")" do fail .restNotLast
  return .spread target

/-- Read the rest of the properties. -/
def restProperty (nest : Nest σ) : Parser σ Form := do
  expect "..."
  let target ← nest (.pattern none)
  if ← isAt "=" then fail .restDefault
  unless ← isAt "\x7d" do fail .misplaced
  return .spread target

/-- Read a property of an object pattern. -/
def propertyPattern (nest : Nest σ) (declaration : Option String) : Parser σ Form := do
  let t ← peek
  if t.kind == .identifier then
    let _ ← bindingName none
    if ← accept "=" then
      return .initialized (.identifier t) (← nest .assignment)
    else if ← accept ":" then patternWithDefault nest declaration
    else return .identifier t
  else
    let _ ← propertyKey nest
    expect ":"
    patternWithDefault nest declaration

/-- Read an array pattern. -/
def arrayPattern (nest : Nest σ) (declaration : Option String) : Parser σ Form := do
  expect "["
  let members ← iterate [] fun read => do
    if ← isAt "]" then return .inr read
    else if ← accept "," then return .inl read
    else if ← isAt "..." then return .inr ((← bindingRest nest declaration) :: read)
    else
      let member ← patternWithDefault nest declaration
      unless ← isAt "]" do expect ","
      return .inl (member :: read)
  expect "]"
  return .array members.reverse

/-- Read an object pattern. -/
def objectPattern (nest : Nest σ) (declaration : Option String) : Parser σ Form := do
  expect "\x7b"
  let values ← manyUntil (isAt "\x7d") do
    let value ← if ← isAt "..." then restProperty nest else propertyPattern nest declaration
    unless ← isAt "\x7d" do expect ","
    return value
  expect "\x7d"
  return .object values

/-- Read a pattern. -/
def pattern (nest : Nest σ) (declaration : Option String) : Parser σ Form := do
  if ← isAt "[" then arrayPattern nest declaration
  else if ← isAt "\x7b" then objectPattern nest declaration
  else
    let t ← peek
    if t.isKeyword "let" && (declaration == some "const" || declaration == some "let") then
      refuse t .letBinding
    return .identifier (← bindingName declaration)

/-! ## Parameters -/

/-- What has been found in a list of parameters: whether all are plain names, the names so far, and
the parameters that strict code refuses with the reason. A parameter without a token of its own is
refused at the end of the last token. -/
structure Parameters where
  simple : Bool := true
  members : List Form := []
  bound : List (List Nat) := []
  refused : Option (Option Token) := none
  restricted : Option (Option Token) := none
  cause : Option Cause := none

namespace Parameters

/-- Take note of a bound name. -/
def bind (strict : Bool) (p : Parameters) (place : Option Token) (t : Token) : Parameters :=
  let p' := { p with bound := t.points :: p.bound }
  if strict then
    let p' := if Token.isRestricted t.value then
        { p' with refused := some place, cause := some .strictParameterName } else p'
    if p.bound.contains t.points then
      { p' with refused := some place, cause := some .strictDuplicateParameter } else p'
  else if p.restricted.isSome then p'
  else if Token.isRestricted t.value then
    { p' with restricted := some place, cause := some .strictParameterName }
  else if Token.isStrictReserved t.value then
    { p' with restricted := some place, cause := some .strictReserved }
  else if p.bound.contains t.points then
    { p' with refused := some place, cause := some .strictDuplicateParameter }
  else p'

/-- Refuse a parameter. -/
def refuseAt {α : Type} (place : Option Token) (cause : Option Cause) : Parser σ α :=
  match place with
  | some t => match cause with
    | some cause => refuse t cause
    | none => unexpected t
  | none => fail (cause.getD .illegalCharacter)

/-- Refuse in strict code what was found among the parameters. -/
def check (p : Parameters) : Parser σ Unit := do
  if (← context).strict then
    if let some place := p.restricted then refuseAt place p.cause
    if let some place := p.refused then refuseAt place p.cause

end Parameters

/-- Read the parameters of a function in parentheses. `found` holds what is known of its name. -/
def parameters (nest : Nest σ) (found : Parameters) : Parser σ Parameters := do
  expect "("
  let p ← if ← isAt ")" then pure found else
    iterate found fun p => do
      if ← isAtEnd then return .inr p
      let form ← if ← isAt "..." then restParameter nest else patternWithDefault nest none
      let strict := (← context).strict
      let p := form.names.foldl (fun p t => p.bind strict (some t) t) p
      let p := { p with simple := p.simple && form.isIdentifier, members := p.members ++ [form] }
      if ← isAt ")" then return .inr p
      expect ","
      if ← isAt ")" then return .inr p
      return .inl p
  expect ")"
  return p

end SmartQuotes.Script.Grammar
