import SmartQuotes.Script.Grammar.Element
import SmartQuotes.Script.Grammar.Function

/-!
# Expressions
-/

namespace SmartQuotes.Script.Grammar

open SmartQuotes.Script.Parser

variable {σ : Source}

/-- Read an expression with its commas. -/
def expression (nest : Nest σ) : Parser σ Form := do
  let first ← isolate (nest .assignment)
  if ← isAt "," then
    let rest ← manyUntil (return !(← isAt ",")) do
      expect ","
      isolate (nest .assignment)
    return .sequence (first :: rest)
  else return first

/-! ## Literals -/

/-- Read a part of a template. -/
def templatePart : Parser σ Token := fun s =>
  if s.lookahead.kind = .template then next s else fail .illegalCharacter s

/-- A part of a template that has been read stands in the script, in front of all that is read
ahead then. -/
theorem templatePart_spec {s : State σ} {x : Step s Token} (h : templatePart s = .ok x) :
    x.value.PartOf σ.text ∧ s.lookahead.start ≤ x.value.start ∧
      x.value.stop ≤ x.state.lookahead.start := by
  unfold templatePart at h
  split at h
  · next hkind =>
    obtain ⟨hvalue, hstart⟩ := next_spec h
    obtain ⟨hpart, hstop⟩ := s.partOf hkind
    rw [hvalue]
    exact ⟨hpart, Nat.le_refl _, Nat.le_trans hstop hstart⟩
  · cases h

/-- Read the rest of a template literal, at most `fuel` parts of it. -/
def templateRest (nest : Nest σ) (fuel : Nat) (r : TemplateRun σ) (s : State σ)
    (hs : r.part.stop ≤ s.lookahead.start) : Except Halt (Step s (TemplateRun σ)) :=
  match fuel with
  | 0 => fail .unexpectedEnd s
  | fuel + 1 =>
    match hpart : r.part.closes with
    | true => .ok ⟨r, s, s.since_self⟩
    | false =>
      match expression nest s with
      | .error e => .error e
      | .ok ⟨_, t, ht⟩ =>
        match hnext : templatePart t with
        | .error e => .error e
        | .ok x =>
          have h := templatePart_spec hnext
          have hstart := Nat.le_trans hs (Nat.le_trans ht h.2.1)
          match templateRest nest fuel (r.extend hpart x.value h.1 hstart) x.state h.2.2 with
          | .error e => .error e
          | .ok ⟨r, u, hu⟩ => .ok ⟨r, u, Nat.le_trans ht (Nat.le_trans x.since hu)⟩

/-- Read a template literal part by part. -/
def templateParts (nest : Nest σ) : Parser σ (TemplateRun σ) := fun s =>
  match hhead : templatePart s with
  | .error e => .error e
  | .ok x =>
    have h := templatePart_spec hhead
    match templateRest nest (maxSteps σ) (.ofHead x.value h.1) x.state h.2.2 with
    | .error e => .error e
    | .ok ⟨r, t, ht⟩ => .ok ⟨r, t, Nat.le_trans x.since ht⟩

/-- Read a template literal and record it with the spans of its expressions. -/
def templateLiteral (nest : Nest σ) : Parser σ Unit := do
  recordTemplate (← templateParts nest)

/-- Read a spread element. -/
def spreadElement (nest : Nest σ) : Parser σ Form := do
  expect "..."
  return .spread (← inherit (nest .assignment))

/-- Read an array. -/
def arrayLiteral (nest : Nest σ) : Parser σ Form := do
  expect "["
  let members ← manyUntil (isAt "]") do
    if ← accept "," then return (none : Option Form)
    else if ← isAt "..." then
      let member ← spreadElement nest
      unless ← isAt "]" do
        noTarget
        expect ","
      return some member
    else
      let member ← inherit (nest .assignment)
      unless ← isAt "]" do expect ","
      return some member
  expect "]"
  return .array (members.filterMap id)

/-- Read a property of an object: its value, and whether a key for the prototype has been read.
`hasProto` says whether one has been read before. -/
def objectProperty (nest : Nest σ) (hasProto : Bool) : Parser σ (Form × Bool) := do
  let t ← peek
  let mut key : Option Key := none
  let mut computed := false
  let mut isAsync := false
  if t.kind == .identifier then
    let _ ← next
    let after ← peek
    computed := after.isPunctuator "["
    isAsync := !(← newline) && t.value == "async" &&
      !([":", "(", "*", ","].any after.isPunctuator)
    if isAsync then key := some (← propertyKey nest) else key := some (.name t.value)
  else if !(← accept "*") then
    computed ← isAt "["
    key := some (← propertyKey nest)
  let keyFollows := (← peek).startsKey
  if t.isContextual "get" && !isAsync && keyFollows then
    let _ ← propertyKey nest
    getter nest
    return (.other, hasProto)
  if t.isContextual "set" && !isAsync && keyFollows then
    let _ ← propertyKey nest
    setter nest
    return (.other, hasProto)
  if t.isPunctuator "*" && keyFollows then
    let _ ← propertyKey nest
    generatorMethod nest
    return (.other, hasProto)
  match key with
  | none => unexpected (← peek)
  | some k =>
    if !isAsync && (← isAt ":") then
      let isProto := !computed && k.is "__proto__"
      if isProto && hasProto then failAhead .duplicateProto
      expect ":"
      return (← inherit (nest .assignment), hasProto || isProto)
    else if ← isAt "(" then
      if isAsync then asyncMethod nest else method nest
      return (.other, hasProto)
    else if t.kind == .identifier then
      let after ← peek
      if after.isPunctuator "=" then
        setContext fun c => { c with initializer := some after }
        let _ ← next
        let value ← isolate (nest .assignment)
        return (.initialized (.identifier t) value, hasProto)
      else return (.identifier t, hasProto)
    else unexpected (← next)

/-- Read an object. -/
def objectLiteral (nest : Nest σ) : Parser σ Form := do
  expect "\x7b"
  let values ← iterate (([] : List Form), false) fun (values, hasProto) => do
    if ← isAt "\x7d" then return .inr values.reverse
    let (value, hasProto) ← if ← isAt "..." then pure (← spreadElement nest, hasProto)
      else objectProperty nest hasProto
    unless ← isAt "\x7d" do expect ","
    return .inl (value :: values, hasProto)
  expect "\x7d"
  return .object values

/-- Read the token ahead once more, as a regular expression. -/
def reread : Parser σ Unit := fun s =>
  match hread : lexRegularExpression s.mark with
  | .error e => .error (.refused e)
  | .ok (_, _) =>
    have h := reads_lexRegularExpression hread
    .ok ⟨(), s.reread h, Nat.le_trans s.lookahead_le (Nat.le_of_eq h.start_eq.symm)⟩

/-- Read a regular expression whose slash has been read ahead. -/
def regularExpression : Parser σ Form := do
  noTarget
  reread
  let _ ← next
  return .literal none

/-! ## Groups -/

/-- Read the arrow that has to follow, and leave it unread. -/
def expectArrow : Parser σ Unit := do
  unless ← isAt "=>" do expect "=>"

/-- Read the rest of a group behind a comma: a sequence, or the parameters of an arrow function
together with the closing parenthesis. -/
def groupRest (nest : Nest σ) (first : Form) : Parser σ (Form × Bool) :=
  iterate [first] fun read => do
    if !(← isAt ",") then return .inr (.sequence read.reverse, false)
    expect ","
    if ← accept ")" then return .inr (.parameters read.reverse false, true)
    else if ← isAt "..." then
      unless (← context).bindable do unexpected (← peek)
      let rest ← restParameter nest
      expect ")"
      expectArrow
      setContext fun c => { c with bindable := false }
      return .inr (.parameters (rest :: read).reverse false, true)
    else return .inl ((← inherit (nest .assignment)) :: read)

/-- Read what stands in parentheses: an expression, or the parameters of an arrow function. -/
def group (nest : Nest σ) : Parser σ Form := do
  expect "("
  if ← accept ")" then
    expectArrow
    return .parameters [] false
  if ← isAt "..." then
    let rest ← restParameter nest
    expect ")"
    expectArrow
    return .parameters [rest] false
  setContext fun c => { c with bindable := true }
  let first ← inherit (nest .assignment)
  let (form, isArrow) ← if ← isAt "," then do
      setContext fun c => { c with assignable := false }
      groupRest nest first
    else pure (first, false)
  if isArrow then return form
  expect ")"
  let mut result := form
  if ← isAt "=>" then
    if form.name? == some "yield" then result := .parameters [form] false
    else
      unless (← context).bindable do unexpected (← peek)
      result := .parameters (match form with
        | .sequence forms => forms
        | form => [form]) false
  setContext fun c => { c with bindable := false }
  return result

/-! ## Primary expressions -/

/-- Read a primary expression. -/
def primary (nest : Nest σ) : Parser σ Form := do
  let t ← peek
  let c ← context
  match t.kind with
  | .identifier =>
    if (c.isModule || c.awaits) && t.value == "await" then unexpected t
    if ← isAtAsyncFunction then functionExpression nest
    else return .identifier (← next)
  | .numeric | .string =>
    if c.strict && t.octal then refuse t .strictOctal
    noTarget
    let _ ← literal
    return .literal (if t.kind == .string then some t.value else none)
  | .boolean | .null =>
    noTarget
    let _ ← next
    return .literal none
  | .template =>
    unless t.opens do halt (.broken .partWithoutHead)
    templateLiteral nest
    return .other
  | .punctuator =>
    if t.value == "(" then
      setContext fun c => { c with bindable := false }
      inherit (group nest)
    else if t.value == "[" then inherit (arrayLiteral nest)
    else if t.value == "\x7b" then inherit (objectLiteral nest)
    else if t.value == "/" || t.value == "/=" then regularExpression
    else if t.value == "<" then elementExpression nest
    else unexpected (← next)
  | .keyword =>
    if !c.strict && c.allowsYield && t.value == "yield" then return .identifier (← next)
    else if !c.strict && t.value == "let" then return .identifier (← next)
    else
      noTarget
      if t.value == "function" then functionExpression nest
      else if t.value == "this" then
        let _ ← next
        return .other
      else if t.value == "class" then classExpression nest
      else if ← isAtImportCall then
        let _ ← next
        return .importCall
      else unexpected (← next)
  | _ => unexpected (← next)

/-! ## Calls and members -/

/-- Read the arguments of a call. -/
def arguments (nest : Nest σ) (argument : Parser σ Form) : Parser σ (List Form) := do
  expect "("
  let read ← if ← isAt ")" then pure [] else
    iterate [] fun read => do
      let form ← if ← isAt "..." then spreadElement nest else isolate argument
      if ← isAt ")" then return .inr (form :: read).reverse
      expect ","
      if ← isAt ")" then return .inr (form :: read).reverse
      return .inl (form :: read)
  expect ")"
  return read

/-- Read an argument that may turn out to be a parameter of an asynchronous arrow function. -/
def asyncArgument (nest : Nest σ) : Parser σ Form := do
  let form ← nest .assignment
  setContext fun c => { c with initializer := none }
  return form

/-- Read a member in brackets or behind a dot. -/
def member (nest : Nest σ) : Parser σ Unit := do
  setContext fun c => { c with bindable := false, assignable := true }
  if ← accept "[" then
    let _ ← isolate (expression nest)
    expect "]"
  else
    expect "."
    let _ ← identifierName

/-- Whether a template starts, which is then an argument of what stands before it. -/
def isAtTemplate : Parser σ Bool := do
  let t ← peek
  return t.kind == .template && t.opens

/-- Read an object creation, or the target of one. -/
def creation (nest : Nest σ) : Parser σ Form := do
  let _ ← identifierName
  if ← accept "." then
    let t ← peek
    if t.isContextual "target" && (← context).inFunction then
      let _ ← next
      return .other
    else unexpected t
  else if ← isAtKeyword "import" then unexpected (← peek)
  else
    let _ ← isolate (nest .callee)
    if ← isAt "(" then
      let _ ← arguments nest (nest .assignment)
    noTarget
    return .other

/-- Read what members and calls are taken of. -/
def head (nest : Nest σ) (isCall : Bool) : Parser σ Form := do
  if (← isAtKeyword "super") && (← context).inFunction then
    let _ ← next
    unless (isCall && (← isAt "(")) || (← isAt ".") || (← isAt "[") do unexpected (← peek)
    return .other
  else if ← isAtKeyword "new" then inherit (creation nest)
  else inherit (primary nest)

/-- Read an expression with its members, without calls. -/
def callee (nest : Nest σ) : Parser σ Form := do
  let first ← head nest false
  iterate first fun form => do
    if (← isAt "[") || (← isAt ".") then
      member nest
      return .inl .other
    else if ← isAtTemplate then
      templateLiteral nest
      return .inl .other
    else return .inr form

/-- Read an expression with its members and calls. A call of `async` may turn out to be the
parameters of an arrow function. -/
def call (nest : Nest σ) : Parser σ Form := do
  let start ← peek
  let maybeAsync := start.isContextual "async"
  let before := (← context).allowsIn
  setContext fun c => { c with allowsIn := true }
  let first ← head nest true
  let form ← iterate first fun form => do
    if (← isAt ".") || (← isAt "[") then
      member nest
      return .inl .other
    else if ← isAt "(" then
      let isAsync := maybeAsync && start.line == (← peek).line
      noTarget
      let read ← arguments nest (if isAsync then asyncArgument nest else nest .assignment)
      if (form matches .importCall) && read.length != 1 then failAhead .misplaced
      if isAsync && (← isAt "=>") then return .inl (.parameters read true)
      else return .inl .other
    else if ← isAtTemplate then
      templateLiteral nest
      return .inl .other
    else return .inr form
  setContext fun c => { c with allowsIn := before }
  return form

/-! ## Operators -/

/-- Refuse a name that strict code may not change. -/
def checkChanged (form : Form) (cause : Cause) : Parser σ Unit := do
  let c ← context
  if c.strict && ((form.name?.map Token.isRestricted).getD false) then failAhead cause
  unless c.assignable do failAhead .assignmentTarget

/-- Read an expression with an increment or decrement in front or behind. -/
def update (nest : Nest σ) : Parser σ Form := do
  if (← isAt "++") || (← isAt "--") then
    let _ ← next
    let form ← inherit (nest .unary)
    checkChanged form .strictPrefix
    noTarget
    return .other
  else
    let form ← inherit (call nest)
    if !(← newline) && ((← isAt "++") || (← isAt "--")) then
      checkChanged form .strictPostfix
      noTarget
      let _ ← next
      return .other
    else return form

/-- Read an expression with the operators in front of it. -/
def unary (nest : Nest σ) : Parser σ Form := do
  let t ← peek
  if ["+", "-", "~", "!"].any t.isPunctuator || ["delete", "void", "typeof"].any t.isKeyword then
    let _ ← next
    let form ← inherit (nest .unary)
    if (← context).strict && t.value == "delete" && form.isIdentifier then failAhead .strictDelete
    noTarget
    return .unary
  else if (← context).awaits && t.isContextual "await" then
    let _ ← next
    let _ ← nest .unary
    return .other
  else update nest

/-- Read a power. -/
def power (nest : Nest σ) : Parser σ Form := do
  let form ← inherit (unary nest)
  if !form.isUnary && (← isAt "**") then
    let _ ← next
    noTarget
    let _ ← isolate (nest .power)
    return .other
  else return form

/-- The operators between two operands, powers aside. -/
def isBinary (allowsIn : Bool) (t : Token) : Bool :=
  match t.kind with
  | .punctuator =>
    ["||", "&&", "|", "^", "&", "==", "!=", "===", "!==", "<", ">", "<=", ">=", "<<", ">>", ">>>",
     "+", "-", "*", "/", "%"].contains t.value
  | .keyword => t.value == "instanceof" || (allowsIn && t.value == "in")
  | _ => false

/-- Whether an operator between two operands is next. -/
def isAtBinary : Parser σ Bool := return isBinary (← context).allowsIn (← peek)

/-- Read operands with the operators between them. -/
def binary (nest : Nest σ) : Parser σ Form := do
  let form ← inherit (power nest)
  if ← isAtBinary then
    let _ ← manyUntil (return !(← isAtBinary)) do
      let _ ← next
      noTarget
      isolate (power nest)
    return .other
  else return form

/-- Read a choice between two expressions. -/
def conditional (nest : Nest σ) : Parser σ Form := do
  let form ← inherit (binary nest)
  if ← accept "?" then
    let before := (← context).allowsIn
    setContext fun c => { c with allowsIn := true }
    let _ ← isolate (nest .assignment)
    setContext fun c => { c with allowsIn := before }
    expect ":"
    let _ ← isolate (nest .assignment)
    noTarget
    return .other
  else return form

/-! ## Assignments and arrow functions -/

/-- Whether an operand may start with the token. -/
def startsOperand (t : Token) : Bool :=
  match t.kind with
  | .punctuator =>
    ["[", "(", "\x7b", "+", "-", "!", "~", "++", "--", "/", "/=", "<"].contains t.value
  | .keyword =>
    ["class", "delete", "function", "let", "new", "super", "this", "typeof", "void",
     "yield"].contains t.value
  | _ => true

/-- Read a `yield` with its operand. -/
def yielding (nest : Nest σ) : Parser σ Form := do
  expectKeyword "yield"
  if ← newline then return .yielding false
  let before := (← context).allowsYield
  setContext fun c => { c with allowsYield := false }
  let hasArgument ← if ← accept "*" then do
      let _ ← nest .assignment
      pure true
    else if startsOperand (← peek) then do
      let _ ← nest .assignment
      pure true
    else pure false
  setContext fun c => { c with allowsYield := before }
  return .yielding hasArgument

/-- Whether a parameter has a `yield` with an operand as its initial value. -/
def yieldsDefault : Form → Bool
  | .initialized _ (.yielding true) => true
  | .assignment _ (.yielding true) => true
  | _ => false

/-- Whether a parameter is itself a `yield`. -/
def isYielding : Form → Bool
  | .yielding _ => true
  | _ => false

/-- The parameters of an arrow function from the forms in front of its arrow. -/
def arrowParameters (members : List Form) (isAsync : Bool) : Parser σ Parameters := do
  let strict := (← context).strict
  let p ← members.foldlM (fun (p : Parameters) form => do
    if yieldsDefault form then unexpected (← peek)
    if isAsync && form.name? == some "await" then unexpected (← peek)
    let p := form.names.foldl (fun p t => p.bind strict none t) p
    return { p with simple := p.simple && form.isIdentifier }) {}
  if strict || !(← context).allowsYield then
    if members.any isYielding then unexpected (← peek)
  if p.cause == some .strictDuplicateParameter then fail .strictDuplicateParameter
  return p

/-- Read an arrow function from its arrow on. -/
def arrowFunction (nest : Nest σ) (members : List Form) (isAsync : Bool) : Parser σ Form := do
  let p ← arrowParameters members isAsync
  if ← newline then unexpected (← peek)
  setContext fun c => { c with initializer := none }
  let before ← context
  setContext fun c => { c with allowsDirective := p.simple, allowsYield := true, awaits := isAsync }
  expect "=>"
  if ← isAt "\x7b" then
    let allowsIn := (← context).allowsIn
    setContext fun c => { c with allowsIn := true }
    functionBody nest
    setContext fun c => { c with allowsIn := allowsIn }
  else
    let _ ← isolate (nest .assignment)
  p.check
  setContext fun c => { c with
    strict := before.strict
    allowsDirective := before.allowsDirective
    allowsYield := before.allowsYield
    awaits := before.awaits }
  return .other

/-- The operators of assignments. -/
def isAssignmentOperator (t : Token) : Bool :=
  t.kind == .punctuator &&
    ["=", "*=", "**=", "/=", "%=", "+=", "-=", "<<=", ">>=", ">>>=", "&=", "^=",
     "|="].contains t.value

/-- Read an assignment whose target has been read from the token `start` on. -/
def assignmentRest (nest : Nest σ) (start : Token) (target : Form) : Parser σ Form := do
  let c ← context
  unless c.assignable do failAhead .assignmentTarget
  if c.strict then
    if let some name := target.name? then
      if Token.isRestricted name then refuse start .strictAssignment
      if Token.isStrictReserved name then refuse start .strictReserved
  let operator ← next
  unless operator.value == "=" do noTarget
  let value ← isolate (nest .assignment)
  setContext fun c => { c with initializer := none }
  return .assignment target value

/-- Read an expression without commas. -/
def assignment (nest : Nest σ) : Parser σ Form := do
  if !(← context).allowsYield && (← isAtKeyword "yield") then yielding nest
  else
    let start ← peek
    let first ← conditional nest
    let after ← peek
    let isAsync := start.isContextual "async" && start.line == after.line &&
      (after.kind == .identifier || after.isKeyword "yield")
    let form ← if isAsync then do
        let parameter ← primary nest
        pure (.parameters [parameter] true)
      else pure first
    match form with
    | .parameters members isAsync =>
      noTarget
      arrowFunction nest members isAsync
    | form =>
      if ← isAt "=>" then
        noTarget
        if form.isIdentifier then arrowFunction nest [form] false else return form
      else if isAssignmentOperator (← peek) then assignmentRest nest start form
      else return form

end SmartQuotes.Script.Grammar
