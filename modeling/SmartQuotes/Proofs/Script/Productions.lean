import SmartQuotes.Proofs.Script.Tags

/-!
# Matching productions

The productions of the grammar match: each is put together from parsers that match, and a production
that starts with an operand cannot start at the closing parenthesis.
-/

set_option synthInstance.maxSize 4000

namespace SmartQuotes.Script.Grammar

open SmartQuotes.Script.Parser

variable {σ : Source}

variable {nest : Nest σ.wrapped} {nest' : Nest σ.padded} [MatchedNest nest nest']
  [BlockedNest nest]

/-! ## Patterns and parameters -/

instance : Matched (propertyKey nest) (propertyKey nest') := by
  unfold propertyKey
  refine matched_peek (fun t => ?_) fun t hkind hvalue => ?_
  · cases t.kind <;> dsimp only <;> infer_instance
  · rw [hkind]
    dsimp only
    infer_instance

instance : Blocked (propertyKey nest) := by
  unfold propertyKey
  refine .of_still inferInstance fun t => ?_
  cases t.kind <;> dsimp only <;> infer_instance

instance (declaration : Option String) :
    Matched (patternWithDefault nest declaration) (patternWithDefault nest' declaration) := by
  unfold patternWithDefault
  refine .bind inferInstance fun target => .bind inferInstance fun found => ?_
  split
  · exact matched_restoring (fun _ => inferInstance) fun _ => inferInstance
  · infer_instance

instance (declaration : Option String) :
    Matched (bindingRest nest declaration) (bindingRest nest' declaration) := by
  unfold bindingRest
  infer_instance

instance : MatchedInside (restParameter nest) (restParameter nest') := by
  unfold restParameter
  dsimp only
  infer_instance

instance : Matched (restProperty nest) (restProperty nest') := by
  unfold restProperty
  dsimp only
  infer_instance

instance (declaration : Option String) :
    Matched (propertyPattern nest declaration) (propertyPattern nest' declaration) := by
  unfold propertyPattern
  infer_instance

instance (declaration : Option String) :
    Matched (arrayPattern nest declaration) (arrayPattern nest' declaration) := by
  unfold arrayPattern
  dsimp only
  infer_instance

instance (declaration : Option String) :
    Matched (objectPattern nest declaration) (objectPattern nest' declaration) := by
  unfold objectPattern
  dsimp only
  infer_instance

instance (declaration : Option String) :
    Matched (pattern nest declaration) (pattern nest' declaration) := by
  unfold pattern
  infer_instance

instance (declaration : Option String) : Blocked (pattern nest declaration) := by
  have harray : Blocked (arrayPattern nest declaration) := by
    unfold arrayPattern
    infer_instance
  have hobject : Blocked (objectPattern nest declaration) := by
    unfold objectPattern
    infer_instance
  unfold pattern
  infer_instance

instance (found : Parameters) : Consumes (parameters nest found) := by
  unfold parameters
  infer_instance

instance {α : Type} (place : Option Token) (cause : Option Cause) :
    MatchedFreely (Parameters.refuseAt place cause : Parser σ.wrapped α)
      (Parameters.refuseAt place cause) := by
  unfold Parameters.refuseAt
  rcases place with _ | t
  · infer_instance
  · cases cause <;> infer_instance

instance (p : Parameters) : MatchedFreely (p.check : Parser σ.wrapped Unit) p.check := by
  unfold Parameters.check
  refine .bind inferInstance fun c => ?_
  cases p.restricted <;> cases p.refused <;> dsimp only <;> infer_instance

/-- Read parameters up to the closing parenthesis. -/
def parameterList {σ : Source} (nest : Nest σ) (found : Parameters) : Parser σ Parameters := do
  expect "("
  if ← isAt ")" then return found else
    iterate found fun p => do
      if ← isAtEnd then return .inr p
      let form ← if ← isAt "..." then restParameter nest else patternWithDefault nest none
      let strict := (← context).strict
      let p := form.names.foldl (fun p t => p.bind strict (some t) t) p
      let p := { p with simple := p.simple && form.isIdentifier, members := p.members ++ [form] }
      if ← isAt ")" then return .inr p
      expect ","
      if ← isAt ")" then return .inr p
      return .inl p

theorem parameters_eq {σ : Source} (nest : Nest σ) (found : Parameters) :
    parameters nest found = parameterList nest found >>= fun p => do
      expect ")"
      return p := by
  unfold parameters parameterList
  simp only [bind_assoc]
  refine bind_congr fun _ => bind_congr fun closes => ?_
  cases closes <;> rfl

instance (found : Parameters) :
    MatchedInside (parameterList nest found) (parameterList nest' found) := by
  unfold parameterList
  dsimp only
  infer_instance

instance (found : Parameters) : MatchedFreely (parameters nest found) (parameters nest' found) := by
  rw [parameters_eq, parameters_eq]
  infer_instance

/-! ## Functions -/

/-- Go on behind a token that may be a directive, with the text between its quotes. -/
def directive {σ : Source} (nest : Nest σ) (octal : Option Token) (t : Token) (raw : Text) :
    Parser σ (Option Token ⊕ Unit) := do
  unless t.kind == .string do return .inr ()
  let form ← isolate (nest .assignment)
  let rest ← manyUntil (return !(← isAt ",")) do
    expect ","
    isolate (nest .assignment)
  semicolon
  unless form.isLiteral && rest.isEmpty && !raw.isEmpty do return .inr ()
  if raw == text "use strict" then
    setContext fun c => { c with strict := true }
    if let some first := octal then refuse first .strictOctal
    unless (← context).allowsDirective do refuse t .strictDirective
    return .inl octal
  else return .inl (octal <|> if t.octal then some t else none)

theorem directives_eq {σ : Source} (nest : Nest σ) :
    directives nest = iterate none fun octal =>
      peek >>= fun t =>
        directive nest octal t (σ.text.extract (t.start + 1) (t.stop - 1)) := by
  rfl

instance (octal : Option Token) (t : Token) (raw : Text) :
    Matched (directive nest octal t raw) (directive nest' octal t raw) := by
  unfold directive
  cases octal <;> dsimp only <;> infer_instance

/-- Between the two ends that differ the parts of the texts are the same. -/
theorem extract_padded {start stop : Nat} (hstart : 0 < start) (hstop : stop ≤ σ.closing) :
    σ.padded.text.extract start stop = σ.wrapped.text.extract start stop := by
  obtain ⟨a, rfl⟩ : ∃ a, start = a + 1 := Nat.exists_eq_add_of_lt hstart |>.imp fun _ h => by omega
  have hcut (c d : Char) :
      Text.extract (c :: σ.text ++ [d]) (a + 1) stop = (σ.text.take (stop - 1)).drop a := by
    unfold Text.extract
    cases stop with
    | zero => rw [List.take_zero, List.drop_nil, Nat.zero_sub, List.take_zero, List.drop_nil]
    | succ b =>
      rw [List.cons_append, List.take_succ_cons, List.drop_succ_cons, Nat.add_sub_cancel,
        List.take_append_of_le_length (Nat.le_of_succ_le_succ hstop)]
  exact (hcut ' ' ' ').trans (hcut '(' ')').symm

theorem directive_of_ne {σ : Source} (nest : Nest σ) (octal : Option Token) {t : Token} (raw : Text)
    (h : t.kind ≠ .string) : directive nest octal t raw = pure (.inr ()) := by
  unfold directive
  rw [beq_eq_false_iff_ne.mpr h]
  rfl

instance : Matched (directives nest) (directives nest') := by
  have hstep (octal : Option Token) : Matched
      (peek >>= fun t =>
        directive nest octal t (σ.wrapped.text.extract (t.start + 1) (t.stop - 1)))
      (peek >>= fun t =>
        directive nest' octal t (σ.padded.text.extract (t.start + 1) (t.stop - 1))) := by
    have hboth (t : Token) (raw : Text) :
        Matched (directive nest octal t raw) (directive nest' octal t raw) := inferInstance
    refine matched_bind_of_look (fun _ => rfl) (fun _ => rfl) (hboth _ _).kept
      fun {s s' x} hs hx hend => ?_
    by_cases hkind : s.lookahead.kind = .string
    · rcases hs with h | h
      · rw [h.lookahead, extract_padded (Nat.succ_pos _)]
        · exact (hboth _ _).run (.inl h) hx hend
        · have hlength := Source.length_rest s.within
          have hpos := h.cursor.rest.length_pos
          rw [h.string hkind]
          omega
      · exact absurd (hkind.symm.trans h.closing.kind) nofun
    · have hkind' : s'.lookahead.kind ≠ .string := by
        rcases hs with h | h
        · rw [h.lookahead]
          exact hkind
        · rw [h.kind]
          nofun
      rw [directive_of_ne _ _ _ hkind] at hx
      rw [directive_of_ne _ _ _ hkind']
      exact (Matched.pure _).run hs hx hend
  rw [directives_eq, directives_eq]
  infer_instance

/-- Read a body up to the closing brace, and yield the context in front of its statements. -/
def bodyItems {σ : Source} (nest : Nest σ) : Parser σ Context := do
  expect "\x7b"
  directives nest
  let before ← context
  setContext fun c => { c with
    labels := []
    inLoop := false
    inSwitch := false
    inFunction := true }
  let _ ← manyUntil (return (← isAtEnd) || (← isAt "\x7d")) (nest .item)
  return before

/-- Read the closing brace of a body. -/
def bodyEnd {σ : Source} (before : Context) : Parser σ Unit := do
  expect "\x7d"
  setContext fun c => { c with
    labels := before.labels
    inLoop := before.inLoop
    inSwitch := before.inSwitch
    inFunction := before.inFunction }

theorem functionBody_eq {σ : Source} (nest : Nest σ) :
    functionBody nest = bodyItems nest >>= bodyEnd := by
  simp only [functionBody, bodyItems, bodyEnd, bind_assoc, pure_bind]

instance : MatchedInside (bodyItems nest) (bodyItems nest') := by
  unfold bodyItems
  infer_instance

instance (before : Context) :
    MatchedFreely (bodyEnd before : Parser σ.wrapped Unit) (bodyEnd before) := by
  unfold bodyEnd
  infer_instance

instance (before : Context) : Consumes (bodyEnd before : Parser σ.wrapped Unit) := by
  unfold bodyEnd
  infer_instance

/-- No `yield` stands behind the brace that closes a body. -/
instance : MatchedFreely (functionBody nest) (functionBody nest') := by
  rw [functionBody_eq, functionBody_eq]
  infer_instance

section Bodies

variable {p : Parser σ.wrapped Unit} {q : Parser σ.padded Unit}

instance (found : Parameters) [MatchedFreely p q] :
    MatchedFreely (checkedBody p found) (checkedBody q found) := by
  unfold checkedBody
  infer_instance

instance (yields awaits : Bool) [MatchedFreely p q] :
    Matched (withOperators yields awaits p) (withOperators yields awaits q) :=
  matched_restoring (fun _ => inferInstance) fun _ => inferInstance

instance (allowed : Bool) [MatchedFreely p q] :
    MatchedFreely (withYield allowed p) (withYield allowed q) := by
  unfold withYield
  dsimp only
  infer_instance

instance (allowed : Bool) [MatchedFreely p q] :
    Matched (withYield allowed p) (withYield allowed q) := by
  unfold withYield
  dsimp only
  exact matched_restoring (fun _ => inferInstance) fun _ => inferInstance

instance (yields awaits : Bool) [Blocked p] : Blocked (withOperators yields awaits p) := by
  unfold withOperators
  infer_instance

instance (allowed : Bool) [Blocked p] : Blocked (withYield allowed p) := by
  unfold withYield
  infer_instance

end Bodies

instance (t : Token) : Matched (checkFunctionName t : Parser σ.wrapped Parameters)
    (checkFunctionName t) := by
  unfold checkFunctionName
  dsimp only
  infer_instance

instance : Matched (functionHead : Parser σ.wrapped (Bool × Bool)) functionHead := by
  unfold functionHead
  infer_instance

instance (nameOptional : Bool) :
    Matched (functionDeclaration nest nameOptional) (functionDeclaration nest' nameOptional) := by
  unfold functionDeclaration
  refine .bind inferInstance fun ⟨isAsync, isGenerator⟩ => ?_
  dsimp only
  infer_instance

/-- Read the name of a function expression, if it has one. -/
def expressionName {σ : Source} (isGenerator : Bool) : Parser σ Parameters := do
  if ← isAt "(" then return {}
  else
    let t ← peek
    let _ ← if !(← context).strict && !isGenerator && t.isKeyword "yield" then identifierName
      else bindingName none
    checkFunctionName t

theorem functionExpression_eq {σ : Source} (nest : Nest σ) : functionExpression nest = (do
    let (isAsync, isGenerator) ← functionHead
    withOperators (!isGenerator) isAsync do
      checkedBody (functionBody nest) (← parameters nest (← expressionName isGenerator))
    return .other) := by
  unfold functionExpression expressionName
  refine bind_congr fun ⟨isAsync, isGenerator⟩ => ?_
  simp only [bind_assoc]
  congr 2
  refine bind_congr fun unnamed => ?_
  cases unnamed with
  | true => rfl
  | false =>
    simp only [Bool.false_eq_true, if_false, bind_assoc]
    refine bind_congr fun t => bind_congr fun c => ?_
    split <;> rw [bind_assoc]

instance (isGenerator : Bool) :
    Matched (expressionName isGenerator : Parser σ.wrapped Parameters)
      (expressionName isGenerator) := by
  unfold expressionName
  dsimp only
  infer_instance

instance : Matched (functionExpression nest) (functionExpression nest') := by
  rw [functionExpression_eq, functionExpression_eq]
  refine .bind inferInstance fun ⟨isAsync, isGenerator⟩ => ?_
  dsimp only
  infer_instance

instance (found : Parameters) :
    MatchedFreely (methodBody nest found) (methodBody nest' found) := by
  unfold methodBody
  infer_instance

instance : Matched (method nest) (method nest') := by
  unfold method
  infer_instance

instance : Blocked (method nest) := by
  unfold method
  infer_instance

instance : Matched (asyncMethod nest) (asyncMethod nest') := by
  unfold asyncMethod
  infer_instance

instance : Blocked (asyncMethod nest) := by
  unfold asyncMethod
  infer_instance

instance : Matched (generatorMethod nest) (generatorMethod nest') := by
  unfold generatorMethod
  infer_instance

/-- A text that has a getter does not end in a `yield`. -/
class EndsPlainly (σ : Source) : Prop where
  plain : HasWord σ.text "get" → ¬ EndsInYield σ.text

omit [BlockedNest nest] in
/-- Behind a getter `yield` is an operator. -/
theorem matched_getter [EndsPlainly σ] (h : HasWord σ.text "get") :
    Matched (getter nest) (getter nest') := by
  have hfree : MatchedFreely (getter nest) (getter nest') := by
    unfold getter
    dsimp only
    infer_instance
  exact hfree.matched_of_plain (EndsPlainly.plain h)

instance : Matched (setter nest) (setter nest') := by
  unfold setter withYield
  dsimp only
  refine matched_restoring (fun c => .bind inferInstance fun _ =>
    .bind (.bind inferInstance fun p => ?_) fun _ => inferInstance) fun c => inferInstance
  rcases p.members with _ | ⟨form, _ | _⟩ <;> dsimp only <;> infer_instance

/-! ## Classes -/

section Members

variable {σ : Source} (nest : Nest σ) (hasConstructor : Bool) (token : Token)

/-- The end of a member: whether it is the constructor. -/
def memberEnd (key : Option Key) (computed isStatic : Bool) (member : Option Member) :
    Parser σ Bool := do
  match member, key with
  | some found, some k =>
    if computed then return hasConstructor
    if isStatic then
      if k.is "prototype" then refuse token .staticPrototype
      return hasConstructor
    if k.is "constructor" then
      unless found == .method do refuse token .constructorAccessor
      if hasConstructor then refuse token .duplicateConstructor
      return true
    return hasConstructor
  | _, _ => unexpected (← peek)

/-- The parameters and the body of a plain method, if one follows. -/
def memberMethod (key : Option Key) (computed isStatic isAsync : Bool) (member : Option Member) :
    Parser σ Bool := do
  if member.isNone && key.isSome && (← isAt "(") then
    if isAsync then asyncMethod nest else method nest
    memberEnd hasConstructor token key computed isStatic (some .method)
  else memberEnd hasConstructor token key computed isStatic member

/-- What stands behind the words and the first key of a member. -/
def memberRest (key : Option Key) (computed isStatic isAsync : Bool) (keyFollows : Bool) :
    Parser σ Bool := do
  if token.isContextual "get" && keyFollows then
    let computed ← isAt "["
    let key ← propertyKey nest
    getter nest
    memberMethod nest hasConstructor token (some key) computed isStatic isAsync (some .accessor)
  else if token.isContextual "set" && keyFollows then
    let computed ← isAt "["
    let key ← propertyKey nest
    setter nest
    memberMethod nest hasConstructor token (some key) computed isStatic isAsync (some .accessor)
  else if token.isPunctuator "*" && keyFollows then
    let computed ← isAt "["
    let key ← propertyKey nest
    generatorMethod nest
    memberMethod nest hasConstructor token (some key) computed isStatic isAsync (some .generator)
  else memberMethod nest hasConstructor token key computed isStatic isAsync none

/-- The name of an asynchronous method behind the word for it. -/
def memberWord (key : Option Key) (computed isStatic : Bool) : Parser σ Bool := do
  if token.isContextual "async" && !(← newline) then
    let after ← peek
    if [":", "(", "*"].contains after.value then
      memberRest nest hasConstructor token key computed isStatic false (← peek).startsKey
    else
      let key ← propertyKey nest
      if after.isContextual "constructor" then refuse after .constructorAsync
      memberRest nest hasConstructor after (some key) computed isStatic true (← peek).startsKey
  else memberRest nest hasConstructor token key computed isStatic false (← peek).startsKey

theorem classMember_eq : classMember nest hasConstructor = (do
    let first ← peek
    if !(← accept "*") then
      let computed ← isAt "["
      let k ← propertyKey nest
      let named := match k with
        | .name s => s == "static"
        | _ => false
      let second ← peek
      if named && (second.startsKey || second.isPunctuator "*") then
        if !(← accept "*") then
          let key ← propertyKey nest
          memberWord nest hasConstructor second (some key) (second.isPunctuator "[") true
        else memberWord nest hasConstructor second (some k) (second.isPunctuator "[") true
      else memberWord nest hasConstructor first (some k) computed false
    else memberRest nest hasConstructor first none false false false (← peek).startsKey) :=
  rfl

end Members

section Members

variable (hasConstructor : Bool) (token : Token) (key : Option Key) (computed isStatic isAsync : Bool)
  (member : Option Member)

instance :
    Matched (memberEnd hasConstructor token key computed isStatic member : Parser σ.wrapped Bool)
      (memberEnd hasConstructor token key computed isStatic member) := by
  unfold memberEnd
  cases member <;> cases key <;> dsimp only <;> infer_instance

instance : Matched (memberMethod nest hasConstructor token key computed isStatic isAsync member)
    (memberMethod nest' hasConstructor token key computed isStatic isAsync member) := by
  unfold memberMethod
  dsimp only
  infer_instance

instance [EndsPlainly σ] [htoken : Stands σ token] (keyFollows : Bool) :
    Matched (memberRest nest hasConstructor token key computed isStatic isAsync keyFollows)
      (memberRest nest' hasConstructor token key computed isStatic isAsync keyFollows) := by
  unfold memberRest
  split
  · next hget =>
    rw [Bool.and_eq_true] at hget
    have : Matched (getter nest) (getter nest') := matched_getter (htoken.getter hget.1)
    infer_instance
  · infer_instance

theorem startsKey_alike {t t' : Token} (h : AheadAlike t t') : t'.startsKey = t.startsKey := by
  rcases h with rfl | ⟨hkind, hvalue, hkind', -⟩
  · rfl
  · simp only [Token.startsKey, Token.isName, Token.isPunctuator, hkind, hvalue, hkind']
    rfl

instance [EndsPlainly σ] [Stands σ token] : Matched
    (do memberRest nest hasConstructor token key computed isStatic isAsync (← peek).startsKey)
    (do memberRest nest' hasConstructor token key computed isStatic isAsync (← peek).startsKey) :=
  matched_peek_test (f := memberRest nest hasConstructor token key computed isStatic isAsync)
    startsKey_alike fun _ => inferInstance

instance [EndsPlainly σ] [Stands σ token] :
    Matched (memberWord nest hasConstructor token key computed isStatic)
      (memberWord nest' hasConstructor token key computed isStatic) := by
  unfold memberWord
  refine .bind inferInstance fun ended => ?_
  split
  · refine matched_peek (fun after => inferInstance) fun after _ hvalue => ?_
    rw [hvalue, if_neg (by decide)]
    infer_instance
  · infer_instance

instance :
    Blocked (memberEnd hasConstructor token key computed isStatic none : Parser σ.wrapped Bool) := by
  unfold memberEnd
  dsimp only
  infer_instance

instance : Blocked (memberMethod nest hasConstructor token key computed isStatic isAsync none) := by
  unfold memberMethod
  infer_instance

instance (keyFollows : Bool) :
    Blocked (memberRest nest hasConstructor token key computed isStatic isAsync keyFollows) := by
  unfold memberRest
  infer_instance

instance [EndsPlainly σ] :
    Matched (classMember nest hasConstructor) (classMember nest' hasConstructor) := by
  rw [classMember_eq, classMember_eq]
  refine matched_peek (fun first => ?_) fun first _ _ => ?_
  · refine .bind inferInstance fun star => ?_
    split
    · refine .bind inferInstance fun computed => .bind inferInstance fun k =>
        matched_peek_if (fun {t t'} h => ?_) (fun second => ?_) inferInstance
      · rcases h with rfl | ⟨hkind, hvalue, hkind', -⟩
        · exact .inl rfl
        · refine .inr ⟨?_, ?_⟩
          · simp [Token.startsKey, Token.isName, Token.isPunctuator, hkind, hvalue]
          · simp [Token.startsKey, Token.isName, Token.isPunctuator, hkind']
      · infer_instance
    · infer_instance
  · infer_instance

end Members

instance [EndsPlainly σ] : Matched (classBody nest) (classBody nest') := by
  unfold classBody
  infer_instance

instance : Blocked (classBody nest) := by
  unfold classBody
  infer_instance

instance [EndsPlainly σ] (isNamed : Token → Bool) :
    Matched (classDefinition nest isNamed) (classDefinition nest' isNamed) := by
  unfold classDefinition
  refine .bind inferInstance fun before => .bind inferInstance fun _ => .bind inferInstance fun _ =>
    matched_peek (fun t => ?_) fun t _ _ => ?_
  · dsimp only
    infer_instance
  · dsimp only
    infer_instance

instance (isNamed : Token → Bool) : Blocked (classDefinition nest isNamed) := by
  unfold classDefinition
  infer_instance

instance [EndsPlainly σ] (nameOptional : Bool) :
    Matched (classDeclaration nest nameOptional) (classDeclaration nest' nameOptional) := by
  unfold classDeclaration
  infer_instance

instance (nameOptional : Bool) : Blocked (classDeclaration nest nameOptional) := by
  unfold classDeclaration
  infer_instance

instance [EndsPlainly σ] : Matched (classExpression nest) (classExpression nest') := by
  unfold classExpression
  infer_instance

end SmartQuotes.Script.Grammar
