import SmartQuotes.Proofs.Script.Expressions
import SmartQuotes.Script.Grammar

/-!
# Matching statements

The productions of statements, declarations and modules match, and so do all productions that nest, at
every depth.
-/

set_option synthInstance.maxSize 4000

namespace SmartQuotes.Script.Grammar

open SmartQuotes.Script.Parser

variable {σ : Source} {nest : Nest σ.wrapped} {nest' : Nest σ.padded} [MatchedNest nest nest']
  [BlockedNest nest]

/-! ## Declarations -/

instance (target : Form) : Matched (checkDeclared target : Parser σ.wrapped Unit)
    (checkDeclared target) := by
  unfold checkDeclared
  infer_instance

instance (inFor : Bool) : Matched (variable_ nest inFor) (variable_ nest' inFor) := by
  unfold variable_
  dsimp only
  infer_instance

instance (kind : String) (inFor : Bool) :
    Matched (lexicalBinding nest kind inFor) (lexicalBinding nest' kind inFor) := by
  unfold lexicalBinding
  dsimp only
  infer_instance

instance {one : Parser σ.wrapped Declared} {one' : Parser σ.padded Declared} [Matched one one'] :
    Matched (declarations one) (declarations one') := by
  unfold declarations
  infer_instance

instance : Matched (lexicalDeclaration nest) (lexicalDeclaration nest') := by
  unfold lexicalDeclaration
  dsimp only
  infer_instance

/-! ## Statements without parts -/

instance : Matched (expressionStatement nest) (expressionStatement nest') := by
  unfold expressionStatement
  infer_instance

instance : Blocked (expressionStatement nest) := by
  unfold expressionStatement
  infer_instance

/-- Read the label that a jump names; `named` says whether a name is next. -/
def labelAhead {σ : Source} (named : Bool) : Parser σ Bool := do
  if named && !(← newline) then
    let label ← bindingName none
    unless (← context).labels.contains label.points do fail (.labelUndefined label.value)
    return true
  else return false

instance (named : Bool) : Matched (labelAhead named : Parser σ.wrapped Bool) (labelAhead named) := by
  unfold labelAhead
  dsimp only
  infer_instance

instance : Matched (jumpLabel : Parser σ.wrapped Bool) jumpLabel := by
  refine matched_peek_test (φ := fun t => t.kind == .identifier) (f := labelAhead) (g := labelAhead)
    (fun {t t'} h => ?_) fun _ => inferInstance
  rcases h with rfl | ⟨hkind, -, hkind', -⟩
  · rfl
  · rw [hkind, hkind']
    rfl

instance : Matched (continueStatement : Parser σ.wrapped Unit) continueStatement := by
  unfold continueStatement
  infer_instance

instance : Matched (breakStatement : Parser σ.wrapped Unit) breakStatement := by
  unfold breakStatement
  infer_instance

/-- Read what a `return` yields, if it yields something; `ended` says whether its line has ended. -/
def returned {σ : Source} (nest : Nest σ) (t : Token) (ended : Bool) : Parser σ Unit := do
  let bare := t.isPunctuator ";" || t.isPunctuator "\x7d" || t.kind == .endOfInput || ended
  if !bare || t.kind == .string || t.kind == .template then
    let _ ← expression nest
  semicolon

theorem returned_eq {σ : Source} (nest : Nest σ) {t : Token}
    (h : t.kind = .punctuator ∨ t.kind = .endOfInput) : returned nest t true = semicolon := by
  unfold returned
  rcases h with h | h <;> simp [h]

instance (t : Token) (ended : Bool) :
    Matched (returned nest t ended) (returned nest' t ended) := by
  unfold returned
  dsimp only
  infer_instance

theorem blocked_returned {t : Token} (hkind : t.kind = .punctuator) (hvalue : t.value = ")") :
    Blocked (returned nest t false) := by
  have hbare : (t.isPunctuator ";" || t.isPunctuator "\x7d" || t.kind == .endOfInput || false) =
      false := by
    simp [Token.isPunctuator, hkind, hvalue]
  unfold returned
  simp only [hbare, Bool.not_false, Bool.true_or, if_true]
  infer_instance

/-- At the end of a line nothing has to follow, and elsewhere the closing parenthesis may not. -/
instance : Matched (do returned nest (← peek) (← newline)) (do returned nest' (← peek) (← newline)) := by
  have hboth (t : Token) :
      Matched (newline >>= returned nest t) (newline >>= returned nest' t) := inferInstance
  refine matched_bind_of_look (fun _ => rfl) (fun _ => rfl) (hboth _).kept ?_
  rintro s s' x (hs | hs) hx hend
  · rw [hs.lookahead]
    exact (hboth _).run (.inl hs) hx hend
  · obtain ⟨y, z, hy, hz, hvalue, hstate⟩ := exists_of_bind hx
    cases hy
    rw [hstate] at hend
    cases hline : s.newline with
    | false =>
      rw [hline] at hz
      have hlt := (blocked_returned hs.closing.kind hs.closing.value).closing_lt hs.closing hz
      exact absurd hlt (Nat.not_lt.mpr hend.start_le)
    | true =>
      rw [hline, returned_eq nest (.inl hs.closing.kind)] at hz
      rw [hvalue, hstate]
      refine exists_bind (q := newline) rfl ?_
      rw [hs.newline, hline, returned_eq nest' (.inr hs.kind)]
      exact Matched.run (q := semicolon) (.inr hs) hz hend

instance : Matched (returnStatement nest) (returnStatement nest') := by
  unfold returnStatement
  refine .bind inferInstance fun c => ?_
  split
  · exact .bind inferInstance fun _ => inferInstanceAs (Matched
      (do returned nest (← peek) (← newline)) (do returned nest' (← peek) (← newline)))
  · infer_instance

instance : Matched (throwStatement nest) (throwStatement nest') := by
  unfold throwStatement
  dsimp only
  infer_instance

/-! ## Statements with parts -/

instance : Matched (block nest) (block nest') := by
  unfold block
  infer_instance

instance : Matched (branch nest) (branch nest') := by
  unfold branch
  dsimp only
  infer_instance

instance : Matched (condition nest) (condition nest') := by
  unfold condition
  infer_instance

instance : Matched (ifStatement nest) (ifStatement nest') := by
  unfold ifStatement
  infer_instance

instance {body : Parser σ.wrapped Unit} {body' : Parser σ.padded Unit} [Matched body body'] :
    Matched (loopBody body) (loopBody body') := by
  unfold loopBody
  dsimp only
  infer_instance

instance : Matched (doStatement nest) (doStatement nest') := by
  unfold doStatement
  infer_instance

instance : Matched (whileStatement nest) (whileStatement nest') := by
  unfold whileStatement
  infer_instance

instance (isOf : Bool) : Matched (loopRange nest isOf) (loopRange nest' isOf) := by
  unfold loopRange
  infer_instance

instance {α : Type} {p : Parser σ.wrapped α} {q : Parser σ.padded α} [Matched p q] :
    Matched (withoutIn p) (withoutIn q) := by
  unfold withoutIn
  dsimp only
  infer_instance

instance : Matched (forVariables nest) (forVariables nest') := by
  unfold forVariables
  refine .bind inferInstance fun _ => .bind inferInstance fun declared => ?_
  rcases declared with _ | ⟨d, _ | _⟩ <;> dsimp only <;> infer_instance

instance (kind : String) (inFor : Bool) : Blocked (lexicalBinding nest kind inFor) := by
  unfold lexicalBinding
  infer_instance

instance {one : Parser σ.wrapped Declared} [Blocked one] : Blocked (declarations one) := by
  unfold declarations
  infer_instance

instance {α : Type} {p : Parser σ.wrapped α} [Blocked p] : Blocked (withoutIn p) := by
  unfold withoutIn
  infer_instance

instance : Matched (forLexical nest) (forLexical nest') := by
  unfold forLexical
  refine .bind inferInstance fun kind => .bind inferInstance fun c =>
    matched_peek (fun t => ?_) fun t _ hvalue => ?_
  · split
    · infer_instance
    refine .bind inferInstance fun declared => ?_
    rcases declared with _ | ⟨d, _ | _⟩ <;> dsimp only <;> infer_instance
  · rw [hvalue, if_neg (by simp)]
    infer_instance

instance : Matched (forExpression nest) (forExpression nest') := by
  unfold forExpression
  dsimp only
  infer_instance

/-- Read the rest of the head of a loop, and its body. -/
def forRest {σ : Source} (nest : Nest σ) (overRange : Bool) : Parser σ Unit := do
  unless overRange do
    unless ← isAt ";" do
      let _ ← expression nest
    expect ";"
    unless ← isAt ")" do
      let _ ← expression nest
  expect ")"
  loopBody do
    let _ ← isolate (nest .statement)

theorem forStatement_eq {σ : Source} (nest : Nest σ) : forStatement nest = (do
    expectKeyword "for"
    expect "("
    let isEmpty ← accept ";"
    let atVar ← isAtKeyword "var"
    let atConst ← isAtKeyword "const"
    let atLet ← isAtKeyword "let"
    if isEmpty then pure false >>= forRest nest
    else if atVar then forVariables nest >>= forRest nest
    else if atConst || atLet then forLexical nest >>= forRest nest
    else forExpression nest >>= forRest nest) :=
  rfl

instance (overRange : Bool) : Matched (forRest nest overRange) (forRest nest' overRange) := by
  have hclosing {f : Bool → Parser σ.wrapped Unit} {g : Bool → Parser σ.padded Unit}
      [∀ b, Matched (f b) (g b)] [hblocked : Blocked (f true)] :
      Matched (isAt ")" >>= f) (isAt ")" >>= g) :=
    matched_isAt_closing inferInstance hblocked
  unfold forRest
  dsimp only
  infer_instance

instance : Matched (forStatement nest) (forStatement nest') := by
  rw [forStatement_eq, forStatement_eq]
  infer_instance

instance : Matched (withStatement nest) (withStatement nest') := by
  unfold withStatement
  dsimp only
  infer_instance

instance : Matched (switchClause nest) (switchClause nest') := by
  unfold switchClause
  dsimp only
  infer_instance

instance : Matched (switchStatement nest) (switchStatement nest') := by
  unfold switchStatement
  dsimp only
  infer_instance

instance : Matched (catchClause nest) (catchClause nest') := by
  unfold catchClause
  dsimp only
  refine .bind inferInstance fun _ => matched_isAt_closing (fun b => ?_) ?_
  · infer_instance
  · rw [if_pos rfl]
    infer_instance

instance : Matched (tryStatement nest) (tryStatement nest') := by
  unfold tryStatement
  dsimp only
  infer_instance

instance : Blocked (functionHead : Parser σ.wrapped (Bool × Bool)) := by
  unfold functionHead
  infer_instance

instance (nameOptional : Bool) : Blocked (functionDeclaration nest nameOptional) := by
  unfold functionDeclaration
  infer_instance

instance (label : Token) : Matched (labelled nest label) (labelled nest' label) := by
  unfold labelled
  dsimp only
  infer_instance

instance : Matched (namedStatement nest) (namedStatement nest') := by
  unfold namedStatement
  refine .bind inferInstance fun form => ?_
  cases form.identifier? <;> dsimp only <;> infer_instance

instance : Blocked (statement nest) := by
  refine blocked_peek fun t hkind hvalue => ?_
  rw [hkind]
  dsimp only
  rw [hvalue, if_neg (by decide), if_neg (by decide)]
  infer_instance

instance : Matched (statement nest) (statement nest') := by
  refine Blocked.matched_peek (inferInstanceAs (Blocked (statement nest))) fun t => ?_
  cases t.kind <;> dsimp only
  case keyword => split <;> infer_instance
  all_goals infer_instance

/-! ## Modules -/

instance : Blocked (moduleName : Parser σ.wrapped Unit) := by
  refine blocked_peek fun t hkind _ => ?_
  rw [hkind, if_neg (by decide)]
  infer_instance

instance : Matched (moduleName : Parser σ.wrapped Unit) moduleName := by
  refine Blocked.matched_peek (inferInstanceAs (Blocked moduleName)) fun t => ?_
  dsimp only
  infer_instance

instance : Blocked (fromModule : Parser σ.wrapped Unit) := by
  unfold fromModule
  refine .of_still inferInstance fun found => ?_
  split
  · infer_instance
  · refine .of_still inferInstance fun t => ?_
    cases shownValue? t <;> dsimp only <;> infer_instance

instance : Matched (fromModule : Parser σ.wrapped Unit) fromModule := by
  unfold fromModule
  refine .bind inferInstance fun found => ?_
  split
  · infer_instance
  · refine matched_peek (fun t => ?_) fun t _ _ => ?_
    · cases shownValue? t <;> dsimp only <;> infer_instance
    · cases shownValue? t <;> dsimp only <;> infer_instance

instance : Matched (importName : Parser σ.wrapped Unit) importName := by
  unfold importName
  infer_instance

instance {one : Parser σ.wrapped Unit} {one' : Parser σ.padded Unit} [Matched one one'] :
    Matched (namesInBraces one) (namesInBraces one') := by
  unfold namesInBraces
  infer_instance

instance : Other "*" := ⟨by decide⟩

instance {one : Parser σ.wrapped Unit} : Consumes (namesInBraces one) := by
  unfold namesInBraces
  infer_instance

instance : Matched (importAll : Parser σ.wrapped Unit) importAll := by
  unfold importAll
  dsimp only
  infer_instance

instance : Consumes (importAll : Parser σ.wrapped Unit) := by
  unfold importAll
  infer_instance

instance : Matched (importDeclaration : Parser σ.wrapped Unit) importDeclaration := by
  unfold importDeclaration
  refine .bind inferInstance fun c => ?_
  split
  · infer_instance
  · dsimp only
    infer_instance

instance : Matched (exportName : Parser σ.wrapped Unit) exportName := by
  unfold exportName
  infer_instance

instance [EndsPlainly σ] : Matched (exportDefault nest) (exportDefault nest') := by
  unfold exportDefault
  dsimp only
  infer_instance

instance : Blocked (exportDefault nest) := by
  unfold exportDefault
  infer_instance

instance : Matched (exportsInBraces : Parser σ.wrapped Bool) exportsInBraces := by
  unfold exportsInBraces
  dsimp only
  infer_instance

instance : Consumes (exportsInBraces : Parser σ.wrapped Bool) := by
  unfold exportsInBraces
  infer_instance

instance : Matched (exportNames : Parser σ.wrapped Unit) exportNames := by
  unfold exportNames
  dsimp only
  infer_instance

instance : Blocked (exportNames : Parser σ.wrapped Unit) := by
  unfold exportNames
  infer_instance

instance [EndsPlainly σ] : Matched (exportDeclaration nest) (exportDeclaration nest') := by
  unfold exportDeclaration
  refine .bind inferInstance fun c => ?_
  split
  · infer_instance
  refine .bind inferInstance fun _ => matched_peek (fun t => ?_) fun t hkind _ => ?_
  · refine .bind inferInstance fun isDefault => ?_
    split
    · infer_instance
    refine .bind inferInstance fun isAll => ?_
    split
    · infer_instance
    split
    · split <;> infer_instance
    · infer_instance
  · have hword : (t.kind == .keyword) = false := by
      rw [hkind]
      rfl
    simp only [hword, Bool.false_eq_true, if_false]
    infer_instance

instance : Blocked (item nest) := by
  refine .of_still inferInstance fun _ => blocked_peek fun t hkind hvalue => ?_
  rw [hkind, if_pos (by decide)]
  infer_instance

instance [EndsPlainly σ] : Matched (item nest) (item nest') := by
  unfold item
  refine .bind inferInstance fun _ => matched_peek (fun t => ?_) fun t hkind _ => ?_
  · split
    · infer_instance
    · dsimp only
      split <;> infer_instance
  · rw [hkind, if_pos (by decide)]
    infer_instance

/-! ## All productions -/

instance (k : Nat) : BlockedNest (read k : Nest σ.wrapped) := by
  induction k with
  | zero => constructor <;> intros <;> exact blocked_of_error fun _ => rfl
  | succ k ih =>
    constructor
    · exact inferInstanceAs (Blocked (assignment (read k)))
    · exact inferInstanceAs (Blocked (unary (read k)))
    · exact inferInstanceAs (Blocked (power (read k)))
    · exact inferInstanceAs (Blocked (callee (read k)))
    · exact inferInstanceAs (Blocked (call (read k)))
    · exact fun declaration => inferInstanceAs (Blocked (pattern (read k) declaration))
    · exact inferInstanceAs (Blocked (statement (read k) >>= fun _ => pure Form.other))
    · exact inferInstanceAs (Blocked (item (read k) >>= fun _ => pure Form.other))

/-- The productions match at every depth, if the second run may go at least as deep. -/
theorem matchedNest_read [EndsPlainly σ] {k k' : Nat} (h : k ≤ k') :
    MatchedNest (read k : Nest σ.wrapped) (read k' : Nest σ.padded) := by
  induction k generalizing k' with
  | zero =>
    constructor
    case element => exact matchedFrom_of_error fun _ => rfl
    all_goals intros; exact matched_of_error fun _ => rfl
  | succ k ih =>
    obtain ⟨k', rfl⟩ : ∃ j, k' = j + 1 := ⟨k' - 1, by omega⟩
    have := ih (Nat.le_of_succ_le_succ h)
    constructor
    · exact inferInstanceAs (Matched (assignment (read k)) (assignment (read k')))
    · exact inferInstanceAs (Matched (unary (read k)) (unary (read k')))
    · exact inferInstanceAs (Matched (power (read k)) (power (read k')))
    · exact inferInstanceAs (Matched (callee (read k)) (callee (read k')))
    · exact inferInstanceAs (Matched (call (read k)) (call (read k')))
    · exact fun declaration =>
        inferInstanceAs (Matched (pattern (read k) declaration) (pattern (read k') declaration))
    · exact inferInstanceAs (Matched (statement (read k) >>= fun _ => pure Form.other)
        (statement (read k') >>= fun _ => pure Form.other))
    · exact inferInstanceAs (Matched (item (read k) >>= fun _ => pure Form.other)
        (item (read k') >>= fun _ => pure Form.other))
    · exact inferInstanceAs (MatchedTag (element (read k) >>= fun _ => pure Form.other)
        (element (read k') >>= fun _ => pure Form.other))

end SmartQuotes.Script.Grammar
