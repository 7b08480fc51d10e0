import SmartQuotes.Proofs.Script.Statements

/-!
# What an expression starts with

A run through the productions of an expression starts with a run of the production inside, down to
the primary expression. If the script ends behind this one, it is all that the expression consists of.
-/

namespace SmartQuotes.Script

open SmartQuotes.Script.Parser

variable {σ : Source} {α β : Type}

namespace State

/-- The state in front of an expression that may turn out to be a pattern. -/
def opened (s : State σ) : State σ :=
  { s with context := { s.context with assignable := true, bindable := true, initializer := none } }

@[simp] theorem lookahead_opened (s : State σ) : s.opened.lookahead = s.lookahead := rfl

@[simp] theorem cursor_opened (s : State σ) : s.opened.cursor = s.cursor := rfl

/-- The state in front of the primary expression that an expression starts with. -/
def leading (s : State σ) : State σ :=
  { s.opened with context := { s.opened.context with allowsIn := true } }

end State

namespace Parser

/-! ## Parsers that look -/

theorem look_bind {s : State σ} {p : Parser σ α} {f : α → Parser σ β} {a : α}
    (h : p s = .ok ⟨a, s, s.since_self⟩) : (p >>= f) s = f a s := by
  simp only [bind, andThen, h]
  cases f a s with
  | error e => rfl
  | ok y => rfl

theorem isAt_eq (v : String) (s : State σ) :
    isAt v s = .ok ⟨s.lookahead.isPunctuator v, s, s.since_self⟩ := rfl

theorem isAtKeyword_eq (v : String) (s : State σ) :
    isAtKeyword v s = .ok ⟨s.lookahead.isKeyword v, s, s.since_self⟩ := rfl

theorem accept_end {s : State σ} (h : s.lookahead.kind = .endOfInput) (v : String) :
    accept v s = .ok ⟨false, s, s.since_self⟩ := by
  rw [accept, look_bind (isAt_eq v s), Token.isPunctuator, h]
  rfl

theorem isAt_end {s : State σ} (h : s.lookahead.kind = .endOfInput) (v : String) :
    isAt v s = .ok ⟨false, s, s.since_self⟩ := by
  rw [isAt_eq, Token.isPunctuator, h]
  rfl

theorem exists_of_expect {v : String} {s : State σ} {x : Step s Unit} (h : expect v s = .ok x) :
    s.lookahead.isPunctuator v = true ∧ ∃ y, next s = .ok y ∧ x.state = y.state := by
  obtain ⟨y, z, hy, hz, -, hstate⟩ := exists_of_bind h
  rw [(next_spec hy).1] at hz
  cases hat : s.lookahead.isPunctuator v with
  | true =>
    rw [hat] at hz
    cases hz
    exact ⟨rfl, y, hy, hstate⟩
  | false =>
    rw [hat] at hz
    cases hz

theorem exists_of_inherit {p : Parser σ α} {s : State σ} {x : Step s α} (h : inherit p s = .ok x) :
    ∃ y : Step s.opened α, p s.opened = .ok y ∧ x.value = y.value ∧
      x.state.opened = y.state.opened ∧
      x.state.context.initializer =
        (s.context.initializer <|> y.state.context.initializer) := by
  rw [inherit, look_bind (a := s.context) rfl] at h
  obtain ⟨a, b, ha, hb, hvalue, hstate⟩ := exists_of_bind h
  cases ha
  obtain ⟨y, z, hy, hz, hvalue', hstate'⟩ := exists_of_bind hb
  obtain ⟨w, u, hw, hu, hvalue'', hstate''⟩ := exists_of_bind hz
  cases hw
  cases hu
  refine ⟨y, hy, ?_, ?_, ?_⟩
  · rw [hvalue, hvalue', hvalue'']
  · rw [hstate, hstate', hstate'']
    rfl
  · rw [hstate, hstate', hstate'']

end Parser

/-! ## A decrement in front of a bracket -/

/-- A bracket starts a comparison or a shift. -/
theorem lex_greater {c : Cursor} {t : Text} (hc : c.rest = '>' :: t) (braces : List Bool) {l : Lexed}
    (h : lex braces c = .ok l) :
    l.token.kind = .punctuator ∧ l.token.value ∈ [">>>=", ">>>", ">>=", ">>", ">=", ">"] := by
  unfold lex at h
  simp only [hc] at h
  have hlex : lexPunctuator braces c = .ok l := h
  rw [lexPunctuator_cons braces hc (by decide) (by decide) nofun, if_neg (by decide)] at hlex
  split at hlex
  · next s hs =>
    cases hlex
    refine ⟨rfl, ?_⟩
    have hstarts := List.find?_some hs
    rw [hc] at hstarts
    have hhead : s.toList.head?.all (· = '>') := by
      revert hstarts
      cases s.toList with
      | nil => exact fun _ => rfl
      | cons a r => simp +contextual
    exact (by decide : ∀ s ∈ operators, s.toList.head?.all (· = '>') →
      s ∈ [">>>=", ">>>", ">>=", ">>", ">=", ">"]) s (List.mem_of_find?_eq_some hs) hhead
  · cases hlex

theorem lex_dashes {c : Cursor} {t : Text} (hc : c.rest = '-' :: '-' :: '>' :: t) (braces : List Bool) :
    lex braces c = .ok (.punctuator braces c "--") := by
  unfold lex
  simp only [hc]
  refine (lexPunctuator_cons braces hc (by decide) (by decide) nofun).trans ?_
  rw [if_neg (by decide), hc]
  rfl

theorem skipGap_greater {c : Cursor} {t : Text} (hc : c.rest = '>' :: t) (sloppy : Bool) :
    c.skipGap sloppy = .ok c := by
  obtain ⟨_, index, line⟩ := c
  cases hc
  rfl
/-! ## Leading operands -/

/-- Where `p` succeeds from `s`, `q` does so from `t`, and if nothing follows what `q` reads, `p`
yields the same. -/
structure Leads (p q : Parser σ Form) (s t : State σ) : Prop where
  run : ∀ {x : Step s Form}, p s = .ok x → ∃ y : Step t Form, q t = .ok y ∧
    (y.state.lookahead.kind = .endOfInput → x.value = y.value ∧
      x.state.lookahead = y.state.lookahead ∧
      x.state.context.initializer = y.state.context.initializer)

namespace Leads

variable {p q r : Parser σ Form} {s t u : State σ}

theorem trans (h : Leads p q s t) (h' : Leads q r t u) : Leads p r s u := by
  refine ⟨fun {x} hx => ?_⟩
  obtain ⟨y, hy, hlast⟩ := h.run hx
  obtain ⟨z, hz, hlast'⟩ := h'.run hy
  refine ⟨z, hz, fun hend => ?_⟩
  obtain ⟨hvalue', hahead', hinit'⟩ := hlast' hend
  obtain ⟨hvalue, hahead, hinit⟩ := hlast (by rw [hahead']; exact hend)
  exact ⟨hvalue.trans hvalue', hahead.trans hahead', hinit.trans hinit'⟩

theorem of_eq (h : p s = q s) : Leads p q s s :=
  ⟨fun {x} hx => ⟨x, h ▸ hx, fun _ => ⟨rfl, rfl, rfl⟩⟩⟩

theorem inherit (h : s.context.initializer = none) : Leads (inherit p) p s s.opened := by
  refine ⟨fun {x} hx => ?_⟩
  obtain ⟨y, hy, hvalue, hstate, hinit⟩ := exists_of_inherit hx
  have hahead : x.state.opened.lookahead = y.state.opened.lookahead := congrArg _ hstate
  refine ⟨y, hy, fun _ => ⟨hvalue, hahead, ?_⟩⟩
  rw [hinit, h]
  rfl

/-- The operand is yielded as it is at the end. -/
theorem bind {f : Form → Parser σ Form}
    (h : ∀ {a : Form} {u : State σ} {z : Step u Form}, u.lookahead.kind = .endOfInput →
      f a u = .ok z → z.value = a ∧ z.state.lookahead = u.lookahead ∧
        z.state.context.initializer = u.context.initializer) : Leads (p >>= f) p s s := by
  refine ⟨fun {x} hx => ?_⟩
  obtain ⟨y, z, hy, hz, hvalue, hstate⟩ := exists_of_bind hx
  refine ⟨y, hy, fun hend => ?_⟩
  rw [hvalue, hstate]
  exact h hend hz

theorem bind_of_eq {f : Form → Parser σ Form}
    (h : ∀ {a : Form} {u : State σ}, u.lookahead.kind = .endOfInput →
      f a u = .ok ⟨a, u, u.since_self⟩) : Leads (p >>= f) p s s := by
  refine .bind fun hend hz => ?_
  rw [h hend] at hz
  cases hz
  exact ⟨rfl, rfl, rfl⟩

theorem setContext {f : Context → Context}
    (h : Leads p q { s with context := f s.context } t) :
    Leads (do setContext f; p) q s t := by
  refine ⟨fun {x} hx => ?_⟩
  obtain ⟨y, z, hy, hz, hvalue, hstate⟩ := exists_of_bind hx
  cases hy
  obtain ⟨w, hw, hlast⟩ := h.run hz
  rw [hvalue, hstate]
  exact ⟨w, hw, hlast⟩

end Leads

namespace Grammar

variable {nest : Nest σ} {s : State σ}

theorem leads_conditional (h : s.context.initializer = none) :
    Leads (conditional nest) (binary nest) s s.opened := by
  refine .trans (.bind_of_eq fun hend => ?_) (.inherit h)
  rw [look_bind (accept_end hend "?")]
  rfl

theorem leads_binary (h : s.context.initializer = none) :
    Leads (binary nest) (power nest) s s.opened := by
  refine .trans (.bind_of_eq fun {a u} hend => ?_) (.inherit h)
  have hlook : isAtBinary u = .ok ⟨false, u, u.since_self⟩ := by
    rw [isAtBinary, look_bind (a := u.context) rfl, look_bind (a := u.lookahead) rfl, isBinary, hend]
    rfl
  rw [look_bind hlook]
  rfl

theorem leads_power (h : s.context.initializer = none) :
    Leads (power nest) (unary nest) s s.opened := by
  refine .trans (.bind_of_eq fun hend => ?_) (.inherit h)
  rw [look_bind (isAt_end hend "**"), Bool.and_false]
  rfl

/-- Read a member or the arguments of a call, if they are next. -/
def callStep {σ : Source} (nest : Nest σ) (start : Token) (form : Form) :
    Parser σ (Form ⊕ Form) := do
  if (← isAt ".") || (← isAt "[") then
    member nest
    return .inl .other
  else if ← isAt "(" then
    let isAsync := start.isContextual "async" && start.line == (← peek).line
    noTarget
    let read ← arguments nest (if isAsync then asyncArgument nest else nest .assignment)
    if (form matches .importCall) && read.length != 1 then failAhead .misplaced
    if isAsync && (← isAt "=>") then return .inl (.parameters read true)
    else return .inl .other
  else if ← isAtTemplate then
    templateLiteral nest
    return .inl .other
  else return .inr form

theorem call_eq : call nest = (do
    let start ← peek
    let before := (← context).allowsIn
    setContext fun c => { c with allowsIn := true }
    let first ← head nest true
    let form ← iterate first (callStep nest start)
    setContext fun c => { c with allowsIn := before }
    return form) :=
  rfl

theorem callStep_end (hend : s.lookahead.kind = .endOfInput) (start : Token) (form : Form) :
    callStep nest start form s = .ok ⟨.inr form, s, s.since_self⟩ := by
  have htemplate : isAtTemplate s = .ok ⟨false, s, s.since_self⟩ := by
    rw [isAtTemplate, look_bind (a := s.lookahead) rfl, hend]
    rfl
  unfold callStep
  rw [look_bind (isAt_end hend "."), look_bind (isAt_end hend "["), Bool.or_self,
    if_neg Bool.false_ne_true, look_bind (isAt_end hend "("), if_neg Bool.false_ne_true,
    look_bind htemplate]
  rfl

theorem iterate_done {step : α → Parser σ (α ⊕ β)} {a : α} {b : β}
    (h : step a s = .ok ⟨.inr b, s, s.since_self⟩) :
    iterate a step s = .ok ⟨b, s, s.since_self⟩ := by
  rw [iterate, maxSteps, iterateFrom, look_bind h]
  rfl

theorem leads_call : Leads (call nest) (head nest true) s
    { s with context := { s.context with allowsIn := true } } := by
  have heq : call nest s = (do
      setContext fun c => { c with allowsIn := true }
      let first ← head nest true
      let form ← iterate first (callStep nest s.lookahead)
      setContext fun c => { c with allowsIn := s.context.allowsIn }
      return form : Parser σ Form) s := by
    rw [call_eq, look_bind (a := s.lookahead) rfl, look_bind (a := s.context) rfl]
  refine .trans (.of_eq heq) (.setContext (.bind fun {a u z} hend hz => ?_))
  rw [look_bind (iterate_done (callStep_end hend s.lookahead a))] at hz
  cases hz
  exact ⟨rfl, rfl, rfl⟩

section Punctuator

variable (hkind : s.lookahead.kind = .punctuator)
  (hsign : s.lookahead.value ∉ ["+", "-", "~", "!"])
  (hstep : s.lookahead.value ∉ ["++", "--"])

include hkind hsign in
theorem unary_eq : unary nest s = update nest s := by
  have hpunctuator : ["+", "-", "~", "!"].any s.lookahead.isPunctuator = false := by
    rw [List.any_eq_false]
    intro v hv
    rw [Token.isPunctuator, hkind]
    simp only [beq_self_eq_true, Bool.true_and, beq_iff_eq]
    rintro rfl
    exact hsign hv
  have hword (v : String) : s.lookahead.isKeyword v = false := by
    rw [Token.isKeyword, hkind]
    rfl
  have hname : s.lookahead.isContextual "await" = false := by
    rw [Token.isContextual, hkind]
    rfl
  rw [unary, look_bind (a := s.lookahead) rfl, hpunctuator]
  simp only [List.any_cons, hword, List.any_nil, Bool.or_false, Bool.false_eq_true, if_false]
  rw [look_bind (a := s.context) rfl, hname, Bool.and_false]
  rfl

include hkind hstep in
theorem leads_update (h : s.context.initializer = none) :
    Leads (update nest) (call nest) s s.opened := by
  have hat {v : String} (hv : v ∈ ["++", "--"]) : s.lookahead.isPunctuator v = false := by
    rw [Token.isPunctuator, hkind, beq_self_eq_true, Bool.true_and, beq_eq_false_iff_ne]
    rintro rfl
    exact hstep hv
  have heq : update nest s = (do
      let form ← Parser.inherit (call nest)
      if !(← newline) && ((← isAt "++") || (← isAt "--")) then
        checkChanged form .strictPostfix
        noTarget
        let _ ← next
        return .other
      else return form : Parser σ Form) s := by
    rw [update, look_bind (isAt_eq "++" s), look_bind (isAt_eq "--" s), hat (by decide),
      hat (by decide)]
    rfl
  refine .trans (.of_eq heq) (.trans (.bind_of_eq fun {a u} hend => ?_) (.inherit h))
  rw [look_bind (a := u.newline) rfl, look_bind (isAt_end hend "++"),
    look_bind (isAt_end hend "--"), Bool.or_self, Bool.and_false]
  rfl

include hkind in
theorem leads_head (h : s.context.initializer = none) :
    Leads (head nest true) (primary nest) s s.opened := by
  have hword (v : String) : isAtKeyword v s = .ok ⟨false, s, s.since_self⟩ := by
    rw [isAtKeyword_eq, Token.isKeyword, hkind]
    rfl
  have heq : head nest true s = Parser.inherit (primary nest) s := by
    rw [head, look_bind (hword "super"), look_bind (a := s.context) rfl, Bool.false_and,
      if_neg Bool.false_ne_true, look_bind (hword "new")]
    rfl
  exact .trans (.of_eq heq) (.inherit h)

include hkind hsign hstep in
/-- An expression that starts with a punctuator starts with a primary expression. -/
theorem leads_unary (h : s.context.initializer = none) :
    Leads (unary nest) (primary nest) s s.leading :=
  .trans (.of_eq (unary_eq hkind hsign)) <| .trans (leads_update hkind hstep h) <|
    .trans leads_call (leads_head hkind rfl)

end Punctuator

theorem leads_unary_of_conditional (h : s.context.initializer = none) :
    Leads (conditional nest) (unary nest) s s.opened :=
  .trans (leads_conditional h) (.trans (leads_binary rfl) (leads_power rfl))

/-- A parenthesis starts a group. -/
theorem leads_group (hat : s.lookahead.isPunctuator "(") (h : s.context.initializer = none) :
    Leads (primary nest) (group nest) s s.opened := by
  rw [Token.isPunctuator, Bool.and_eq_true, beq_iff_eq, beq_iff_eq] at hat
  have heq : primary nest s = (do
      setContext fun c => { c with bindable := false }
      Parser.inherit (group nest) : Parser σ Form) s := by
    rw [primary, look_bind (a := s.lookahead) rfl, look_bind (a := s.context) rfl, hat.1]
    dsimp only
    rw [hat.2, if_pos (by decide)]
  exact .trans (.of_eq heq) (.setContext (.inherit h))

/-- What starts with another sign is no primary expression. -/
theorem primary_ne_ok (hkind : s.lookahead.kind = .punctuator)
    (hvalue : s.lookahead.value ∉ ["(", "[", "\x7b", "/", "/=", "<"]) (x : Step s Form) :
    primary nest s ≠ .ok x := by
  intro hx
  rw [primary, look_bind (a := s.lookahead) rfl, look_bind (a := s.context) rfl, hkind] at hx
  simp only [List.mem_cons, List.not_mem_nil, or_false, not_or] at hvalue
  simp only [hvalue, beq_iff_eq, Bool.or_eq_true, or_self, if_false] at hx
  obtain ⟨y, z, hy, hz, -, -⟩ := exists_of_bind hx
  cases hz

/-! ## Assignments -/

theorem conditional_of_assignment (hkind : s.lookahead.kind = .punctuator) {x : Step s Form}
    (hx : assignment nest s = .ok x) :
    ∃ (y : Step s Form) (z : Step y.state Form), conditional nest s = .ok y ∧
      assignmentEnd nest s.lookahead y.value y.state = .ok z ∧ x.value = z.value ∧
      x.state = z.state := by
  have hword : s.lookahead.isKeyword "yield" = false := by
    rw [Token.isKeyword, hkind]
    rfl
  have hname : s.lookahead.isContextual "async" = false := by
    rw [Token.isContextual, hkind]
    rfl
  rw [assignment_eq, look_bind (a := s.context) rfl, look_bind (isAtKeyword_eq "yield" s), hword,
    Bool.and_false, if_neg Bool.false_ne_true, look_bind (a := s.lookahead) rfl] at hx
  simp only [hname, Bool.false_and, assignmentTail, Bool.false_eq_true, if_false] at hx
  obtain ⟨y, w, hy, hw, hvalue, hstate⟩ := exists_of_bind hx
  rw [look_bind (a := y.state.lookahead) rfl] at hw
  obtain ⟨v, z, hv, hz, hvalue', hstate'⟩ := exists_of_bind hw
  cases hv
  exact ⟨y, z, hy, hz, hvalue.trans hvalue', hstate.trans hstate'⟩

/-- A decrement has no comparison for its operand. -/
theorem decrement_ne_ok {k : Nat} {t : Text} (hat : s.lookahead.isPunctuator "--")
    (hrest : s.cursor.rest = '>' :: t) (h : s.context.initializer = none) (x : Step s Form) :
    assignment (read k) s ≠ .ok x := by
  intro hx
  obtain ⟨hkind, hvalue⟩ : s.lookahead.kind = .punctuator ∧ s.lookahead.value = "--" := by
    rwa [Token.isPunctuator, Bool.and_eq_true, beq_iff_eq, beq_iff_eq] at hat
  obtain ⟨y, -, hy, -, -, -⟩ := conditional_of_assignment hkind hx
  obtain ⟨u, hu, -⟩ := (leads_unary_of_conditional h).run hy
  have hlook : (isAt "--" : Parser σ Bool) s.opened = .ok ⟨true, s.opened, s.opened.since_self⟩ := by
    rw [isAt_eq, State.lookahead_opened, hat]
  rw [unary_eq (s := s.opened) hkind (by rw [State.lookahead_opened, hvalue]; decide), update,
    look_bind (isAt_eq "++" _), look_bind hlook, Bool.or_true, if_pos rfl] at hu
  obtain ⟨v, w, hv, hw, -, -⟩ := exists_of_bind hu
  obtain ⟨r, -, hr, -, -, -⟩ := exists_of_bind hw
  obtain ⟨q, hq, -, -, -⟩ := exists_of_inherit hr
  obtain ⟨mark, l, hgap, hlex, -, hstate⟩ := exists_of_next hv
  cases (skipGap_greater hrest _).symm.trans hgap
  obtain ⟨hgreater, hmem⟩ := lex_greater hrest _ hlex
  cases k with
  | zero => cases hq
  | succ k =>
    have hahead : v.state.opened.lookahead = l.token := by
      rw [State.lookahead_opened, hstate, State.lookahead_advance]
      exact Token.reserved_of_plain (by rw [hgreater]; exact nofun)
    have hsign : ∀ v ∈ [">>>=", ">>>", ">>=", ">>", ">=", ">"],
        v ∉ ["+", "-", "~", "!"] ∧ v ∉ ["++", "--"] ∧
          v ∉ ["(", "[", "\x7b", "/", "/=", "<"] := by decide
    rw [← hahead] at hgreater hmem
    obtain ⟨hsign, hstep, hprimary⟩ := hsign _ hmem
    obtain ⟨p, hp, -⟩ := (leads_unary hgreater hsign hstep rfl).run hq
    exact primary_ne_ok (s := v.state.opened.leading) hgreater hprimary p hp

section Wrapped

variable {nest : Nest σ.wrapped} {s : State σ.wrapped}

/-- No arrow follows the end. -/
theorem arrowFunction_ne_ok (hlt : σ.closing < s.lookahead.start)
    (hend : s.lookahead.kind = .endOfInput) (members : List Form) (isAsync : Bool)
    (x : Step s Form) : arrowFunction nest members isAsync s ≠ .ok x := by
  intro hx
  have hword : ¬ s.lookahead.isContextual "get" := by
    rw [Token.isContextual, hend]
    exact Bool.false_ne_true
  have hs : s.Kept s.context.allowsYield :=
    ⟨fun h => absurd h.symm (Nat.ne_of_lt hlt), fun _ => hend, fun h => absurd h hword, fun _ => rfl⟩
  obtain ⟨p, y, hp, hy, -, -⟩ := exists_of_bind hx
  have hkept := Matched.kept (arrowParameters members isAsync) hs hp
  have hkind := hkept.kind (Nat.lt_of_lt_of_le hlt p.since)
  rw [look_bind (a := p.state.newline) rfl] at hy
  dsimp only at hy
  split at hy
  · cases hy
  · obtain ⟨_, _, hcontext, hy, -, -⟩ := exists_of_bind hy
    cases hcontext
    obtain ⟨_, _, hcontext, hy, -, -⟩ := exists_of_bind hy
    cases hcontext
    obtain ⟨_, _, hcontext, hy, -, -⟩ := exists_of_bind hy
    cases hcontext
    obtain ⟨_, _, harrow, -, -, -⟩ := exists_of_bind hy
    have hat := (exists_of_expect harrow).1
    rw [Token.isPunctuator, hkind] at hat
    cases hat

theorem assignmentEnd_end (hlt : σ.closing < s.lookahead.start)
    (hend : s.lookahead.kind = .endOfInput) {start : Token} {form : Form} {x : Step s Form}
    (hx : assignmentEnd nest start form s = .ok x) :
    (∀ members isAsync, form ≠ .parameters members isAsync) ∧
      x.value = form ∧ x.state = s := by
  unfold assignmentEnd at hx
  split at hx
  · obtain ⟨y, z, hy, hz, -, -⟩ := exists_of_bind hx
    cases hy
    exact (arrowFunction_ne_ok (by exact hlt) (by exact hend) _ _ z hz).elim
  · next hform =>
    have hoperator : isAssignmentOperator s.lookahead = false := by
      rw [isAssignmentOperator, hend]
      rfl
    rw [look_bind (isAt_end hend "=>"), if_neg Bool.false_ne_true,
      look_bind (a := s.lookahead) rfl, hoperator] at hx
    cases hx
    exact ⟨hform, rfl, rfl⟩

/-- An expression that starts with a parenthesis starts with a group. If this ends the text, the
expression is the group and does not ask for an arrow. -/
theorem group_of_assignment (hat : s.lookahead.isPunctuator "(")
    (h : s.context.initializer = none) {x : Step s Form} (hx : assignment nest s = .ok x) :
    ∃ y : Step s.leading Form, group nest s.leading = .ok y ∧
      (σ.closing < y.state.lookahead.start → y.state.lookahead.kind = .endOfInput →
        (∀ members isAsync, y.value ≠ .parameters members isAsync) ∧
          x.state.context.initializer = y.state.context.initializer) := by
  obtain ⟨hkind, hvalue⟩ : s.lookahead.kind = .punctuator ∧ s.lookahead.value = "(" := by
    rwa [Token.isPunctuator, Bool.and_eq_true, beq_iff_eq, beq_iff_eq] at hat
  obtain ⟨y, z, hy, hz, -, hstate⟩ := conditional_of_assignment hkind hx
  have hlead : Leads (unary nest) (primary nest) s.opened s.opened.leading :=
    leads_unary hkind (by rw [State.lookahead_opened, hvalue]; decide)
      (by rw [State.lookahead_opened, hvalue]; decide) rfl
  obtain ⟨w, hw, hlast⟩ := ((leads_unary_of_conditional h).trans
    (hlead.trans (leads_group hat rfl))).run hy
  refine ⟨w, hw, fun hlt hend => ?_⟩
  obtain ⟨hvalue', hahead, hinit⟩ := hlast hend
  rw [← hahead] at hlt hend
  obtain ⟨hform, -, hstate'⟩ := assignmentEnd_end hlt hend hz
  rw [← hvalue', hstate, hstate']
  exact ⟨hform, hinit⟩

end Wrapped

end Grammar

end SmartQuotes.Script
