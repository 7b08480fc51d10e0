import SmartQuotes.Proofs.Script.Productions
import SmartQuotes.Script.Grammar.Expression

/-!
# Matching expressions

The productions of expressions match, and none of them starts at the closing parenthesis.
-/

set_option synthInstance.maxSize 4000

namespace SmartQuotes.Script

namespace Grammar

open SmartQuotes.Script.Parser

variable {σ : Source} {nest : Nest σ.wrapped} {nest' : Nest σ.padded} [MatchedNest nest nest']
  [BlockedNest nest]

instance : Matched (expression nest) (expression nest') := by
  unfold expression
  infer_instance

instance : Blocked (expression nest) := by
  unfold expression
  infer_instance

/-! ## Literals -/

instance : Matched (spreadElement nest) (spreadElement nest') := by
  unfold spreadElement
  infer_instance

instance : Matched (arrayLiteral nest) (arrayLiteral nest') := by
  unfold arrayLiteral
  dsimp only
  infer_instance

instance : Consumes (arrayLiteral nest) := by
  unfold arrayLiteral
  infer_instance

section Property

variable {σ : Source} (nest : Nest σ) (hasProto : Bool) (t : Token)

/-- The value of a property behind its key. -/
def propertyValue (k : Key) (computed isAsync : Bool) : Parser σ (Form × Bool) := do
  if !isAsync && (← isAt ":") then
    let isProto := !computed && k.is "__proto__"
    if isProto && hasProto then failAhead .duplicateProto
    expect ":"
    return (← inherit (nest .assignment), hasProto || isProto)
  else if ← isAt "(" then
    if isAsync then asyncMethod nest else method nest
    return (.other, hasProto)
  else if t.kind == .identifier then
    let after ← peek
    if after.isPunctuator "=" then
      setContext fun c => { c with initializer := some after }
      let _ ← next
      let value ← isolate (nest .assignment)
      return (.initialized (.identifier t) value, hasProto)
    else return (.identifier t, hasProto)
  else unexpected (← next)

/-- What stands behind the words and the first key of a property. -/
def propertyRest (key : Option Key) (computed isAsync keyFollows : Bool) :
    Parser σ (Form × Bool) := do
  if t.isContextual "get" && !isAsync && keyFollows then
    let _ ← propertyKey nest
    getter nest
    return (.other, hasProto)
  if t.isContextual "set" && !isAsync && keyFollows then
    let _ ← propertyKey nest
    setter nest
    return (.other, hasProto)
  if t.isPunctuator "*" && keyFollows then
    let _ ← propertyKey nest
    generatorMethod nest
    return (.other, hasProto)
  match key with
  | none => unexpected (← peek)
  | some k => propertyValue nest hasProto t k computed isAsync

/-- The rest of a property behind a name. -/
def namedProperty (computed plain : Bool) : Parser σ (Form × Bool) := do
  let isAsync := !(← newline) && t.value == "async" && !plain
  if isAsync then
    let key ← propertyKey nest
    propertyRest nest hasProto t (some key) computed isAsync (← peek).startsKey
  else propertyRest nest hasProto t (some (.name t.value)) computed isAsync (← peek).startsKey

theorem objectProperty_eq : objectProperty nest hasProto = (do
    let t ← peek
    if t.kind == .identifier then
      let _ ← next
      let after ← peek
      namedProperty nest hasProto t (after.isPunctuator "[")
        ([":", "(", "*", ","].any after.isPunctuator)
    else if !(← accept "*") then
      let computed ← isAt "["
      let key ← propertyKey nest
      propertyRest nest hasProto t (some key) computed false (← peek).startsKey
    else propertyRest nest hasProto t none false false (← peek).startsKey) :=
  rfl

end Property

section Property

variable (hasProto : Bool) (t : Token)

instance (k : Key) (computed isAsync : Bool) :
    Matched (propertyValue nest hasProto t k computed isAsync)
      (propertyValue nest' hasProto t k computed isAsync) := by
  unfold propertyValue
  refine .bind inferInstance fun colon => ?_
  split
  · dsimp only
    infer_instance
  refine .bind inferInstance fun parenthesis => ?_
  split
  · infer_instance
  split
  · refine matched_peek_if (fun {t t'} h => ?_) (fun after => inferInstance) inferInstance
    rcases h with rfl | ⟨hkind, hvalue, hkind', -⟩
    · exact .inl rfl
    · refine .inr ⟨?_, ?_⟩
      · simp [Token.isPunctuator, hvalue]
      · simp [Token.isPunctuator, hkind']
  · infer_instance

variable (key : Option Key) (computed isAsync keyFollows : Bool)

instance [EndsPlainly σ] [ht : Stands σ t] :
    Matched (propertyRest nest hasProto t key computed isAsync keyFollows)
      (propertyRest nest' hasProto t key computed isAsync keyFollows) := by
  unfold propertyRest
  split
  · next hget =>
    rw [Bool.and_eq_true, Bool.and_eq_true] at hget
    have : Matched (getter nest) (getter nest') := matched_getter (ht.getter hget.1.1)
    infer_instance
  · cases key <;> dsimp only <;> infer_instance

instance : Blocked (propertyRest nest hasProto t none computed isAsync keyFollows) := by
  unfold propertyRest
  dsimp only
  infer_instance

instance [EndsPlainly σ] [Stands σ t] : Matched
    (do propertyRest nest hasProto t key computed isAsync (← peek).startsKey)
    (do propertyRest nest' hasProto t key computed isAsync (← peek).startsKey) :=
  matched_peek_test (f := propertyRest nest hasProto t key computed isAsync)
    startsKey_alike fun _ => inferInstance

instance [EndsPlainly σ] [Stands σ t] (plain : Bool) :
    Matched (namedProperty nest hasProto t computed plain)
    (namedProperty nest' hasProto t computed plain) := by
  unfold namedProperty
  dsimp only
  infer_instance

instance [EndsPlainly σ] [Stands σ t] : Matched
    (do
      let after ← peek
      namedProperty nest hasProto t (after.isPunctuator "[")
        ([":", "(", "*", ","].any after.isPunctuator))
    (do
      let after ← peek
      namedProperty nest' hasProto t (after.isPunctuator "[")
        ([":", "(", "*", ","].any after.isPunctuator)) := by
  refine matched_peek_test
    (φ := fun after : Token =>
      (after.isPunctuator "[", [":", "(", "*", ","].any after.isPunctuator))
    (f := fun c => namedProperty nest hasProto t c.1 c.2)
    (g := fun c => namedProperty nest' hasProto t c.1 c.2) (fun {t t'} h => ?_) fun _ => inferInstance
  rcases h with rfl | ⟨hkind, hvalue, hkind', -⟩
  · rfl
  · simp [Token.isPunctuator, hkind, hvalue, hkind']

instance [EndsPlainly σ] :
    Matched (objectProperty nest hasProto) (objectProperty nest' hasProto) := by
  rw [objectProperty_eq, objectProperty_eq]
  refine matched_peek (fun t => inferInstance) fun t hkind _ => ?_
  rw [hkind, if_neg (by decide)]
  infer_instance

end Property

instance [EndsPlainly σ] : Matched (objectLiteral nest) (objectLiteral nest') := by
  unfold objectLiteral
  dsimp only
  infer_instance

instance : Consumes (objectLiteral nest) := by
  unfold objectLiteral
  infer_instance

/-! ## Templates -/

instance : Matched (templatePart : Parser σ.wrapped Token) templatePart where
  kept hs hx := by
    unfold templatePart at hx
    split at hx
    · exact Matched.kept next hs hx
    · cases hx
  run {s s' x} hs hx hend := by
    unfold templatePart at hx
    split at hx
    · next hkind =>
      have hkind' : s'.lookahead.kind = .template := by
        rcases hs with h | h
        · rw [h.lookahead, hkind]
        · exact absurd (hkind.symm.trans h.closing.kind) nofun
      unfold templatePart
      rw [if_pos hkind']
      exact Matched.run hs hx hend
    · cases hx

/-- Read the parts of a template literal behind the given one, as `templateRest` does without putting
the literal together. -/
def templateTail {σ : Source} (nest : Nest σ) : Nat → Token → Parser σ Unit
  | 0, _ => fail .unexpectedEnd
  | fuel + 1, part => do
    if part.closes then return
    let _ ← expression nest
    templateTail nest fuel (← templatePart)

theorem map_bind {σ : Source} {α β : Type} {s : State σ} {p : Parser σ α} {f : α → Parser σ β}
    {y : Step s α} (h : p s = .ok y) :
    ((p >>= f) s).map Step.state = (f y.value y.state).map Step.state := by
  simp only [bind, andThen, h]
  cases f y.value y.state <;> rfl

theorem map_bind_error {σ : Source} {α β : Type} {s : State σ} {p : Parser σ α}
    {f : α → Parser σ β} {e : Halt} (h : p s = .error e) :
    ((p >>= f) s).map Step.state = .error e := by
  simp only [bind, andThen, h]
  rfl

theorem templateRest_map {σ : Source} {nest : Nest σ} {fuel : Nat} {r : TemplateRun σ} {s : State σ}
    (hs : r.part.stop ≤ s.lookahead.start) :
    (templateRest nest fuel r s hs).map Step.state =
      (templateTail nest fuel r.part s).map Step.state := by
  induction fuel generalizing r s with
  | zero => rfl
  | succ fuel ih =>
    unfold templateRest templateTail
    split
    · next hcloses =>
      rw [if_pos hcloses]
      rfl
    · next hcloses =>
      rw [if_neg (Bool.eq_false_iff.mp hcloses)]
      cases hexpression : expression nest s with
      | error e => exact (map_bind_error hexpression).symm
      | ok y =>
        rw [map_bind hexpression]
        dsimp only
        split
        · next e hpart => exact (map_bind_error hpart).symm
        · next x hpart =>
          have hspec := templatePart_spec hpart
          have hstart := Nat.le_trans hs (Nat.le_trans y.since hspec.2.1)
          rw [map_bind hpart]
          refine Eq.trans ?_ (ih (r := r.extend hcloses x.value hspec.1 hstart) hspec.2.2)
          split
          · next hrest => rw [hrest]; rfl
          · next hrest => rw [hrest]; rfl

theorem templateParts_map {σ : Source} (nest : Nest σ) (s : State σ) :
    (templateParts nest s).map Step.state =
      ((do templateTail nest (maxSteps σ) (← templatePart)) s).map Step.state := by
  unfold templateParts
  split
  · next e hpart => exact (map_bind_error hpart).symm
  · next x hpart =>
    rw [map_bind hpart]
    refine Eq.trans ?_ (templateRest_map (r := .ofHead x.value (templatePart_spec hpart).1)
      (templatePart_spec hpart).2.2)
    dsimp only
    split
    · next hrest => rw [hrest]; rfl
    · next hrest => rw [hrest]; rfl

instance (fuel : Nat) (part : Token) :
    Matched (templateTail nest fuel part) (templateTail nest' fuel part) := by
  induction fuel generalizing part with
  | zero =>
    unfold templateTail
    infer_instance
  | succ fuel ih =>
    unfold templateTail
    infer_instance

theorem eq_ok_of_map {ε α β : Type} {r : Except ε α} {f : α → β} {b : β} (h : r.map f = .ok b) :
    ∃ a, r = .ok a ∧ f a = b := by
  cases r with
  | error e => cases h
  | ok a => exact ⟨a, rfl, Except.ok.inj h⟩

theorem exists_of_templateLiteral {σ : Source} {nest : Nest σ} {s : State σ} {x : Step s Unit}
    (h : templateLiteral nest s = .ok x) :
    ∃ w found, (do templateTail nest (maxSteps σ) (← templatePart) : Parser σ Unit) s = .ok w ∧
      x.state = { w.state with found } := by
  obtain ⟨y, z, hy, hz, -, hstate⟩ := exists_of_bind h
  cases hz
  have hmap := templateParts_map nest s
  rw [hy] at hmap
  obtain ⟨w, hw, hwstate⟩ := eq_ok_of_map hmap.symm
  refine ⟨w, y.state.found.insert y.value.fragment y.value.holds_fragment, hw, ?_⟩
  rw [hstate, hwstate]

theorem exists_templateLiteral {σ : Source} {nest : Nest σ} {s : State σ} {w : Step s Unit}
    (h : (do templateTail nest (maxSteps σ) (← templatePart) : Parser σ Unit) s = .ok w) :
    ∃ x found, templateLiteral nest s = .ok x ∧ x.state = { w.state with found } := by
  have hmap := templateParts_map nest s
  rw [h] at hmap
  obtain ⟨y, hy, hystate⟩ := eq_ok_of_map hmap
  obtain ⟨x, hx, -, hstate⟩ := bind_eq (f := recordTemplate) hy rfl
  refine ⟨x, y.state.found.insert y.value.fragment y.value.holds_fragment, hx, ?_⟩
  rw [hstate, hystate]

/-- The literals differ in what is recorded of them only. -/
instance : Matched (templateLiteral nest) (templateLiteral nest') := by
  have htail : Matched (do templateTail nest (maxSteps σ.wrapped) (← templatePart))
      (do templateTail nest' (maxSteps σ.padded) (← templatePart)) := by
    rw [maxSteps_padded]
    infer_instance
  refine ⟨fun {b s x} hs hx => ?_, fun {s s' x} hs hx hend => ?_⟩
  · obtain ⟨w, found, hw, hstate⟩ := exists_of_templateLiteral hx
    rw [hstate]
    exact (htail.kept hs hw).congr rfl rfl rfl
  · obtain ⟨w, found, hw, hstate⟩ := exists_of_templateLiteral hx
    rw [hstate] at hend ⊢
    obtain ⟨w', hw', -, hmatches⟩ := htail.run hs hw ⟨hend.start_le, hend.allows⟩
    obtain ⟨x', found', hx', hstate'⟩ := exists_templateLiteral hw'
    refine ⟨x', hx', rfl, ?_⟩
    rw [hstate']
    exact hmatches.behind _ _ _ _ _ _

/-! ## Regular expressions -/

theorem reread_eq {s : State σ} {token : Token} {cursor : Cursor}
    (h : lexRegularExpression s.mark = .ok (token, cursor)) :
    ∃ x, reread s = .ok x ∧ x.state = s.reread (reads_lexRegularExpression h) := by
  unfold reread
  split
  · next e he =>
    rw [h] at he
    cases he
  · next token' cursor' h' =>
    cases h.symm.trans h'
    exact ⟨_, rfl, rfl⟩

theorem exists_of_reread {s : State σ} {x : Step s Unit} (h : reread s = .ok x) :
    ∃ (token : Token) (cursor : Cursor) (hread : lexRegularExpression s.mark = .ok (token, cursor)),
      x.state = s.reread (reads_lexRegularExpression hread) := by
  unfold reread at h
  split at h
  · cases h
  · next token cursor hread =>
    cases h
    exact ⟨token, cursor, hread, rfl⟩

/-- The closing parenthesis is no regular expression, and neither is the end. -/
theorem start_reread {s : State σ.wrapped} {x : Step s Unit} (h : reread s = .ok x) :
    x.state.lookahead.start < σ.closing := by
  obtain ⟨token, cursor, hread, hstate⟩ := exists_of_reread h
  have hstart : x.state.lookahead.start = s.mark.index := by
    rw [hstate]
    exact (reads_lexRegularExpression hread).start_eq
  have hlength := Source.length_rest s.mark_within
  have htwo := (lexRegularExpression_spec hread).1
  omega

/-- A regular expression is no word. -/
theorem not_isContextual_reread {s : State σ} {x : Step s Unit} (h : reread s = .ok x) (w : String) :
    ¬ x.state.lookahead.isContextual w := by
  obtain ⟨token, cursor, hread, hstate⟩ := exists_of_reread h
  have hkind : x.state.lookahead.kind = .regularExpression := by
    rw [hstate]
    exact (lexRegularExpression_spec hread).2
  rw [Token.isContextual, hkind]
  exact Bool.false_ne_true

instance : Matched (reread : Parser σ.wrapped Unit) reread where
  kept hs hx := by
    have hlt := start_reread hx
    obtain ⟨token, cursor, hread, hstate⟩ := exists_of_reread hx
    refine ⟨fun heq => absurd heq (Nat.ne_of_lt hlt), fun hgt => absurd hgt (Nat.lt_asymm hlt),
      fun hword => absurd hword (not_isContextual_reread hx _), ?_⟩
    rw [hstate]
    exact hs.yields
  run {s s' x} hs hx _ := by
    have hlt := start_reread hx
    have h := hs.inside (Nat.lt_of_le_of_lt x.since hlt)
    obtain ⟨token, cursor, hread, hstate⟩ := exists_of_reread hx
    obtain ⟨cursor', hread', hcursor⟩ := lexRegularExpression_blanked h.mark token cursor hread
    obtain ⟨y, hy, hstate'⟩ := reread_eq hread'
    have hkind := (lexRegularExpression_spec hread).2
    have hgetter := not_isContextual_reread hx "get"
    rw [hstate] at hlt hgetter
    refine ⟨y, hy, rfl, .inl ?_⟩
    rw [hstate, hstate']
    refine ⟨⟨hcursor, h.braces, h.sloppy, rfl, h.context, h.isScript⟩, hlt, h.mark, h.newline, ?_, ?_,
      fun hword => absurd hword hgetter⟩
    · exact fun hstring => absurd (hkind.symm.trans hstring) nofun
    · intro hword
      rw [Token.isKeyword, Bool.and_eq_true, beq_iff_eq] at hword
      exact absurd (hkind.symm.trans hword.1) nofun

instance : Matched (regularExpression : Parser σ.wrapped Form) regularExpression := by
  unfold regularExpression
  infer_instance

/-! ## Groups -/

instance : Other "=>" := ⟨by decide⟩

instance : Matched (expectArrow : Parser σ.wrapped Unit) expectArrow := by
  unfold expectArrow
  infer_instance

instance (first : Form) : Matched (groupRest nest first) (groupRest nest' first) := by
  unfold groupRest
  dsimp only
  infer_instance

/-- Read the end of a group that is not yet known to be the parameters of an arrow function. -/
def groupEnd {σ : Source} (content : Form × Bool) : Parser σ Form := do
  let (form, isArrow) := content
  if isArrow then return form
  expect ")"
  let mut result := form
  if ← isAt "=>" then
    if form.name? == some "yield" then result := .parameters [form] false
    else
      unless (← context).bindable do unexpected (← peek)
      result := .parameters (match form with
        | .sequence forms => forms
        | form => [form]) false
  setContext fun c => { c with bindable := false }
  return result

/-- Read a group behind its first expression. -/
def groupTail {σ : Source} (nest : Nest σ) (first : Form) : Parser σ Form := do
  if ← isAt "," then
    setContext fun c => { c with assignable := false }
    groupRest nest first >>= groupEnd
  else pure (first, false) >>= groupEnd

theorem group_eq {σ : Source} (nest : Nest σ) : group nest = (do
    expect "("
    if ← accept ")" then
      expectArrow
      return .parameters [] false
    if ← isAt "..." then
      let rest ← restParameter nest
      expect ")"
      expectArrow
      return .parameters [rest] false
    setContext fun c => { c with bindable := true }
    let first ← inherit (nest .assignment)
    groupTail nest first) :=
  rfl

instance (content : Form × Bool) :
    Matched (groupEnd content : Parser σ.wrapped Form) (groupEnd content) := by
  unfold groupEnd
  dsimp only
  infer_instance

instance (first : Form) : Matched (groupTail nest first) (groupTail nest' first) := by
  unfold groupTail
  infer_instance

instance : Matched (group nest) (group nest') := by
  rw [group_eq, group_eq]
  infer_instance

/-! ## Primary expressions -/

instance : Blocked (primary nest) := by
  refine blocked_peek fun t hkind hvalue => .of_still inferInstance fun c => ?_
  rw [hkind]
  dsimp only
  rw [hvalue, if_neg (by decide), if_neg (by decide), if_neg (by decide), if_neg (by decide),
    if_neg (by decide)]
  infer_instance

instance [EndsPlainly σ] : Matched (primary nest) (primary nest') := by
  refine Blocked.matched_peek (inferInstanceAs (Blocked (primary nest))) fun t =>
    .bind inferInstance fun c => ?_
  cases t.kind <;> dsimp only <;> infer_instance

/-! ## Calls and members -/

section Arguments

variable {argument : Parser σ.wrapped Form} {argument' : Parser σ.padded Form}
  [Matched argument argument']

instance : Matched (arguments nest argument) (arguments nest' argument') := by
  unfold arguments
  refine .bind inferInstance fun _ => matched_isAt_closing (fun b => ?_) ?_
  · dsimp only
    infer_instance
  · rw [if_pos rfl]
    infer_instance

omit [Matched argument argument'] in
instance : Consumes (arguments nest argument) := by
  unfold arguments
  infer_instance

end Arguments

instance : Matched (asyncArgument nest) (asyncArgument nest') := by
  unfold asyncArgument
  infer_instance

instance : Matched (member nest) (member nest') := by
  unfold member
  infer_instance

instance : Matched (isAtTemplate : Parser σ.wrapped Bool) isAtTemplate := by
  refine matched_peek_test (φ := fun t => t.kind == .template && t.opens) (f := pure) (g := pure)
    (fun {t t'} h => ?_) fun _ => inferInstance
  rcases h with rfl | ⟨hkind, -, hkind', -⟩
  · rfl
  · rw [hkind, hkind']
    rfl

instance : Matched (creation nest) (creation nest') := by
  unfold creation
  infer_instance

instance : Consumes (creation nest) := by
  unfold creation
  infer_instance

instance [EndsPlainly σ] (isCall : Bool) : Matched (head nest isCall) (head nest' isCall) := by
  unfold head
  dsimp only
  infer_instance

instance (isCall : Bool) : Blocked (head nest isCall) := by
  unfold head
  infer_instance

instance [EndsPlainly σ] : Matched (callee nest) (callee nest') := by
  unfold callee
  infer_instance

instance : Blocked (callee nest) := by
  unfold callee
  infer_instance

instance [EndsPlainly σ] : Matched (call nest) (call nest') := by
  unfold call
  dsimp only
  refine matched_peek (fun start => ?_) fun start _ _ => ?_
  · exact .bind inferInstance fun _ => .bind inferInstance fun _ => .bind inferInstance fun _ =>
      .bind inferInstance fun _ => inferInstance
  · infer_instance

instance : Blocked (call nest) := by
  unfold call
  dsimp only
  infer_instance

/-! ## Operators -/

instance : Other "++" := ⟨by decide⟩
instance : Other "--" := ⟨by decide⟩
instance : Other "**" := ⟨by decide⟩

instance (form : Form) (cause : Cause) :
    Matched (checkChanged form cause : Parser σ.wrapped Unit) (checkChanged form cause) := by
  unfold checkChanged
  dsimp only
  infer_instance

instance [EndsPlainly σ] : Matched (update nest) (update nest') := by
  unfold update
  infer_instance

instance : Blocked (update nest) := by
  unfold update
  infer_instance

instance [EndsPlainly σ] : Matched (unary nest) (unary nest') := by
  unfold unary
  dsimp only
  infer_instance

instance : Blocked (unary nest) := by
  unfold unary
  infer_instance

instance [EndsPlainly σ] : Matched (power nest) (power nest') := by
  unfold power
  infer_instance

instance : Blocked (power nest) := by
  unfold power
  infer_instance

instance : Matched (isAtBinary : Parser σ.wrapped Bool) isAtBinary := by
  refine .bind inferInstance fun c => matched_peek_test (φ := isBinary c.allowsIn) (f := pure)
    (g := pure) (fun {t t'} h => ?_) fun _ => inferInstance
  rcases h with rfl | ⟨hkind, hvalue, hkind', -⟩
  · rfl
  · simp only [isBinary, hkind, hvalue, hkind']
    decide

instance [EndsPlainly σ] : Matched (binary nest) (binary nest') := by
  unfold binary
  infer_instance

instance : Blocked (binary nest) := by
  unfold binary
  infer_instance

instance [EndsPlainly σ] : Matched (conditional nest) (conditional nest') := by
  unfold conditional
  infer_instance

instance : Blocked (conditional nest) := by
  unfold conditional
  infer_instance

/-! ## Assignments and arrow functions -/

/-- End a `yield` behind its operand. -/
def yieldEnd {σ : Source} (before hasArgument : Bool) : Parser σ Form := do
  setContext fun c => { c with allowsYield := before }
  return .yielding hasArgument

/-- Read the operand of a `yield`, if the token is one to start it. -/
def yieldOperand {σ : Source} (nest : Nest σ) (before isDelegating : Bool) (t : Token) :
    Parser σ Form := do
  if isDelegating then do
    let _ ← nest .assignment
    pure true >>= yieldEnd before
  else if startsOperand t then do
    let _ ← nest .assignment
    pure true >>= yieldEnd before
  else pure false >>= yieldEnd before

/-- Read the operand of a `yield`, if it has one. It is said whether `yield` is a name behind it. -/
def yieldFrom {σ : Source} (nest : Nest σ) (before : Bool) : Parser σ Form := do
  setContext fun c => { c with allowsYield := false }
  yieldOperand nest before (← accept "*") (← peek)

/-- Read a `yield` behind its keyword. -/
def yieldRest {σ : Source} (nest : Nest σ) : Parser σ Form := do
  if ← newline then return .yielding false
  yieldFrom nest (← context).allowsYield

theorem yielding_eq {σ : Source} (nest : Nest σ) :
    yielding nest = (do expectKeyword "yield"; yieldRest nest) :=
  rfl

section Ahead

variable {α β : Type}

/-- The closing parenthesis has not been read, and it is not ahead if the text ends in a `yield`. -/
structure Clear (s : State σ.wrapped) : Prop where
  start_le : s.lookahead.start ≤ σ.closing
  start_ne : EndsInYield σ.text → s.lookahead.start ≠ σ.closing

theorem Clear.before {s t : State σ.wrapped} (h : Clear t)
    (hle : s.lookahead.start ≤ t.lookahead.start) : Clear s where
  start_le := Nat.le_trans hle h.start_le
  start_ne hyield heq := h.start_ne hyield (Nat.le_antisymm h.start_le (heq ▸ hle))

/-- As `Matched`, whatever `yield` is, but not up to a `yield` that the text ends in. -/
class MatchedClear (p : Parser σ.wrapped α) (q : Parser σ.padded α) : Prop where
  kept : ∀ {b : Bool} {s : State σ.wrapped} {x : Step s α}, s.Kept b → p s = .ok x →
    ∃ b', x.state.Kept b'
  run : ∀ {s : State σ.wrapped} {s' : State σ.padded} {x : Step s α}, s.Matches s' → p s = .ok x →
    Clear x.state → ∃ y, q s' = .ok y ∧ y.value = x.value ∧ x.state.Matches y.state

/-- As `MatchedClear`, from states that have the same token ahead. -/
class MatchedAhead (p : Parser σ.wrapped α) (q : Parser σ.padded α) : Prop where
  kept : ∀ {b : Bool} {s : State σ.wrapped} {x : Step s α}, s.Kept b → p s = .ok x →
    ∃ b', x.state.Kept b'
  run : ∀ {s : State σ.wrapped} {s' : State σ.padded} {x : Step s α}, s.Inside s' → p s = .ok x →
    Clear x.state → ∃ y, q s' = .ok y ∧ y.value = x.value ∧ x.state.Matches y.state

/-- The parsers yield the same and leave the token ahead where it is. -/
class LooksAhead (p : Parser σ.wrapped α) (q : Parser σ.padded α) : Prop where
  kept : ∀ {b : Bool} {s : State σ.wrapped} {x : Step s α}, s.Kept b → p s = .ok x →
    ∃ b', x.state.Kept b'
  run : ∀ {s : State σ.wrapped} {s' : State σ.padded} {x : Step s α}, s.Inside s' → p s = .ok x →
    ∃ y, q s' = .ok y ∧ y.value = x.value ∧ x.state.Inside y.state

variable {p : Parser σ.wrapped α} {q : Parser σ.padded α} {f : α → Parser σ.wrapped β}
  {g : α → Parser σ.padded β}

instance [h : Matched p q] : MatchedClear p q where
  kept hs hx := ⟨_, h.kept hs hx⟩
  run hs hx hend :=
    h.run hs hx ⟨hend.start_le, fun heq hyield => absurd heq (hend.start_ne hyield)⟩

instance [h : MatchedFreely p q] : MatchedClear p q where
  kept := h.kept
  run hs hx hend := h.run hs hx hend.start_le

instance [hp : MatchedClear p q] [hf : ∀ a, MatchedClear (f a) (g a)] :
    MatchedClear (p >>= f) (q >>= g) where
  kept hs hx := by
    obtain ⟨y, z, hy, hz, -, hstate⟩ := exists_of_bind hx
    obtain ⟨b', hkept⟩ := hp.kept hs hy
    rw [hstate]
    exact (hf y.value).kept hkept hz
  run hs hx hend := by
    obtain ⟨y, z, hy, hz, hvalue, hstate⟩ := exists_of_bind hx
    rw [hvalue, hstate]
    rw [hstate] at hend
    obtain ⟨y', hy', hyvalue, hs'⟩ := hp.run hs hy (hend.before z.since)
    rw [← hyvalue] at hz
    exact exists_bind hy' ((hf y'.value).run hs' hz hend)

instance {c : Prop} [Decidable c] {p' : Parser σ.wrapped α} {q' : Parser σ.padded α}
    [hp : MatchedClear p q] [hp' : MatchedClear p' q'] :
    MatchedClear (if c then p else p') (if c then q else q') := by
  split
  · exact hp
  · exact hp'

instance {f : Token → Parser σ.wrapped β} {g : Token → Parser σ.padded β}
    [hf : ∀ t, MatchedClear (f t) (g t)] [hblocked : ∀ t, Blocked (f t)] :
    MatchedClear (peek >>= f) (peek >>= g) where
  kept hs hx := by
    obtain ⟨y, z, hy, hz, -, hstate⟩ := exists_of_bind hx
    cases hy
    rw [hstate]
    exact (hf _).kept hs hz
  run {s s' x} hs hx hend := by
    obtain ⟨y, z, hy, hz, hvalue, hstate⟩ := exists_of_bind hx
    cases hy
    rw [hstate] at hend
    rw [hvalue, hstate]
    refine exists_bind (q := peek) rfl ?_
    rcases hs with hs | hs
    · rw [hs.lookahead]
      exact (hf _).run (.inl hs) hz hend
    · exact absurd ((hblocked _).closing_lt hs.closing hz) (Nat.not_lt.mpr hend.start_le)

instance [h : MatchedClear p q] : MatchedAhead p q where
  kept := h.kept
  run hs hx hend := h.run (.inl hs) hx hend

instance {c : Prop} [Decidable c] {p' : Parser σ.wrapped α} {q' : Parser σ.padded α}
    [hp : MatchedAhead p q] [hp' : MatchedAhead p' q'] :
    MatchedAhead (if c then p else p') (if c then q else q') := by
  split
  · exact hp
  · exact hp'

instance [hp : LooksAhead p q] [hf : ∀ a, MatchedAhead (f a) (g a)] :
    MatchedAhead (p >>= f) (q >>= g) where
  kept hs hx := by
    obtain ⟨y, z, hy, hz, -, hstate⟩ := exists_of_bind hx
    obtain ⟨b', hkept⟩ := hp.kept hs hy
    rw [hstate]
    exact (hf y.value).kept hkept hz
  run hs hx hend := by
    obtain ⟨y, z, hy, hz, hvalue, hstate⟩ := exists_of_bind hx
    rw [hvalue, hstate]
    rw [hstate] at hend
    obtain ⟨y', hy', hyvalue, hs'⟩ := hp.run hs hy
    rw [← hyvalue] at hz
    exact exists_bind hy' ((hf y'.value).run hs' hz hend)

/-- A parser that keeps the token ahead in every state looks. -/
theorem looksAhead_of_matchedClear [h : MatchedClear p q]
    (hstill : ∀ {s : State σ.wrapped} {x : Step s α}, p s = .ok x → x.state.lookahead = s.lookahead) :
    LooksAhead p q where
  kept := h.kept
  run {s s' x} hs hx := by
    have hlt : x.state.lookahead.start < σ.closing := by
      rw [hstill hx]
      exact hs.start_lt
    obtain ⟨y, hy, hvalue, hs'⟩ :=
      h.run (.inl hs) hx ⟨Nat.le_of_lt hlt, fun _ => Nat.ne_of_lt hlt⟩
    exact ⟨y, hy, hvalue, hs'.inside hlt⟩

instance : LooksAhead (newline : Parser σ.wrapped Bool) newline :=
  looksAhead_of_matchedClear fun hx => by cases hx; rfl

instance : LooksAhead (Parser.context : Parser σ.wrapped Context) Parser.context :=
  looksAhead_of_matchedClear fun hx => by cases hx; rfl

instance (h : Context → Context) [KeepsGoal h] :
    LooksAhead (setContext h : Parser σ.wrapped Unit) (setContext h) :=
  looksAhead_of_matchedClear fun hx => by cases hx; rfl

instance : LooksAhead (peek : Parser σ.wrapped Token) peek where
  kept hs hx := by
    cases hx
    exact ⟨_, hs⟩
  run hs hx := by
    cases hx
    exact ⟨_, rfl, hs.lookahead, hs⟩

theorem state_of_accept {σ : Source} {v : String} {s : State σ} {x : Step s Bool}
    (h : accept v s = .ok x) (hx : x.value = false) : x.state = s := by
  obtain ⟨y, z, hy, hz, hvalue, hstate⟩ := exists_of_bind h
  cases hy
  dsimp only at hz
  split at hz
  · obtain ⟨w, u, -, hu, hwvalue, -⟩ := exists_of_bind hz
    cases hu
    rw [hvalue, hwvalue] at hx
    cases hx
  · cases hz
    exact hstate

/-- Where the token is not accepted it is still ahead. -/
instance (v : String) {f : Bool → Parser σ.wrapped β} {g : Bool → Parser σ.padded β}
    [htrue : MatchedClear (f true) (g true)] [hfalse : MatchedAhead (f false) (g false)] :
    MatchedAhead (accept v >>= f) (accept v >>= g) where
  kept hs hx := by
    obtain ⟨y, z, hy, hz, -, hstate⟩ := exists_of_bind hx
    have hkept := Matched.kept (accept v) hs hy
    rw [hstate]
    cases hvalue : y.value with
    | true =>
      rw [hvalue] at hz
      exact htrue.kept hkept hz
    | false =>
      rw [hvalue] at hz
      exact hfalse.kept hkept hz
  run {s s' x} hs hx hend := by
    obtain ⟨y, z, hy, hz, hvalue, hstate⟩ := exists_of_bind hx
    rw [hstate] at hend
    obtain ⟨y', hy', hyvalue, hs'⟩ :=
      MatchedClear.run (q := accept v) (.inl hs) hy (hend.before z.since)
    rw [hvalue, hstate]
    rw [← hyvalue] at hz
    refine exists_bind hy' ?_
    cases hb : y'.value with
    | true =>
      rw [hb] at hz
      exact htrue.run hs' hz hend
    | false =>
      rw [hb] at hz
      refine hfalse.run ?_ hz hend
      rw [state_of_accept hy (hyvalue.symm.trans hb), state_of_accept hy' hb]
      exact hs

end Ahead

instance (before hasArgument : Bool) :
    MatchedFreely (yieldEnd before hasArgument : Parser σ.wrapped Form)
      (yieldEnd before hasArgument) := by
  unfold yieldEnd
  infer_instance

instance (before hasArgument : Bool) :
    Restores before (yieldEnd before hasArgument : Parser σ.wrapped Form) := by
  unfold yieldEnd
  infer_instance

instance (before isDelegating : Bool) (t : Token) :
    MatchedClear (yieldOperand nest before isDelegating t)
      (yieldOperand nest' before isDelegating t) := by
  unfold yieldOperand
  infer_instance

instance (before : Bool) (t : Token) : Blocked (yieldOperand nest before true t) := by
  unfold yieldOperand
  rw [if_pos rfl]
  infer_instance

instance (before isDelegating : Bool) (t : Token) :
    Restores before (yieldOperand nest before isDelegating t) := by
  unfold yieldOperand
  infer_instance

instance (before : Bool) : MatchedAhead (yieldFrom nest before) (yieldFrom nest' before) := by
  unfold yieldFrom
  infer_instance

instance (before : Bool) : Restores before (yieldFrom nest before) := by
  unfold yieldFrom
  infer_instance

instance : MatchedAhead (yieldRest nest) (yieldRest nest') := by
  unfold yieldRest
  infer_instance

theorem endsInYield_of_expectKeyword {s : State σ.wrapped} {s' : State σ.padded}
    {x : Step s Unit} {y' : State σ.padded} (hs : s.Matches s')
    (hx : expectKeyword "yield" s = .ok x) (hend : x.state.AtEnd y') : EndsInYield σ.text := by
  obtain ⟨y, z, hy, hz, -, hstate⟩ := exists_of_bind hx
  obtain ⟨mark, l, hgap, hlex, hvalue, hystate⟩ := exists_of_next hy
  have hclose : mark.rest = [')'] := by
    have hmark := hend.closing.mark
    split at hz
    · cases hz
      rw [hstate, hystate] at hmark
      exact hmark
    · cases hz
  have hyield : s.lookahead.isKeyword "yield" = true := by
    split at hz
    · next h =>
      rw [hvalue] at h
      exact h
    · cases hz
  rcases hs with hs | hs
  · obtain ⟨t, hword, ht⟩ := hs.word hyield
    exact ⟨s.mark, s.cursor, mark, t, s.sloppy, s.mark_within, hword, ht, hgap, hclose⟩
  · rw [Token.isKeyword, hs.closing.kind] at hyield
    cases hyield

/-- Behind a `yield` it is as before whether this is a name. -/
theorem kept_yielding (nest' : Nest σ.padded) [MatchedNest nest nest'] {b : Bool}
    {s : State σ.wrapped} {x : Step s Form} (hs : s.Kept b) (hx : yielding nest s = .ok x) :
    x.state.Kept b := by
  rw [yielding_eq] at hx
  obtain ⟨y, z, hy, hz, -, hstate⟩ := exists_of_bind hx
  have hkept := Matched.kept (expectKeyword "yield") hs hy
  rw [hstate]
  obtain ⟨c, w, hc, hw, -, hstate'⟩ := exists_of_bind hz
  cases hc
  rw [hstate']
  dsimp only at hw
  split at hw
  · cases hw
    exact hkept
  · obtain ⟨d, u, hd, hu, -, hstate''⟩ := exists_of_bind hw
    cases hd
    rw [hstate'']
    obtain ⟨b', hend⟩ := MatchedAhead.kept (yieldFrom nest' y.state.context.allowsYield) hkept hu
    have hrestored : u.state.context.allowsYield = y.state.context.allowsYield :=
      Restores.allowsYield hu
    exact hend.restored fun hyield => hrestored.trans (hkept.yields hyield)

/-- A `yield` in front of the closing parenthesis is one that the text ends in. -/
theorem exists_yielding {s : State σ.wrapped} {s' : State σ.padded} {x : Step s Form}
    (hs : s.Matches s') (hx : yielding nest s = .ok x) (hend : Clear x.state) :
    ∃ y, yielding nest' s' = .ok y ∧ y.value = x.value ∧ x.state.Matches y.state := by
  rw [yielding_eq] at hx ⊢
  obtain ⟨y, z, hy, hz, hvalue, hstate⟩ := exists_of_bind hx
  rw [hstate] at hend
  obtain ⟨y', hy', -, hs'⟩ :=
    MatchedClear.run (q := expectKeyword "yield") hs hy (hend.before z.since)
  rcases hs' with hs' | hs'
  · rw [hvalue, hstate]
    exact exists_bind hy' (MatchedAhead.run (q := yieldRest nest') hs' hz hend)
  · have hyield := endsInYield_of_expectKeyword hs hy hs'
    exact absurd hs'.closing.start_eq ((hend.before z.since).start_ne hyield)

instance : Consumes (yielding nest) := by
  unfold yielding
  infer_instance

instance (members : List Form) (isAsync : Bool) :
    Matched (arrowParameters members isAsync : Parser σ.wrapped Parameters)
      (arrowParameters members isAsync) := by
  unfold arrowParameters
  dsimp only
  infer_instance

instance (members : List Form) (isAsync : Bool) :
    Matched (arrowFunction nest members isAsync) (arrowFunction nest' members isAsync) := by
  unfold arrowFunction
  dsimp only
  refine .bind inferInstance fun p => .bind inferInstance fun ended => ?_
  split
  · infer_instance
  · exact .bind inferInstance fun _ =>
      matched_restoring (fun _ => inferInstance) fun _ => inferInstance

instance (start : Token) (target : Form) :
    Matched (assignmentRest nest start target) (assignmentRest nest' start target) := by
  unfold assignmentRest
  cases target.name? <;> dsimp only <;> infer_instance

/-- Go on behind the operands of an assignment or the parameters of an arrow function. -/
def assignmentEnd {σ : Source} (nest : Nest σ) (start : Token) (form : Form) : Parser σ Form := do
  match form with
  | .parameters members isAsync =>
    noTarget
    arrowFunction nest members isAsync
  | form =>
    if ← isAt "=>" then
      noTarget
      if form.isIdentifier then arrowFunction nest [form] false else return form
    else if isAssignmentOperator (← peek) then assignmentRest nest start form
    else return form

/-- Go on behind a first operand. `isAsync` says whether it is the word in front of the parameter of
an asynchronous arrow function. -/
def assignmentTail {σ : Source} (nest : Nest σ) (start : Token) (first : Form) (isAsync : Bool) :
    Parser σ Form := do
  if isAsync then
    let parameter ← primary nest
    pure (.parameters [parameter] true) >>= assignmentEnd nest start
  else pure first >>= assignmentEnd nest start

theorem assignment_eq {σ : Source} (nest : Nest σ) : assignment nest = (do
    if !(← context).allowsYield && (← isAtKeyword "yield") then yielding nest
    else
      let start ← peek
      let first ← conditional nest
      let after ← peek
      assignmentTail nest start first (start.isContextual "async" && start.line == after.line &&
        (after.kind == .identifier || after.isKeyword "yield"))) :=
  rfl

instance (start : Token) (form : Form) :
    Matched (assignmentEnd nest start form) (assignmentEnd nest' start form) := by
  have hplain : Matched (do
        if ← isAt "=>" then
          noTarget
          if form.isIdentifier then arrowFunction nest [form] false else return form
        else if isAssignmentOperator (← peek) then assignmentRest nest start form
        else return form)
      (do
        if ← isAt "=>" then
          noTarget
          if form.isIdentifier then arrowFunction nest' [form] false else return form
        else if isAssignmentOperator (← peek) then assignmentRest nest' start form
        else return form) := by
    refine .bind inferInstance fun arrow => ?_
    split
    · infer_instance
    · refine matched_peek_test (φ := isAssignmentOperator)
        (f := fun b => if b then assignmentRest nest start form else pure form)
        (g := fun b => if b then assignmentRest nest' start form else pure form)
        (fun {t t'} h => ?_) fun _ => inferInstance
      rcases h with rfl | ⟨hkind, hvalue, hkind', -⟩
      · rfl
      · rw [isAssignmentOperator, isAssignmentOperator, hkind, hvalue, hkind']
        rfl
  unfold assignmentEnd
  cases form <;> first | exact hplain | infer_instance

instance [EndsPlainly σ] (start : Token) (first : Form) (isAsync : Bool) :
    Matched (assignmentTail nest start first isAsync)
      (assignmentTail nest' start first isAsync) := by
  unfold assignmentTail
  infer_instance

/-- Read an expression that does not start with an operator `yield`. -/
def operands {σ : Source} (nest : Nest σ) : Parser σ Form := do
  let start ← peek
  let first ← conditional nest
  let after ← peek
  assignmentTail nest start first (start.isContextual "async" && start.line == after.line &&
    (after.kind == .identifier || after.isKeyword "yield"))

instance [EndsPlainly σ] : Matched (operands nest) (operands nest') := by
  refine matched_peek (fun start => .bind inferInstance fun first => ?_)
    fun start _ _ => inferInstance
  refine matched_peek_test
    (φ := fun after : Token => start.isContextual "async" && start.line == after.line &&
      (after.kind == .identifier || after.isKeyword "yield"))
    (f := assignmentTail nest start first) (g := assignmentTail nest' start first)
    (fun {t t'} h => ?_) fun _ => inferInstance
  rcases h with rfl | ⟨hkind, hvalue, hkind', hline⟩
  · rfl
  · rw [Token.isKeyword, Token.isKeyword, hkind, hkind', hline]
    rfl

/-- An operator `yield` in front of the closing parenthesis stays one, which does not fit. -/
theorem matched_yielding_or {p : Parser σ.wrapped Form} {q : Parser σ.padded Form} [Matched p q] :
    Matched (do if !(← context).allowsYield && (← isAtKeyword "yield") then yielding nest else p)
      (do if !(← context).allowsYield && (← isAtKeyword "yield") then yielding nest' else q) := by
  refine ⟨fun {b s x} hs hx => ?_, fun {s s' x} hs hx hend => ?_⟩
  · obtain ⟨c, y, hc, hy, -, hstate⟩ := exists_of_bind hx
    cases hc
    obtain ⟨d, z, hd, hz, -, hstate'⟩ := exists_of_bind hy
    cases hd
    rw [hstate, hstate']
    dsimp only at hz
    split at hz
    · exact kept_yielding nest' hs hz
    · exact Matched.kept q hs hz
  · obtain ⟨c, y, hc, hy, hvalue, hstate⟩ := exists_of_bind hx
    cases hc
    obtain ⟨d, z, hd, hz, hvalue', hstate'⟩ := exists_of_bind hy
    cases hd
    rw [hstate, hstate'] at hend
    rw [hvalue, hvalue', hstate, hstate']
    refine exists_bind (q := Parser.context) rfl (exists_bind (q := isAtKeyword "yield") rfl ?_)
    have hword : s'.lookahead.isKeyword "yield" = s.lookahead.isKeyword "yield" := by
      rcases hs.ahead with heq | ⟨hkind, -, hkind', -⟩
      · rw [heq]
      · rw [Token.isKeyword, Token.isKeyword, hkind, hkind']
        rfl
    dsimp only at hz ⊢
    rw [hs.context, hword]
    split at hz
    · next hyields =>
      rw [if_pos hyields]
      refine exists_yielding hs hz ⟨hend.start_le, fun hyield heq => ?_⟩
      have hname := (kept_yielding nest' hs.kept hz).yields hyield
      rw [hend.allows heq hyield] at hname
      rw [← hname] at hyields
      cases hyields
    · next hname =>
      rw [if_neg hname]
      exact Matched.run hs hz hend

instance [EndsPlainly σ] : Matched (assignment nest) (assignment nest') :=
  matched_yielding_or (p := operands nest) (q := operands nest')

instance : Blocked (assignment nest) := by
  unfold assignment
  infer_instance

end Grammar

end SmartQuotes.Script
