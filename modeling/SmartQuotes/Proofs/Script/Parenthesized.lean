import Mathlib.Data.Option.Basic
import SmartQuotes.Proofs.Script.Leading

/-!
# Expressions in parentheses

A text that is accepted in parentheses is an expression, unless the parenthesis that is put in front
of it is closed by one of its own.
-/

namespace SmartQuotes.Script

open SmartQuotes.Script.Parser

variable {σ : Source} {α β : Type}

namespace Parser

/-! ## What has been read -/

theorem lastIndex_of_next {s : State σ} {x : Step s Token} (h : next s = .ok x) :
    x.state.lastIndex = s.cursor.index ∧ x.state.lastIndex ≤ x.state.lookahead.start := by
  obtain ⟨mark, l, hgap, hlex, -, hstate⟩ := exists_of_next h
  have hindex : x.state.lastIndex = s.cursor.index := by
    rw [hstate]
    rfl
  exact ⟨hindex, by rw [hindex]; exact (next_spec h).2⟩

theorem context_of_expect {v : String} {s : State σ} {x : Step s Unit} (h : expect v s = .ok x) :
    x.state.context = s.context := by
  obtain ⟨-, y, hy, hstate⟩ := exists_of_expect h
  rw [hstate, context_of_next hy]

theorem lastIndex_of_expect {v : String} {s : State σ} {x : Step s Unit} (h : expect v s = .ok x) :
    x.state.lastIndex = s.cursor.index ∧ x.state.lastIndex ≤ x.state.lookahead.start := by
  obtain ⟨-, y, hy, hstate⟩ := exists_of_expect h
  rw [hstate]
  exact lastIndex_of_next hy

theorem exists_of_accept {v : String} {s : State σ} {x : Step s Bool} (h : accept v s = .ok x) :
    x.value = false ∧ x.state = s ∨ x.value = true ∧ ∃ y, next s = .ok y ∧ x.state = y.state := by
  rw [accept, look_bind (isAt_eq v s)] at h
  split at h
  · obtain ⟨y, z, hy, hz, hvalue, hstate⟩ := exists_of_bind h
    cases hz
    exact .inr ⟨hvalue, y, hy, hstate⟩
  · cases h
    exact .inl ⟨rfl, rfl⟩

theorem expect_eq {v : String} {s : State σ} {y : Step s Token} (hat : s.lookahead.isPunctuator v)
    (h : next s = .ok y) : ∃ x, expect v s = .ok x ∧ x.state = y.state := by
  have hcheck : (if y.value.isPunctuator v then pure () else unexpected y.value : Parser σ Unit)
      y.state = .ok ⟨(), y.state, y.state.since_self⟩ := by
    rw [(next_spec h).1, hat]
    rfl
  obtain ⟨x, hx, -, hstate⟩ :=
    bind_eq (f := fun t : Token => if t.isPunctuator v then pure () else unexpected t) h hcheck
  exact ⟨x, hx, hstate⟩

theorem iterateFrom_inl {step : α → Parser σ (α ⊕ β)} {fuel : Nat} {a a' : α} {s : State σ}
    {y : Step s (α ⊕ β)} {z : Step y.state β} (hy : step a s = .ok y) (hvalue : y.value = .inl a')
    (hz : iterateFrom step fuel a' y.state = .ok z) :
    ∃ x, iterateFrom step (fuel + 1) a s = .ok x ∧ x.state = z.state := by
  rw [iterateFrom]
  simp only [bind, andThen, hy, hvalue, hz]
  exact ⟨_, rfl, rfl⟩

/-! ## States in front of expressions -/

theorem next_opened {s : State σ} {x : Step s Token} (h : next s = .ok x) :
    ∃ y, next s.opened = .ok y ∧ y.state = x.state.opened := by
  obtain ⟨mark, l, hgap, hlex, -, hstate⟩ := exists_of_next h
  obtain ⟨y, hy, -, hstate'⟩ := next_eq (s := s.opened) hgap hlex
  exact ⟨y, hy, by rw [hstate', hstate]; rfl⟩

theorem exists_of_next_opened {s : State σ} {y : Step s.opened Token} (h : next s.opened = .ok y) :
    ∃ x, next s = .ok x ∧ y.state = x.state.opened := by
  obtain ⟨mark, l, hgap, hlex, -, hstate⟩ := exists_of_next h
  obtain ⟨x, hx, -, hstate'⟩ := next_eq (s := s) hgap hlex
  exact ⟨x, hx, by rw [hstate', hstate]; rfl⟩

/-- Refuse an initial value that only a pattern could hold, and go back to what was known before. -/
def isolateEnd (before : Context) (a : α) : Parser σ α := do
  if let some t := (← Parser.context).initializer then unexpected t
  setContext fun c => { c with
    assignable := before.assignable
    bindable := before.bindable
    initializer := before.initializer }
  return a

theorem isolate_eq (p : Parser σ α) : isolate p = (do
    let before ← Parser.context
    setContext fun c => { c with assignable := true, bindable := true, initializer := none }
    p >>= isolateEnd before) :=
  rfl

theorem isolateEnd_eq (before : Context) (a : α) {s : State σ} (h : s.context.initializer = none) :
    ∃ x, isolateEnd before a s = .ok x ∧ x.state.opened = s.opened := by
  rw [isolateEnd, look_bind (a := s.context) rfl, h]
  exact ⟨_, rfl, rfl⟩

theorem exists_isolate {p : Parser σ α} {s : State σ} {y : Step s.opened α}
    (h : p s.opened = .ok y) (hinit : y.state.context.initializer = none) :
    ∃ x, isolate p s = .ok x ∧ x.state.opened = y.state.opened := by
  obtain ⟨z, hz, hopened⟩ := isolateEnd_eq s.context y.value hinit
  obtain ⟨w, hw, -, hwstate⟩ := bind_eq h hz
  obtain ⟨x, hx, -, hstate⟩ := bind_eq (s := s)
    (p := setContext fun c => { c with assignable := true, bindable := true, initializer := none })
    (f := fun _ => p >>= isolateEnd s.context) rfl hw
  refine ⟨x, ?_, by rw [hstate, hwstate, hopened]⟩
  rw [isolate_eq, look_bind (a := s.context) rfl]
  exact hx

theorem exists_of_isolate {p : Parser σ α} {s : State σ} {x : Step s α} (h : isolate p s = .ok x) :
    ∃ y : Step s.opened α, p s.opened = .ok y ∧ y.state.context.initializer = none := by
  rw [isolate_eq, look_bind (a := s.context) rfl] at h
  obtain ⟨a, b, ha, hb, -, -⟩ := exists_of_bind h
  cases ha
  obtain ⟨y, z, hy, hz, -, -⟩ := exists_of_bind hb
  refine ⟨y, hy, ?_⟩
  rw [isolateEnd, look_bind (a := y.state.context) rfl] at hz
  cases hinit : y.state.context.initializer with
  | none => rfl
  | some t =>
    rw [hinit] at hz
    cases hz

end Parser

theorem State.Matches.start_le {s : State σ.wrapped} {s' : State σ.padded} (h : s.Matches s') :
    s.lookahead.start ≤ σ.closing := by
  rcases h with h | h
  · exact Nat.le_of_lt h.start_lt
  · exact Nat.le_of_eq h.closing.start_eq

theorem State.Matches.isPunctuator_eq {s : State σ.wrapped} {s' : State σ.padded}
    (h : s.Matches s') (v : String) [hv : Other v] :
    s'.lookahead.isPunctuator v = s.lookahead.isPunctuator v := by
  rcases h with h | h
  · rw [h.lookahead]
  · rw [isPunctuator_closing h.closing, Token.isPunctuator, h.kind]
    rfl

theorem State.Matches.opened {s : State σ.wrapped} {s' : State σ.padded} (h : s.Matches s') :
    s.opened.Matches s'.opened := by
  let f (c : Context) : Context :=
    { c with assignable := true, bindable := true, initializer := none }
  have hend : s.opened.lookahead.start ≤ σ.closing := h.start_le
  obtain ⟨y, hy, -, hmatches⟩ := MatchedFreely.run (p := setContext f) (q := setContext f) h rfl hend
  cases hy
  exact hmatches

theorem State.Fits.opened {s : State σ.wrapped} (h : s.Fits) : s.opened.Fits :=
  ⟨h.start_le, h.allows⟩

/-! ## Operands and their commas -/

namespace Parser

variable {s : State σ.wrapped} {s' : State σ.padded}

theorem exists_expect {v : String} (hs : s.opened.Matches s'.opened) {x : Step s Unit}
    (hx : expect v s = .ok x) (hend : x.state.lookahead.start ≤ σ.closing) :
    ∃ y, expect v s' = .ok y ∧ x.state.opened.Matches y.state.opened := by
  obtain ⟨hat, y, hy, hstate⟩ := exists_of_expect hx
  obtain ⟨z, hz, hopened⟩ := next_opened hy
  obtain ⟨w, hw, hwstate⟩ := expect_eq (s := s.opened) hat hz
  have hwopened : w.state = x.state.opened := by rw [hwstate, hopened, hstate]
  obtain ⟨w', hw', -, hmatches⟩ :=
    MatchedFreely.run (q := expect v) hs hw (by rw [hwopened]; exact hend)
  obtain ⟨hat', z', hz', hstate'⟩ := exists_of_expect hw'
  obtain ⟨y', hy', hopened'⟩ := exists_of_next_opened hz'
  obtain ⟨x', hx', hxstate'⟩ := expect_eq (s := s') hat' hy'
  refine ⟨x', hx', ?_⟩
  rw [hwopened, hstate', hopened', ← hxstate'] at hmatches
  exact hmatches

theorem initializer_of_inherit {s : State σ} {p : Parser σ α} {x : Step s α}
    (hx : inherit p s = .ok x) (hinit : x.state.context.initializer = none) :
    s.context.initializer = none := by
  obtain ⟨y, -, -, -, hcontext⟩ := exists_of_inherit hx
  exact ((Option.orElse_eq_none _ _).mp (hcontext.symm.trans hinit)).1

/-- What is read as a part of the parameters of an arrow function, if it turns out to be one, is read
as an expression that stands for itself if nothing in it asks for a pattern. -/
theorem isolate_of_inherit {p : Parser σ.wrapped α} {q : Parser σ.padded α} [Matched p q]
    (hs : s.opened.Matches s'.opened) {x : Step s α} (hx : inherit p s = .ok x)
    (hend : x.state.Fits) (hinit : x.state.context.initializer = none) :
    ∃ y, isolate q s' = .ok y ∧ x.state.opened.Matches y.state.opened := by
  obtain ⟨y, hy, -, hstate, hcontext⟩ := exists_of_inherit hx
  have hinside := ((Option.orElse_eq_none _ _).mp (hcontext.symm.trans hinit)).2
  have hopened : y.state.opened.Fits := hstate ▸ hend.opened
  obtain ⟨y', hy', -, hmatches⟩ := Matched.run (q := q) hs hy ⟨hopened.start_le, hopened.allows⟩
  obtain ⟨z, hz, hopened⟩ := exists_isolate hy' (by rw [hmatches.context]; exact hinside)
  refine ⟨z, hz, ?_⟩
  rw [hstate, hopened]
  exact hmatches.opened

end Parser

namespace Grammar

/-- Read an expression of a group with the comma in front of it, or find out how the group goes on. -/
def groupStep (nest : Nest σ) (read : List Form) : Parser σ (List Form ⊕ Form × Bool) := do
  if !(← isAt ",") then return .inr (.sequence read.reverse, false)
  expect ","
  if ← accept ")" then return .inr (.parameters read.reverse false, true)
  else if ← isAt "..." then
    unless (← context).bindable do unexpected (← peek)
    let rest ← restParameter nest
    expect ")"
    expectArrow
    setContext fun c => { c with bindable := false }
    return .inr (.parameters (rest :: read).reverse false, true)
  else return .inl ((← inherit (nest .assignment)) :: read)

theorem groupRest_eq (nest : Nest σ) (first : Form) :
    groupRest nest first = iterate [first] (groupStep nest) :=
  rfl

/-- Read an expression with the comma in front of it, if there is one. -/
def commaStep (nest : Nest σ) (read : List Form) : Parser σ (List Form ⊕ List Form) := do
  let ends ← (return !(← isAt ",") : Parser σ Bool)
  if ends then return .inr read.reverse
  else
    let form ← (do
      expect ","
      isolate (nest .assignment) : Parser σ Form)
    return .inl (form :: read)

section Comma

variable {nest : Nest σ} (read : List Form) {s : State σ}

theorem commaStep_done (hat : s.lookahead.isPunctuator "," = false) :
    commaStep nest read s = .ok ⟨.inr read.reverse, s, s.since_self⟩ := by
  have hends : (return !(← isAt ",") : Parser σ Bool) s = .ok ⟨true, s, s.since_self⟩ := by
    rw [look_bind (isAt_eq "," s), hat]
    rfl
  rw [commaStep, look_bind hends]
  rfl

theorem exists_commaStep (hat : s.lookahead.isPunctuator "," = true) {y : Step s Unit}
    {z : Step y.state Form} (hy : expect "," s = .ok y)
    (hz : isolate (nest .assignment) y.state = .ok z) :
    ∃ x, commaStep nest read s = .ok x ∧ x.value = .inl (z.value :: read) ∧ x.state = z.state := by
  have hends : (return !(← isAt ",") : Parser σ Bool) s = .ok ⟨false, s, s.since_self⟩ := by
    rw [look_bind (isAt_eq "," s), hat]
    rfl
  obtain ⟨w, hw, hvalue, hstate⟩ := bind_eq (f := fun _ => isolate (nest .assignment)) hy hz
  obtain ⟨x, hx, hxvalue, hxstate⟩ := bind_eq
    (f := fun form => (pure (.inl (form :: read)) : Parser σ (List Form ⊕ List Form))) hw rfl
  refine ⟨x, ?_, ?_, ?_⟩
  · rw [commaStep, look_bind hends]
    exact hx
  · rw [hxvalue, hvalue]
  · rw [hxstate, hstate]

end Comma

/-- Read what stands behind the first expression of a sequence. -/
def commas (nest : Nest σ) (first : Form) : Parser σ Form := do
  if ← isAt "," then
    let rest ← iterate [] (commaStep nest)
    return .sequence (first :: rest)
  else return first

theorem expression_eq (nest : Nest σ) :
    expression nest = isolate (nest .assignment) >>= commas nest :=
  rfl

theorem state_of_expectArrow {s : State σ} {x : Step s Unit} (h : expectArrow s = .ok x) :
    x.state = s := by
  rw [expectArrow, look_bind (isAt_eq "=>" s)] at h
  cases hat : s.lookahead.isPunctuator "=>" with
  | true =>
    rw [hat] at h
    cases h
    rfl
  | false =>
    rw [hat] at h
    have hfalse := (exists_of_expect h).1
    rw [hat] at hfalse
    cases hfalse

theorem exists_of_groupStep {nest : Nest σ} {read : List Form} {s : State σ}
    {x : Step s (List Form ⊕ Form × Bool)} (hx : groupStep nest read s = .ok x) :
    (s.lookahead.isPunctuator "," = false ∧ x.value = .inr (.sequence read.reverse, false) ∧
        x.state = s) ∨
      (s.lookahead.isPunctuator "," = true ∧ ∃ (y : Step s Unit) (z : Step y.state Form),
        expect "," s = .ok y ∧ inherit (nest .assignment) y.state = .ok z ∧
          x.value = .inl (z.value :: read) ∧ x.state = z.state) ∨
      ∃ members, x.value = .inr (.parameters members false, true) ∧
        x.state.lastIndex ≤ x.state.lookahead.start := by
  rw [groupStep, look_bind (isAt_eq "," s)] at hx
  cases hat : s.lookahead.isPunctuator "," with
  | false =>
    rw [hat] at hx
    cases hx
    exact .inl ⟨rfl, rfl, rfl⟩
  | true =>
    rw [hat] at hx
    obtain ⟨y, z, hy, hz, hvalue, hstate⟩ := exists_of_bind hx
    obtain ⟨b, w, hb, hw, hvalue', hstate'⟩ := exists_of_bind hz
    rw [hvalue, hvalue', hstate, hstate']
    obtain ⟨closes, u, hu⟩ := b
    rcases exists_of_accept hb with ⟨rfl, rfl⟩ | ⟨hclose, t, ht, hread⟩
    · rw [if_neg Bool.false_ne_true, look_bind (isAt_eq "..." _)] at hw
      split at hw
      · rw [look_bind (a := y.state.context) rfl] at hw
        dsimp only at hw
        split at hw
        · obtain ⟨rest, w₁, -, hw₁, hvalue₁, hstate₁⟩ := exists_of_bind hw
          obtain ⟨c, w₂, hc, hw₂, hvalue₂, hstate₂⟩ := exists_of_bind hw₁
          obtain ⟨d, w₃, hd, hw₃, hvalue₃, hstate₃⟩ := exists_of_bind hw₂
          cases hw₃
          refine .inr (.inr ⟨_, hvalue₁.trans (hvalue₂.trans hvalue₃), ?_⟩)
          rw [hstate₁, hstate₂, hstate₃]
          dsimp only
          rw [state_of_expectArrow hd]
          exact (lastIndex_of_expect hc).2
        · cases hw
      · obtain ⟨v, q, hv, hq, hvalue₁, hstate₁⟩ := exists_of_bind hw
        cases hq
        exact .inr (.inl ⟨rfl, y, v, hy, hv, hvalue₁, hstate₁⟩)
    · rw [hclose] at hw
      cases hw
      exact .inr (.inr ⟨_, rfl, by rw [hread]; exact (lastIndex_of_next ht).2⟩)

/-- Where the rest of a group makes it the parameters of an arrow function, it is read to its end. -/
theorem parameters_of_groupRest {nest : Nest σ} {fuel : Nat} {read : List Form} {s : State σ}
    {x : Step s (Form × Bool)} (hx : iterateFrom (groupStep nest) fuel read s = .ok x)
    (harrow : x.value.2 = true) :
    (∃ members, x.value.1 = .parameters members false) ∧
      x.state.lastIndex ≤ x.state.lookahead.start := by
  induction fuel generalizing read s with
  | zero => cases hx
  | succ fuel ih =>
    obtain ⟨y, z, hy, hz, hvalue, hstate⟩ := exists_of_bind hx
    rw [hvalue] at harrow ⊢
    rw [hstate]
    rcases exists_of_groupStep hy with ⟨-, hinr, -⟩ | ⟨-, u, w, -, -, hinl, -⟩ |
      ⟨members, hinr, hlast⟩
    · rw [hinr] at hz
      cases hz
      cases harrow
    · rw [hinl] at hz
      exact ih hz harrow
    · rw [hinr] at hz
      cases hz
      exact ⟨⟨members, rfl⟩, hlast⟩

/-- An initial value that only a pattern could hold is not forgotten up to the end of a group. -/
theorem initializer_of_groupRest {nest : Nest σ} {fuel : Nat} {read : List Form} {s : State σ}
    {x : Step s (Form × Bool)} (hx : iterateFrom (groupStep nest) fuel read s = .ok x)
    (hplain : x.value.2 = false) (hinit : x.state.context.initializer = none) :
    s.context.initializer = none := by
  induction fuel generalizing read s with
  | zero => cases hx
  | succ fuel ih =>
    obtain ⟨y, z, hy, hz, hvalue, hstate⟩ := exists_of_bind hx
    rw [hvalue] at hplain
    rw [hstate] at hinit
    rcases exists_of_groupStep hy with ⟨-, hinr, hsame⟩ | ⟨-, u, w, hu, hw, hinl, hsame⟩ |
      ⟨members, hinr, -⟩
    · rw [hinr] at hz
      cases hz
      rwa [hsame] at hinit
    · rw [hinl] at hz
      have hinner := ih hz hplain hinit
      rw [hsame] at hinner
      have hcomma := initializer_of_inherit hw hinner
      rwa [context_of_expect hu] at hcomma
    · rw [hinr] at hz
      cases hz
      cases hplain

variable {nest : Nest σ.wrapped} (nest' : Nest σ.padded) [MatchedNest nest nest']
  {s : State σ.wrapped} {s' : State σ.padded}

/-- The rest of a group is read as the rest of an expression. -/
theorem exists_commas {fuel : Nat} {read : List Form} (read' : List Form)
    (hs : s.opened.Matches s'.opened) (hkept : s.Kept true) {x : Step s (Form × Bool)}
    (hx : iterateFrom (groupStep nest) fuel read s = .ok x) (hplain : x.value.2 = false)
    (hend : x.state.lookahead.start ≤ σ.closing) (hinit : x.state.context.initializer = none) :
    ∃ y, iterateFrom (commaStep nest') fuel read' s' = .ok y ∧
      x.state.opened.Matches y.state.opened := by
  induction fuel generalizing read read' s s' with
  | zero => cases hx
  | succ fuel ih =>
    obtain ⟨y, z, hy, hz, hvalue, hstate⟩ := exists_of_bind hx
    rw [hvalue] at hplain
    rw [hstate] at hend hinit ⊢
    have hat : s'.lookahead.isPunctuator "," = s.lookahead.isPunctuator "," :=
      hs.isPunctuator_eq ","
    rcases exists_of_groupStep hy with ⟨hcomma, hinr, hsame⟩ | ⟨hcomma, u, w, hu, hw, hinl, hsame⟩ |
      ⟨members, hinr, -⟩
    · rw [hinr] at hz
      cases hz
      rw [hsame]
      refine ⟨⟨read'.reverse, s', s'.since_self⟩, ?_, hs⟩
      rw [iterateFrom, look_bind (commaStep_done read' (hat.trans hcomma))]
      rfl
    · rw [hinl] at hz
      have hinner := initializer_of_groupRest hz hplain hinit
      have hnext := Nat.le_trans z.since hend
      rw [hsame] at hinner hnext
      obtain ⟨u', hu', hs₁⟩ := exists_expect hs hu (Nat.le_trans w.since hnext)
      have hkept' := Matched.kept (Parser.inherit (nest' .assignment))
        (Matched.kept (expect ",") hkept hu) hw
      obtain ⟨w', hw', hs₂⟩ :=
        isolate_of_inherit (q := nest' .assignment) hs₁ hw (hkept'.fits hnext) hinner
      rw [← hsame] at hs₂ hkept'
      obtain ⟨y', hy', hyvalue, hystate⟩ :=
        exists_commaStep read' (hat.trans hcomma) hu' hw'
      rw [← hystate] at hs₂
      obtain ⟨z', hz', hs₃⟩ := ih (w'.value :: read') hs₂ hkept' hz hplain hend hinit
      obtain ⟨x', hx', hxstate⟩ := iterateFrom_inl hy' hyvalue hz'
      exact ⟨x', hx', by rw [hxstate]; exact hs₃⟩
    · rw [hinr] at hz
      cases hz
      cases hplain

theorem exists_of_groupEnd {s : State σ} {content : Form × Bool} {x : Step s Form}
    (hx : groupEnd content s = .ok x) :
    content.2 = true ∧ x.value = content.1 ∧ x.state = s ∨
      content.2 = false ∧ ∃ y, expect ")" s = .ok y ∧
        x.state = { y.state with context := { y.state.context with bindable := false } } := by
  obtain ⟨form, isArrow⟩ := content
  cases isArrow with
  | true =>
    cases hx
    exact .inl ⟨rfl, rfl, rfl⟩
  | false =>
    refine .inr ⟨rfl, ?_⟩
    obtain ⟨y, z, hy, hz, -, hstate⟩ := exists_of_bind hx
    refine ⟨y, hy, ?_⟩
    rw [hstate]
    rw [look_bind (isAt_eq "=>" y.state)] at hz
    dsimp only at hz
    split at hz
    · split at hz
      · cases hz
        rfl
      · rw [look_bind (a := y.state.context) rfl] at hz
        split at hz
        · cases hz
          rfl
        · cases hz
    · cases hz
      rfl

/-- The expressions of a group behind the first one: there are none, or they are read up to the
closing parenthesis. -/
inductive Operands (nest : Nest σ) (first : Form) (s : State σ) : State σ → Prop
  | none (hat : s.lookahead.isPunctuator "," = false) : Operands nest first s s
  | some (hat : s.lookahead.isPunctuator "," = true)
      {x : Step { s with context := { s.context with assignable := false } } (Form × Bool)}
      (hx : groupRest nest first { s with context := { s.context with assignable := false } } = .ok x)
      (hplain : x.value.2 = false) : Operands nest first s x.state

/-- A group is the parameters of an arrow function and has been read to its end, or it ends behind its
expressions. -/
theorem exists_of_groupTail {nest : Nest σ} {first : Form} {s : State σ} {x : Step s Form}
    (hx : groupTail nest first s = .ok x) :
    (∃ members, x.value = .parameters members false) ∧
        x.state.lastIndex ≤ x.state.lookahead.start ∨
      ∃ t, Operands nest first s t ∧ ∃ y : Step t Unit, expect ")" t = .ok y ∧
        x.state = { y.state with context := { y.state.context with bindable := false } } := by
  rw [groupTail, look_bind (isAt_eq "," s)] at hx
  cases hat : s.lookahead.isPunctuator "," with
  | false =>
    rw [hat, if_neg Bool.false_ne_true, look_bind (a := (first, false)) rfl] at hx
    rcases exists_of_groupEnd hx with ⟨⟨⟩, -⟩ | ⟨-, hy⟩
    exact .inr ⟨s, .none hat, hy⟩
  | true =>
    rw [hat, if_pos rfl] at hx
    obtain ⟨a, b, ha, hb, hvalue, hstate⟩ := exists_of_bind hx
    cases ha
    obtain ⟨y, z, hy, hz, hvalue', hstate'⟩ := exists_of_bind hb
    rw [hvalue, hvalue', hstate, hstate']
    rcases exists_of_groupEnd hz with ⟨harrow, hform, hsame⟩ | ⟨hplain, hend⟩
    · obtain ⟨hmembers, hlast⟩ := parameters_of_groupRest hy harrow
      rw [hform, hsame]
      exact .inl ⟨hmembers, hlast⟩
    · exact .inr ⟨y.state, .some hat hy hplain, hend⟩

theorem exists_of_group {nest : Nest σ} {s : State σ} {x : Step s Form}
    (hx : group nest s = .ok x) :
    (∃ members, x.value = .parameters members false) ∧
        x.state.lastIndex ≤ x.state.lookahead.start ∨
      ∃ a : Step s Unit, expect "(" s = .ok a ∧
        ∃ b : Step { a.state with context := { a.state.context with bindable := true } } Form,
          inherit (nest .assignment) _ = .ok b ∧
        ∃ t, Operands nest b.value b.state t ∧ ∃ y : Step t Unit, expect ")" t = .ok y ∧
          x.state = { y.state with context := { y.state.context with bindable := false } } := by
  rw [group_eq] at hx
  obtain ⟨a, w, ha, hw, hvalue, hstate⟩ := exists_of_bind hx
  obtain ⟨b, v, hb, hv, hvalue', hstate'⟩ := exists_of_bind hw
  rw [hvalue, hvalue', hstate, hstate']
  obtain ⟨closes, u, hu⟩ := b
  rcases exists_of_accept hb with ⟨rfl, rfl⟩ | ⟨rfl, t, ht, hread⟩
  · rw [if_neg Bool.false_ne_true, look_bind (isAt_eq "..." _)] at hv
    split at hv
    · obtain ⟨rest, w₁, -, hw₁, hvalue₁, hstate₁⟩ := exists_of_bind hv
      obtain ⟨c, w₂, hc, hw₂, hvalue₂, hstate₂⟩ := exists_of_bind hw₁
      obtain ⟨d, w₃, hd, hw₃, hvalue₃, hstate₃⟩ := exists_of_bind hw₂
      cases hw₃
      refine .inl ⟨⟨_, hvalue₁.trans (hvalue₂.trans hvalue₃)⟩, ?_⟩
      rw [hstate₁, hstate₂, hstate₃]
      dsimp only
      rw [state_of_expectArrow hd]
      exact (lastIndex_of_expect hc).2
    · obtain ⟨c, d, hc, hd, hvalue₁, hstate₁⟩ := exists_of_bind hv
      cases hc
      obtain ⟨e, f, he, hf, hvalue₂, hstate₂⟩ := exists_of_bind hd
      rw [hvalue₁, hvalue₂, hstate₁, hstate₂]
      rcases exists_of_groupTail hf with hparameters | ⟨t, ht, y, hy, hend⟩
      · exact .inl hparameters
      · exact .inr ⟨a, ha, e, he, t, ht, y, hy, hend⟩
  · rw [if_pos rfl] at hv
    obtain ⟨c, d, hc, hd, hvalue₁, hstate₁⟩ := exists_of_bind hv
    cases hd
    refine .inl ⟨⟨[], hvalue₁⟩, ?_⟩
    rw [hstate₁]
    dsimp only
    rw [state_of_expectArrow hc, hread]
    exact (lastIndex_of_next ht).2

theorem initializer_of_operands {nest : Nest σ} {first : Form} {s t : State σ}
    (h : Operands nest first s t) (hinit : t.context.initializer = none) :
    s.context.initializer = none := by
  cases h with
  | none hat => exact hinit
  | @some hat x hx hplain =>
    have hnone := initializer_of_groupRest (x := x) hx hplain hinit
    exact hnone

theorem start_le_of_operands {nest : Nest σ} {first : Form} {s t : State σ}
    (h : Operands nest first s t) : s.lookahead.start ≤ t.lookahead.start := by
  cases h with
  | none hat => exact Nat.le_refl _
  | @some hat x hx hplain => exact x.since

include nest' in
theorem kept_of_operands [BlockedNest nest] {b : Bool} {t : State σ.wrapped} {first : Form}
    (hs : s.Kept b) (h : Operands nest first s t) : t.Kept b := by
  cases h with
  | none hat => exact hs
  | @some hat x hx hplain =>
    exact Matched.kept (x := x) (groupRest nest' first) (hs.congr rfl rfl rfl) hx

theorem exists_of_operands {t : State σ.wrapped} {first : Form} (first' : Form)
    (hs : s.opened.Matches s'.opened) (hkept : s.Kept true) (h : Operands nest first s t)
    (hend : t.lookahead.start ≤ σ.closing) (hinit : t.context.initializer = none) :
    ∃ y, commas nest' first' s' = .ok y ∧ t.opened.Matches y.state.opened := by
  have hat' : s'.lookahead.isPunctuator "," = s.lookahead.isPunctuator "," := hs.isPunctuator_eq ","
  cases h with
  | none hat =>
    refine ⟨⟨first', s', s'.since_self⟩, ?_, hs⟩
    rw [commas, look_bind (isAt_eq "," s'), hat', hat]
    rfl
  | @some hat x hx hplain =>
    rw [groupRest_eq, iterate, ← maxSteps_padded] at hx
    have hopened : State.Matches
        (State.opened { s with context := { s.context with assignable := false } }) s'.opened := hs
    obtain ⟨y, hy, hmatches⟩ :=
      exists_commas nest' [] hopened (hkept.congr rfl rfl rfl) hx hplain hend hinit
    obtain ⟨z, hz, -, hstate⟩ := bind_eq
      (f := fun rest => (pure (.sequence (first' :: rest)) : Parser σ.padded Form)) hy rfl
    refine ⟨z, ?_, by rw [hstate]; exact hmatches⟩
    rw [commas, look_bind (isAt_eq "," s'), hat', hat]
    exact hz

end Grammar

/-! ## The first token -/

namespace Parser

theorem exists_of_start {s : State σ} {x : Step s Unit} (h : start .classic s = .ok x) :
    ∃ y, next s = .ok y ∧ x.state =
      { y.state with lastIndex := y.state.cursor.index, lastLine := y.state.cursor.line } := by
  obtain ⟨y, z, hy, hz, -, hstate⟩ := exists_of_bind h
  cases hz
  exact ⟨y, hy, hstate⟩

theorem exists_start {s : State σ} {y : Step s Token} (h : next s = .ok y) :
    ∃ x, start .classic s = .ok x ∧ x.state =
      { y.state with lastIndex := y.state.cursor.index, lastLine := y.state.cursor.line } := by
  have hrest : ∃ z : Step y.state Unit, (do
      passFirst
      if Mode.classic = .module then
        setContext fun c => { c with strict := true, isModule := true }
        endSloppy : Parser σ Unit) y.state = .ok z ∧ z.state =
      { y.state with lastIndex := y.state.cursor.index, lastLine := y.state.cursor.line } :=
    ⟨_, rfl, rfl⟩
  obtain ⟨z, hz, hstate⟩ := hrest
  obtain ⟨x, hx, -, hxstate⟩ := bind_eq (f := fun _ => _) h hz
  exact ⟨x, hx, hxstate.trans hstate⟩

end Parser

/-- The added parenthesis is ahead, and the text behind it. -/
structure State.Opening (s : State σ.wrapped) : Prop where
  cursor : s.cursor = ⟨σ.text ++ [')'], 1, 1⟩
  braces : s.braces = []
  sloppy : s.sloppy = true
  context : s.context = {}
  start : s.lookahead.start = 0
  line : s.lookahead.line = 1
  isAt : s.lookahead.isPunctuator "("

theorem lex_open {c : Cursor} {t : Text} (h : c.rest = '(' :: t) (braces : List Bool) :
    lex braces c = .ok (.punctuator braces c "(") := by
  unfold lex
  rw [h]
  exact lexPunctuator_cons braces h (by decide) (by decide) nofun

theorem cursor_initial (hlength : σ.length ≠ 0) :
    (State.initial σ).cursor = ⟨σ.text, 0, 1⟩ ∧ (State.initial σ).lookahead.line = 1 := by
  rw [State.initial]
  exact ⟨by rw [if_neg hlength], if_neg hlength⟩

theorem length_wrapped_ne : σ.wrapped.length ≠ 0 := by
  rw [Source.length_wrapped]
  exact Nat.succ_ne_zero _

theorem State.opening_of_next {x : Step (.initial σ.wrapped) Token}
    (hx : next (.initial σ.wrapped) = .ok x) : x.state.Opening := by
  obtain ⟨mark, l, hgap, hlex, -, hstate⟩ := exists_of_next hx
  have hcursor := (cursor_initial (σ := σ.wrapped) length_wrapped_ne).1
  have hsame : Cursor.skipGap true ⟨σ.wrapped.text, 0, 1⟩ = .ok ⟨σ.wrapped.text, 0, 1⟩ := rfl
  rw [hcursor] at hgap
  cases hsame.symm.trans hgap
  have hopen := lex_open (c := ⟨σ.wrapped.text, 0, 1⟩) (t := σ.text ++ [')']) rfl []
  cases hopen.symm.trans hlex
  rw [hstate]
  exact ⟨rfl, rfl, rfl, rfl, rfl, rfl, rfl⟩

theorem State.Opening.leading_eq {s : State σ.wrapped} (h : s.Opening) :
    { s with context := { s.context with assignable := true, bindable := true } } = s.leading := by
  rw [State.leading, State.opened, h.context]

/-- In front of the text `yield` is a name. -/
theorem State.Opening.kept {s : State σ.wrapped} (h : s.Opening) : s.leading.Kept true := by
  have hstart : s.leading.lookahead.start = 0 := h.start
  have hat : s.leading.lookahead.isPunctuator "(" := h.isAt
  rw [Token.isPunctuator, Bool.and_eq_true, beq_iff_eq] at hat
  refine ⟨fun heq => ?_, fun hlt => ?_, fun hword => ?_, fun _ => ?_⟩
  · exact absurd (hstart.symm.trans heq) (Nat.ne_of_lt (Nat.succ_pos _))
  · rw [hstart] at hlt
    exact absurd hlt (Nat.not_lt_zero _)
  · rw [Token.isContextual, hat.1] at hword
    cases hword
  · rw [State.leading, State.opened, h.context]

theorem State.opening_of_start {x : Step (.initial σ.wrapped) Unit}
    (hx : start .classic (.initial σ.wrapped) = .ok x) : x.state.Opening := by
  obtain ⟨y, hy, hstate⟩ := exists_of_start hx
  obtain ⟨hcursor, hbraces, hsloppy, hcontext, hstart, hline, hat⟩ := State.opening_of_next hy
  rw [hstate]
  exact ⟨hcursor, hbraces, hsloppy, hcontext, hstart, hline, hat⟩

/-- No operand starts with a decrement in front of a bracket. -/
theorem read_assignment_ne_ok {k : Nat} {s : State σ} {mark : Cursor} {t : Text}
    {x : Step s Token} (hx : next s = .ok x) (hgap : s.cursor.skipGap s.sloppy = .ok mark)
    (hmark : mark.rest = '-' :: '-' :: '>' :: t) (y : Step x.state.opened Form) :
    (Grammar.read k : Nest σ) .assignment x.state.opened ≠ .ok y := by
  obtain ⟨mark', l, hgap', hlex, -, hstate⟩ := exists_of_next hx
  cases hgap.symm.trans hgap'
  cases (lex_dashes hmark _).symm.trans hlex
  have hahead : x.state.opened.lookahead = (Lexed.punctuator s.braces mark "--").token := by
    rw [State.lookahead_opened, hstate, State.lookahead_advance]
    exact Token.reserved_of_plain (by rintro ⟨⟩)
  have hrest : x.state.opened.cursor.rest = '>' :: t := by
    rw [State.cursor_opened, hstate]
    exact congrArg (List.drop 2) hmark
  cases k with
  | zero => exact nofun
  | succ k => exact Grammar.decrement_ne_ok (by rw [hahead]; rfl) hrest rfl y

/-- The first token of the text is read alike behind the added parenthesis and at the start of the
script, unless it is a decrement in front of a bracket, of which the start of a script makes a
comment. -/
theorem exists_start_of_opening {k : Nat} {s : State σ.wrapped} (h : s.Opening)
    {x : Step s.leading Unit} (hx : expect "(" s.leading = .ok x)
    (hend : x.state.lookahead.start ≤ σ.closing)
    (hoperand : ∃ z, (Grammar.read k : Nest σ.wrapped) .assignment x.state.opened = .ok z) :
    ∃ y, start .classic (.initial σ.padded) = .ok y ∧ x.state.opened.Matches y.state.opened := by
  obtain ⟨-, a, ha, hxstate⟩ := exists_of_expect hx
  obtain ⟨b, hb, hbstate⟩ := next_opened ha
  obtain ⟨hcursor, hline⟩ :=
    cursor_initial (σ := σ.padded) (by rw [Source.length_padded]; exact length_wrapped_ne)
  have hskip : Cursor.skipGap true ⟨σ.padded.text, 0, 1⟩ =
      skipGapFrom true .blank true (σ.text ++ [' ']) 1 1 := rfl
  have halike {mark : Cursor} (hgap : s.cursor.skipGap s.sloppy = .ok mark) :
      SkipsAlike mark ((State.initial σ.padded).cursor.skipGap true) := by
    have hfrom := hgap
    rw [h.cursor, h.sloppy, Cursor.skipGap] at hfrom
    rw [hcursor, hskip]
    rcases skipsAlike_skipGapFrom ⟨σ.text, rfl, rfl⟩ (fun _ => rfl) hfrom with halike | ⟨-, -, t, ht⟩
    · exact halike
    · rw [hxstate] at hoperand
      obtain ⟨z, hz⟩ := hoperand
      exact absurd hz (read_assignment_ne_ok ha hgap ht.symm z)
  have hcontext : (State.initial σ.padded).opened.context = s.leading.opened.context :=
    (congrArg (fun c : Context =>
      { c with assignable := true, bindable := true, initializer := none, allowsIn := true })
      h.context).symm
  obtain ⟨c, hc, hmatches⟩ : ∃ c, next (State.initial σ.padded).opened = .ok c ∧
      b.state.Matches c.state :=
    State.exists_next h.braces.symm h.sloppy.symm hcontext (by rw [← hcontext]; rfl)
      (hline.trans h.line.symm) halike hb
      (by rw [hbstate, State.lookahead_opened, ← hxstate]; exact hend)
  obtain ⟨d, hd, hcstate⟩ := exists_of_next_opened hc
  obtain ⟨y, hy, hystate⟩ := exists_start hd
  refine ⟨y, hy, ?_⟩
  rw [hbstate, hcstate] at hmatches
  rw [hxstate, hystate]
  exact hmatches.behind _ _ _ _ _ _

theorem soleExpression_of_expression {r : Step (.initial σ) Unit}
    (hr : start .classic (.initial σ) = .ok r) {w : Step r.state Form}
    (hw : Grammar.expression (Grammar.read (Grammar.depth σ)) r.state = .ok w)
    (hend : w.state.lookahead.kind = .endOfInput) :
    ∃ y, soleExpression (.initial σ) = .ok y := by
  have hlast : (do unless ← isAtEnd do unexpected (← peek) : Parser σ Unit) w.state =
      .ok ⟨(), w.state, w.state.since_self⟩ := by
    rw [look_bind (a := w.state.lookahead.kind == .endOfInput) rfl, hend]
    rfl
  obtain ⟨z, hz, -, -⟩ := bind_eq
    (f := fun _ => (do unless ← isAtEnd do unexpected (← peek) : Parser σ Unit)) hw hlast
  obtain ⟨y, hy, -, -⟩ := bind_eq (f := fun _ => (do
    let _ ← Grammar.expression (Grammar.read (Grammar.depth σ))
    unless ← isAtEnd do unexpected (← peek) : Parser σ Unit)) hr hz
  exact ⟨y, hy⟩

/-! ## Whole groups -/

open Grammar in
/-- A group that is closed by the closing parenthesis holds an expression. -/
theorem exists_soleExpression [EndsPlainly σ] {k : Nat} (hk : k ≤ depth σ.padded)
    {s : State σ.wrapped} (hs : s.Opening) {x : Step s.leading Form}
    (hx : group (read k) s.leading = .ok x) (hlast : σ.closing < x.state.lastIndex)
    (hform : σ.closing < x.state.lookahead.start → x.state.lookahead.kind = .endOfInput →
      (∀ members isAsync, x.value ≠ .parameters members isAsync) ∧
        x.state.context.initializer = none) :
    ∃ y, soleExpression (.initial σ.padded) = .ok y := by
  let nest : Nest σ.wrapped := read k
  let nest' : Nest σ.padded := read (depth σ.padded)
  have : MatchedNest nest nest' := matchedNest_read hk
  have hend := Matched.kept (group nest') hs.kept hx
  rcases exists_of_group hx with ⟨⟨members, hvalue⟩, hread⟩ | ⟨a, ha, b, hb, t, ht, c, hc, hstate⟩
  · have hlt := Nat.lt_of_lt_of_le hlast hread
    exact absurd hvalue ((hform hlt (hend.kind hlt)).1 members false)
  -- The closing parenthesis is ahead behind the expressions, and nothing is behind it.
  obtain ⟨hindex, hread⟩ := lastIndex_of_expect hc
  have hlt : σ.closing < x.state.lookahead.start := by
    rw [hstate] at hlast ⊢
    exact Nat.lt_of_lt_of_le hlast hread
  have hinit : t.context.initializer = none := by
    have hnone := (hform hlt (hend.kind hlt)).2
    rw [hstate] at hnone
    rwa [← context_of_expect hc]
  have hopened : State.Kept true
      { a.state with context := { a.state.context with bindable := true } } :=
    (Matched.kept (expect "(") hs.kept ha).congr rfl rfl rfl
  have hkept := Matched.kept (Parser.inherit (nest' .assignment)) hopened hb
  have hclosing : t.lookahead.start ≤ σ.closing := by
    by_contra hgt
    have hkind := (kept_of_operands nest' hkept ht).kind (Nat.lt_of_not_le hgt)
    have hat := (exists_of_expect hc).1
    rw [Token.isPunctuator, hkind] at hat
    cases hat
  -- The expression is read alike at the start of the padded text.
  have hoperands := start_le_of_operands ht
  obtain ⟨r, hr, hs₁⟩ := exists_start_of_opening hs ha
    (Nat.le_trans b.since (Nat.le_trans hoperands hclosing))
    (by obtain ⟨z, hz, -⟩ := exists_of_inherit hb; exact ⟨z, hz⟩)
  obtain ⟨y, hy, hs₂⟩ := isolate_of_inherit (q := nest' .assignment) (by exact hs₁) hb
    (hkept.fits (Nat.le_trans hoperands hclosing)) (initializer_of_operands ht hinit)
  obtain ⟨z, hz, hs₃⟩ := exists_of_operands nest' y.value hs₂ hkept ht hclosing hinit
  obtain ⟨w, hw, -, hwstate⟩ := bind_eq (f := commas nest') hy hz
  rw [← expression_eq] at hw
  have hkind : w.state.lookahead.kind = .endOfInput := by
    rw [hwstate]
    rcases hs₃ with hs₃ | hs₃
    · have hlength := Source.length_rest t.within
      have hpos := hs₃.cursor.rest.length_pos
      rw [State.cursor_opened] at hpos
      rw [hstate] at hlast
      dsimp only at hlast
      omega
    · exact hs₃.kind
  exact soleExpression_of_expression hr hw hkind

/-! ## Whole programs -/

theorem exists_of_manyUntil {test : Parser σ Bool} {p : Parser σ α} {s : State σ}
    (htest : test s = .ok ⟨false, s, s.since_self⟩) {x : Step s (List α)}
    (hx : manyUntil test p s = .ok x) : ∃ y, p s = .ok y := by
  obtain ⟨y, z, hy, -, -, -⟩ := exists_of_bind hx
  dsimp only at hy
  rw [look_bind htest] at hy
  obtain ⟨w, u, hw, -, -, -⟩ := exists_of_bind hy
  exact ⟨w, hw⟩

namespace Grammar

variable {nest : Nest σ} {s : State σ}

theorem directives_none (h : s.lookahead.kind ≠ .string) :
    directives nest s = .ok ⟨(), s, s.since_self⟩ := by
  refine iterate_done ?_
  rw [look_bind (a := s.lookahead) rfl, beq_eq_false_iff_ne.mpr h]
  rfl

/-- A statement that starts with a parenthesis is an expression. -/
theorem exists_of_item (hat : s.lookahead.isPunctuator "(") {x : Step s Unit}
    (hx : item nest s = .ok x) :
    ∃ y, isolate (nest .assignment)
      { s with context := { s.context with assignable := true, bindable := true } } = .ok y := by
  rw [Token.isPunctuator, Bool.and_eq_true, beq_iff_eq, beq_iff_eq] at hat
  obtain ⟨a, b, ha, hb, -, -⟩ := exists_of_bind hx
  cases ha
  rw [look_bind (a := s.lookahead) rfl, hat.1, if_pos (by decide), statement,
    look_bind (a := s.lookahead) rfl, hat.1] at hb
  dsimp only at hb
  rw [hat.2, if_neg (by decide), if_neg (by decide)] at hb
  obtain ⟨c, d, hc, -, -, -⟩ := exists_of_bind hb
  obtain ⟨y, z, hy, -, -, -⟩ := exists_of_bind hc
  exact ⟨y, hy⟩

end Grammar

/-! ## The parenthesis in front of a text -/

/-- Read the group that a script starts with, as its program does. -/
def openingGroup : Parser σ Form := do
  start .classic
  setContext fun c => { c with assignable := true, bindable := true }
  Grammar.group (Grammar.read (Grammar.depth σ - 2))

/-- The parenthesis that is put in front of the text is closed in the text itself. -/
def Source.ClosesInside (σ : Source) : Prop :=
  ∃ x : Step (.initial σ.wrapped) Form, openingGroup (.initial σ.wrapped) = .ok x ∧
    x.state.lastIndex ≤ σ.closing

theorem exists_openingGroup {a : Step (.initial σ.wrapped) Unit}
    (ha : start .classic (.initial σ.wrapped) = .ok a) {z : Step a.state.leading Form}
    (hz : Grammar.group (Grammar.read (Grammar.depth σ.wrapped - 2)) a.state.leading = .ok z) :
    ∃ x, openingGroup (.initial σ.wrapped) = .ok x ∧ x.state = z.state := by
  have hgroup : ∃ y : Step { a.state with
      context := { a.state.context with assignable := true, bindable := true } } Form,
      Grammar.group (Grammar.read (Grammar.depth σ.wrapped - 2)) _ = .ok y ∧ y.state = z.state := by
    rw [(State.opening_of_start ha).leading_eq]
    exact ⟨z, hz, rfl⟩
  obtain ⟨y, hy, hystate⟩ := hgroup
  obtain ⟨w, hw, -, hwstate⟩ := bind_eq (s := a.state)
    (p := setContext fun c => { c with assignable := true, bindable := true })
    (f := fun _ => Grammar.group (Grammar.read (Grammar.depth σ.wrapped - 2))) rfl hy
  obtain ⟨x, hx, -, hxstate⟩ := bind_eq (f := fun _ => (do
    setContext fun c => { c with assignable := true, bindable := true }
    Grammar.group (Grammar.read (Grammar.depth σ.wrapped - 2)) : Parser σ.wrapped Form)) ha hw
  exact ⟨x, hx, by rw [hxstate, hwstate, hystate]⟩

/-- A program in parentheses starts with a group. If the group is the whole program, no arrow has to
follow it, and it is no pattern. -/
theorem exists_group_of_program {x : Step (.initial σ.wrapped) Unit}
    (hx : program .classic (.initial σ.wrapped) = .ok x) :
    ∃ a, start .classic (.initial σ.wrapped) = .ok a ∧ ∃ z : Step a.state.leading Form,
      Grammar.group (Grammar.read (Grammar.depth σ.wrapped - 2)) a.state.leading = .ok z ∧
      (σ.closing < z.state.lookahead.start → z.state.lookahead.kind = .endOfInput →
        (∀ members isAsync, z.value ≠ .parameters members isAsync) ∧
          z.state.context.initializer = none) := by
  obtain ⟨a, b, ha, hb, -, -⟩ := exists_of_bind hx
  have hs := State.opening_of_start ha
  have hkind : a.state.lookahead.kind = .punctuator := by
    have hat := hs.isAt
    rw [Token.isPunctuator, Bool.and_eq_true, beq_iff_eq] at hat
    exact hat.1
  have hend : isAtEnd a.state = .ok ⟨false, a.state, a.state.since_self⟩ := by
    rw [isAtEnd, look_bind (a := a.state.lookahead) rfl, hkind]
    rfl
  obtain ⟨n, hn⟩ : ∃ n, Grammar.depth σ.wrapped = n + 2 := ⟨_, rfl⟩
  rw [hn] at hb ⊢
  dsimp only at hb
  rw [look_bind (Grammar.directives_none (by rw [hkind]; exact nofun))] at hb
  obtain ⟨c, d, hc, -, -, -⟩ := exists_of_bind hb
  obtain ⟨e, he⟩ := exists_of_manyUntil hend hc
  obtain ⟨f, g, hf, -, -, -⟩ := exists_of_bind he
  obtain ⟨i, hi⟩ := Grammar.exists_of_item hs.isAt hf
  obtain ⟨j, hj, hinit⟩ := exists_of_isolate hi
  obtain ⟨z, hz, hlast⟩ := Grammar.group_of_assignment (s := State.opened _) hs.isAt rfl hj
  refine ⟨a, ha, z, hz, fun hlt hkind => ?_⟩
  obtain ⟨hform, hcontext⟩ := hlast hlt hkind
  exact ⟨hform, hcontext.symm.trans hinit⟩

/-- What is accepted in parentheses is an expression, unless the text closes the first of them. -/
theorem soleExpression_of_parse [Grammar.EndsPlainly σ] {fragments : List Fragment}
    (h : parse .classic σ.wrapped = .ok fragments) :
    σ.ClosesInside ∨ ∃ y, soleExpression (.initial σ.padded) = .ok y := by
  obtain ⟨x, hx, -⟩ := eq_ok_of_bind h
  obtain ⟨a, ha, z, hz, hform⟩ := exists_group_of_program hx
  by_cases hinside : z.state.lastIndex ≤ σ.closing
  · obtain ⟨y, hy, hstate⟩ := exists_openingGroup ha hz
    exact .inl ⟨y, hy, by rw [hstate]; exact hinside⟩
  · have hdepth : Grammar.depth σ.wrapped - 2 ≤ Grammar.depth σ.padded := by
      rw [Grammar.depth, Grammar.depth, Source.length_padded]
      exact Nat.sub_le _ _
    exact .inr (exists_soleExpression hdepth (State.opening_of_start ha) hz
      (Nat.lt_of_not_le hinside) hform)

theorem wrapped_refused [Grammar.EndsPlainly σ]
    (hexpression : ∀ x, soleExpression (.initial σ.padded) ≠ .ok x)
    (hbroken : ∀ b, parse .classic σ.wrapped ≠ .error (.broken b)) (hinside : ¬ σ.ClosesInside) :
    ∃ e, parse .classic σ.wrapped = .error (.refused e) := by
  cases h : parse .classic σ.wrapped with
  | ok fragments =>
    rcases soleExpression_of_parse h with h | ⟨x, hx⟩
    · exact absurd h hinside
    · exact absurd hx (hexpression x)
  | error halt =>
    cases halt with
    | refused e => exact ⟨e, rfl⟩
    | broken b => exact absurd h (hbroken b)

/-! ## Expressions of templates -/

/-- What is neither an expression nor statements is skipped with a note, unless it closes the
parenthesis that is put in front of it, or has a getter, behind which `yield` is an operator, and ends
in a `yield`. -/
theorem extractExpression_skipped {document : Text} {start stop : Int} {e : SyntaxError}
    (hexpression : ∀ x, soleExpression (.initial (Source.embedded document start stop).padded) ≠ .ok x)
    (hstatements : parse .classic (.embedded document start stop) = .error (.refused e))
    (hbroken : ∀ b, parse .classic (Source.embedded document start stop).wrapped ≠ .error (.broken b))
    (hinside : ¬ (Source.embedded document start stop).ClosesInside)
    (hyield : Grammar.HasWord (document.slice start stop) "get" →
      ¬ Grammar.EndsInYield (document.slice start stop)) :
    extractExpression document start stop =
      ⟨[.skippedExpression (document.lineColumn start).1 (document.lineColumn start).2
        (document.slice start stop)], .ok []⟩ := by
  have : Grammar.EndsPlainly (Source.embedded document start stop) := ⟨hyield⟩
  obtain ⟨e', hwrapped⟩ := wrapped_refused hexpression hbroken hinside
  rw [Source.wrapped, Source.embedded] at hwrapped
  rw [Source.embedded] at hstatements
  unfold extractExpression
  dsimp only
  rw [hwrapped]
  dsimp only
  rw [hstatements]

/-- A word that is spelled without escapes consists of characters of the text. -/
theorem points_of_word {first : Bool} {t : Text} {index line : Nat} {points : List Nat} {c : Cursor}
    (h : word first t index line = .ok (points, c)) (ht : '\\' ∉ t) :
    ∀ p ∈ points, ∃ a ∈ t, p = a.toNat := by
  induction t generalizing first index points c with
  | nil =>
    rw [word] at h
    cases h
    exact fun p hp => absurd hp List.not_mem_nil
  | cons a t ih =>
    rw [List.mem_cons, not_or] at ht
    rw [word_of_ne (Ne.symm ht.1)] at h
    split at h
    · obtain ⟨⟨more, d⟩, hmore, h⟩ := eq_ok_of_bind h
      cases h
      intro p hp
      rcases List.mem_cons.mp hp with rfl | hp
      · exact ⟨a, .head _, rfl⟩
      · obtain ⟨b, hb, rfl⟩ := ih hmore ht.2 p hp
        exact ⟨b, .tail _ hb, rfl⟩
    · cases h
      exact fun p hp => absurd hp List.not_mem_nil

/-- A text without escapes has no word with a letter that is not in the text. -/
theorem not_hasWord {t : Text} {w : String} {a : Char} (ha : a ∈ w.toList)
    (hout : a ≠ '(' ∧ a ∉ t ∧ a ≠ ')') (ht : '\\' ∉ t) : ¬ Grammar.HasWord t w := by
  rintro ⟨c, d, token, hc, hword, rfl⟩
  obtain ⟨⟨points, stop⟩, hpoints, hword⟩ := eq_ok_of_bind hword
  simp only [Cursor.refuse] at hword
  split at hword
  · cases hword
  cases hword
  dsimp only at ha
  rw [String.toList_ofList] at ha
  obtain ⟨p, hp, rfl⟩ := List.mem_map.mp ha
  have hrest {b : Char} (hb : b ∈ c.rest) : b = '(' ∨ b ∈ t ∨ b = ')' := by
    rw [hc] at hb
    simpa [parenthesized] using List.mem_of_mem_drop hb
  have hslash : '\\' ∉ c.rest := fun h => by
    rcases hrest h with h | h | h
    · cases h
    · exact ht h
    · cases h
  obtain ⟨b, hb, rfl⟩ := points_of_word hpoints hslash p hp
  have hvalid : b.toNat.isValidChar := b.valid
  rw [characterOf, if_pos hvalid, Char.ofNat_toNat] at hout
  rcases hrest hb with h | h | h
  · exact hout.1 h
  · exact hout.2.1 h
  · exact hout.2.2 h

/-- A parenthesis that is left open takes the one that is added behind it, and the text is skipped. -/
theorem extractExpression_skipped_of_open :
    let document := text "'a' + (yield"
    let σ := Source.embedded document 0 12
    (∀ x, soleExpression (.initial σ.padded) ≠ .ok x) ∧
      parse .classic σ = .error (.refused ⟨12, 1, .unexpectedEnd⟩) ∧
      (∀ b, parse .classic σ.wrapped ≠ .error (.broken b)) ∧
      ¬ σ.ClosesInside ∧
      (Grammar.HasWord (document.slice 0 12) "get" → ¬ Grammar.EndsInYield (document.slice 0 12)) ∧
      extractExpression document 0 12 = ⟨[.skippedExpression 1 1 document], .ok []⟩ := by
  intro document σ
  have hexpression : ∀ x, soleExpression (.initial σ.padded) ≠ .ok x := by
    intro x hx
    have hok : (soleExpression (.initial σ.padded)).isOk = false := by decide +kernel
    rw [hx] at hok
    cases hok
  have hstatements : parse .classic σ = .error (.refused ⟨12, 1, .unexpectedEnd⟩) := by
    decide +kernel
  have hbroken : ∀ b, parse .classic σ.wrapped ≠ .error (.broken b) := by
    have hwrapped : parse .classic σ.wrapped = .error (.refused ⟨14, 1, .unexpectedEnd⟩) := by
      decide +kernel
    intro b hb
    rw [hwrapped] at hb
    cases hb
  have hinside : ¬ σ.ClosesInside := by
    rintro ⟨x, hx, -⟩
    have hok : (openingGroup (.initial σ.wrapped)).isOk = false := by decide +kernel
    rw [hx] at hok
    cases hok
  have hgetter : ¬ Grammar.HasWord (document.slice 0 12) "get" :=
    not_hasWord (a := 'g') (by decide) (by decide) (by decide)
  have hyield : Grammar.HasWord (document.slice 0 12) "get" →
      ¬ Grammar.EndsInYield (document.slice 0 12) := fun h => absurd h hgetter
  exact ⟨hexpression, hstatements, hbroken, hinside, hyield,
    extractExpression_skipped hexpression hstatements hbroken hinside hyield⟩

-- Behind a getter the parenthesis that is added ends an operator `yield`, which the end does not.
example :
    let document := text "\x7bget a()\x7b\x7d\x7d, 'x', yield"
    let σ := Source.embedded document 0 23
    (soleExpression (.initial σ.padded)).isOk = false ∧ (parse .classic σ).isOk = false ∧
      (openingGroup (.initial σ.wrapped)).toOption.map (fun x => x.state.lastIndex) =
        some (σ.closing + 1) ∧
      (extractExpression document 0 23).result = .ok
        [{ kind := .literal, start := 13, stop := 16, text := text "'x'", region := .template
           interpolations := none }] := by
  decide +kernel

/-- The parenthesis that is put in front of the text is closed in the text, and the one behind it closes
another one: the text is no expression and no statement, but its strings are yielded. -/
theorem extractExpression_of_closed_inside :
    let document := text "'x') + ('y'"
    let σ := Source.embedded document 0 11
    let literal (start stop : Int) : Fragment :=
      { kind := .literal, start, stop, text := document.slice start stop, region := .template
        interpolations := none }
    (soleExpression (.initial σ)).isOk = false ∧
      (soleExpression (.initial σ.padded)).isOk = false ∧ (parse .classic σ).isOk = false ∧
      (extractExpression document 0 11).result = .ok [literal 0 3, literal 8 11] := by
  decide +kernel

end SmartQuotes.Script
