import SmartQuotes.Proofs.Script.Matched
import SmartQuotes.Script.Grammar.Element

/-!
# Two runs in a tag

In a tag nothing is read ahead, so the runs match there if their cursors stand at the same place. The
closing parenthesis is no token of a tag: a run that gets up to it fails or reads on behind it.
-/

set_option synthInstance.maxSize 1000

namespace SmartQuotes.Script

open SmartQuotes.Script.Parser

variable {σ : Source}

namespace Parser

open SmartQuotes.Script.Grammar

variable {α β γ : Type}

/-- How the next token is read: it has been read ahead, or it will be read on the spot. -/
inductive Reading
  | ahead
  | onSpot

namespace Reading

/-- The offset at which the next token starts at the earliest. -/
def index : Reading → State σ → Nat
  | ahead, s => s.lookahead.start
  | onSpot, s => s.cursor.index

/-- The runs go on with the same text. -/
def Alike : Reading → State σ.wrapped → State σ.padded → Prop
  | ahead, s, s' => s.Matches s'
  | onSpot, s, s' => s.Level s'

/-- What the first run keeps up. -/
def Kept : Reading → Bool → State σ.wrapped → Prop
  | ahead, b, s => s.Kept b
  | onSpot, b, s => EndsInYield σ.text → s.context.allowsYield = b

/-- The closing parenthesis has not been read, and a `yield` in front of it is a name. -/
structure Fits (r : Reading) (s : State σ.wrapped) : Prop where
  index_le : r.index s ≤ σ.closing
  allows : r.index s = σ.closing → EndsInYield σ.text → s.context.allowsYield = true

variable {r r' : Reading} {b : Bool} {s t : State σ.wrapped}

theorem Kept.yields (h : r.Kept b s) (hyield : EndsInYield σ.text) : s.context.allowsYield = b := by
  cases r with
  | ahead => exact State.Kept.yields h hyield
  | onSpot => exact h hyield

theorem Alike.kept {s' : State σ.padded} (h : r.Alike s s') : r.Kept s.context.allowsYield s := by
  cases r with
  | ahead => exact State.Matches.kept h
  | onSpot => exact fun _ => rfl

theorem Fits.before (h : r'.Fits t) (hs : r.Kept b s) (ht : r'.Kept b t)
    (hle : r.index s ≤ r'.index t) : r.Fits s where
  index_le := Nat.le_trans hle h.index_le
  allows heq hyield := by
    have hat : r'.index t = σ.closing := Nat.le_antisymm h.index_le (heq ▸ hle)
    rw [hs.yields hyield, ← ht.yields hyield]
    exact h.allows hat hyield

end Reading

/-- The parsers match from places where tokens are read in one way to places where they are read in
the other one. -/
class MatchedFrom (r r' : Reading) (p : Parser σ.wrapped α) (q : Parser σ.padded α) : Prop where
  index_le : ∀ {s : State σ.wrapped} {x : Step s α}, p s = .ok x → r.index s ≤ r'.index x.state
  kept : ∀ {b : Bool} {s : State σ.wrapped} {x : Step s α}, r.Kept b s → p s = .ok x →
    r'.Kept b x.state
  run : ∀ {s : State σ.wrapped} {s' : State σ.padded} {x : Step s α}, r.Alike s s' → p s = .ok x →
    r'.Fits x.state → ∃ y, q s' = .ok y ∧ y.value = x.value ∧ r'.Alike x.state y.state

/-- The parsers match in a tag. -/
abbrev MatchedTag (p : Parser σ.wrapped α) (q : Parser σ.padded α) : Prop :=
  MatchedFrom .onSpot .onSpot p q

/-- On the spot in front of the closing parenthesis the parser fails, or it reads this. -/
class BlockedTag (r : Reading) (p : Parser σ.wrapped α) : Prop where
  closing_lt : ∀ {s : State σ.wrapped} {x : Step s α}, s.cursor.rest = [')'] → p s = .ok x →
    σ.closing < r.index x.state

variable {p : Parser σ.wrapped α} {q : Parser σ.padded α} {f : α → Parser σ.wrapped β}
  {g : α → Parser σ.padded β} {r r' r'' : Reading}

/-! ## Parsers one after another -/

theorem MatchedFrom.bind (hp : MatchedFrom r r' p q) (hf : ∀ a, MatchedFrom r' r'' (f a) (g a)) :
    MatchedFrom r r'' (p >>= f) (q >>= g) where
  index_le hx := by
    obtain ⟨y, z, hy, hz, -, hstate⟩ := exists_of_bind hx
    rw [hstate]
    exact Nat.le_trans (hp.index_le hy) ((hf y.value).index_le hz)
  kept hs hx := by
    obtain ⟨y, z, hy, hz, -, hstate⟩ := exists_of_bind hx
    rw [hstate]
    exact (hf y.value).kept (hp.kept hs hy) hz
  run hs hx hend := by
    obtain ⟨y, z, hy, hz, hvalue, hstate⟩ := exists_of_bind hx
    rw [hvalue, hstate]
    rw [hstate] at hend
    have hkept := hp.kept hs.kept hy
    have hfits := hend.before hkept ((hf y.value).kept hkept hz) ((hf y.value).index_le hz)
    obtain ⟨y', hy', hyvalue, hs'⟩ := hp.run hs hy hfits
    rw [← hyvalue] at hz
    exact exists_bind hy' ((hf y'.value).run hs' hz hend)

instance [h : Matched p q] : MatchedFrom .ahead .ahead p q where
  index_le {_ x} _ := x.since
  kept := h.kept
  run hs hx hend := h.run hs hx ⟨hend.index_le, hend.allows⟩

/-- Reading ahead starts where the cursor stands. -/
instance : MatchedFrom .onSpot .ahead (next : Parser σ.wrapped Token) next where
  index_le hx := (next_spec hx).2
  kept hs hx := (kept_next hx).restored fun hyield => by rw [context_of_next hx, hs hyield]
  run hs hx hend := hs.next hx hend.index_le

instance [hp : MatchedFrom r .onSpot p q] [hf : ∀ a, MatchedFrom .onSpot r' (f a) (g a)] :
    MatchedFrom r r' (p >>= f) (q >>= g) :=
  hp.bind hf

instance [hp : MatchedFrom r .ahead p q] [hf : ∀ a, MatchedFrom .ahead r' (f a) (g a)] :
    MatchedFrom r r' (p >>= f) (q >>= g) :=
  hp.bind hf

theorem MatchedTag.bind (hp : MatchedTag p q) (hf : ∀ a, MatchedTag (f a) (g a)) :
    MatchedTag (p >>= f) (q >>= g) :=
  MatchedFrom.bind hp hf

theorem BlockedTag.bind (hp : BlockedTag r p) (hf : ∀ a, MatchedFrom r r' (f a) (g a)) :
    BlockedTag r' (p >>= f) where
  closing_lt hs hx := by
    obtain ⟨y, z, hy, hz, -, hstate⟩ := exists_of_bind hx
    rw [hstate]
    exact Nat.lt_of_lt_of_le (hp.closing_lt hs hy) ((hf y.value).index_le hz)

instance MatchedTag.pure (a : α) : MatchedTag (pure a : Parser σ.wrapped α) (pure a) where
  index_le hx := by
    cases hx
    exact Nat.le_refl _
  kept hs hx := by
    cases hx
    exact hs
  run hs hx _ := by
    cases hx
    exact ⟨_, rfl, rfl, hs⟩

instance {c : Prop} [Decidable c] {p' : Parser σ.wrapped α} {q' : Parser σ.padded α}
    [hp : MatchedFrom r r' p q] [hp' : MatchedFrom r r' p' q'] :
    MatchedFrom r r' (if c then p else p') (if c then q else q') := by
  split
  · exact hp
  · exact hp'

theorem matchedFrom_of_error {e : State σ.wrapped → Halt} (h : ∀ s, p s = .error (e s)) :
    MatchedFrom r r' p q where
  index_le hx := by
    rw [h] at hx
    cases hx
  kept _ hx := by
    rw [h] at hx
    cases hx
  run _ hx := by
    rw [h] at hx
    cases hx

section Failing

variable (c : Cause) (t : Token)

instance : MatchedFrom r r' (fail c : Parser σ.wrapped α) (fail c) :=
  matchedFrom_of_error fun _ => rfl

instance : MatchedFrom r r' (failAhead c : Parser σ.wrapped α) (failAhead c) :=
  matchedFrom_of_error fun _ => rfl

instance : MatchedFrom r r' (unexpected t : Parser σ.wrapped α) (unexpected t) :=
  matchedFrom_of_error fun _ => rfl

end Failing

section Loops

variable {step : α → Parser σ.wrapped (α ⊕ β)} {step' : α → Parser σ.padded (α ⊕ β)}

instance [h : ∀ a, MatchedTag (step a) (step' a)] (fuel : Nat) (a : α) :
    MatchedTag (iterateFrom step fuel a) (iterateFrom step' fuel a) :=
  iterateFrom_of_step (R := MatchedTag) inferInstance (fun b => MatchedTag.pure b) .bind h fuel a

instance [∀ a, MatchedTag (step a) (step' a)] (a : α) :
    MatchedTag (iterate a step) (iterate a step') := by
  unfold iterate
  rw [maxSteps_padded]
  infer_instance

theorem MatchedTag.iterate (h : ∀ a, MatchedTag (step a) (step' a)) (a : α) :
    MatchedTag (iterate a step) (iterate a step') :=
  inferInstance

variable {test : Parser σ.wrapped Bool} {test' : Parser σ.padded Bool}

instance [MatchedTag test test'] [MatchedTag p q] :
    MatchedTag (manyUntil test p) (manyUntil test' q) := by
  unfold manyUntil
  infer_instance

end Loops

/-- What is asked of the states has the same answer for both. -/
theorem matchedTag_test {φ : State σ.wrapped → γ} {ψ : State σ.padded → γ}
    {f : γ → Parser σ.wrapped α} {g : γ → Parser σ.padded α}
    (h : ∀ {s s'}, s.Level s' → ψ s' = φ s) (hf : ∀ c, MatchedTag (f c) (g c)) :
    MatchedTag (state >>= fun s => f (φ s)) (state >>= fun s => g (ψ s)) where
  index_le hx := by
    obtain ⟨y, z, hy, hz, -, hstate⟩ := exists_of_bind hx
    cases hy
    rw [hstate]
    exact (hf _).index_le hz
  kept hs hx := by
    obtain ⟨y, z, hy, hz, -, hstate⟩ := exists_of_bind hx
    cases hy
    rw [hstate]
    exact (hf _).kept hs hz
  run hs hx hend := by
    obtain ⟨y, z, hy, hz, hvalue, hstate⟩ := exists_of_bind hx
    cases hy
    rw [hstate] at hend
    rw [hvalue, hstate]
    refine exists_bind (q := state) rfl ?_
    rw [h hs]
    exact (hf _).run hs hz hend

theorem matchedTag_if {φ : State σ.wrapped → Prop} {ψ : State σ.padded → Prop}
    [∀ s, Decidable (φ s)] [∀ s, Decidable (ψ s)] {p' : Parser σ.wrapped α} {q' : Parser σ.padded α}
    (h : ∀ {s s'}, s.Level s' → (ψ s' ↔ φ s)) (hp : MatchedTag p q) (hp' : MatchedTag p' q') :
    MatchedTag (state >>= fun s => if φ s then p else p')
      (state >>= fun s => if ψ s then q else q') := by
  have htest := matchedTag_test (φ := fun s => decide (φ s)) (ψ := fun s => decide (ψ s))
    (f := fun b => if b then p else p') (g := fun b => if b then q else q')
    (fun hs => decide_eq_decide.mpr (h hs)) fun _ => inferInstance
  simpa only [decide_eq_true_eq] using htest

instance (kind : Kind) (hkind : kind.IsPlain) (start : Nat) :
    MatchedTag (record kind hkind start : Parser σ.wrapped Unit) (record kind hkind start) where
  index_le hx := by
    cases hx
    exact Nat.le_refl _
  kept hs hx := by
    cases hx
    exact hs
  run hs hx _ := by
    cases hx
    exact ⟨_, rfl, rfl, hs.cursor, hs.braces, hs.sloppy, hs.lookahead, hs.context, hs.isScript⟩

end Parser

theorem State.Inside.rewind {s : State σ.wrapped} {s' : State σ.padded} (h : s.Inside s') :
    s.rewind.Level s'.rewind :=
  ⟨h.mark, h.braces, h.sloppy, congrArg (fun t : Token => { t with kind := .endOfInput }) h.lookahead,
    h.context, h.isScript⟩

/-! ## Tokens of tags -/

theorem Source.index_of_nil {c : Cursor} (hc : c.Within σ.wrapped.text) (h : c.rest = []) :
    σ.closing < c.index := by
  have hlength := length_rest hc
  rw [h, List.length_nil] at hlength
  omega

theorem lexElement_close {c : Cursor} (h : c.rest = [')']) (braces : List Bool) :
    lexElement braces c = .ok (.punctuator braces c ")") := by
  unfold lexElement
  simp only [h]
  rw [if_neg (by decide), if_neg (by decide), if_neg (by decide), if_neg (by decide),
    if_neg (by decide), lex_close h]
  rfl

theorem skipGap_close {c : Cursor} (h : c.rest = [')']) (sloppy : Bool) :
    c.skipGap sloppy = .ok c := by
  obtain ⟨rest, index, line⟩ := c
  cases h
  simp only [Cursor.skipGap]
  rw [skipGapFrom, if_neg (by decide), if_neg (by decide)]
  all_goals simp

theorem lexElement_end {c : Cursor} (h : c.rest = []) (braces : List Bool) :
    lexElement braces c =
      .ok ⟨{ kind := .endOfInput, value := "", start := c.index, stop := c.index, line := c.line },
        c, braces⟩ := by
  unfold lexElement
  simp only [h]
  rw [lex_end h]
  rfl

namespace Grammar

theorem skipGap_eq {s : State σ} {mark : Cursor} (hgap : s.cursor.skipGap s.sloppy = .ok mark) :
    skipGap s = .ok ⟨mark, s.skipTo (s.follows_gap hgap), s.since_self⟩ := by
  unfold skipGap
  split
  · next e he =>
    rw [hgap] at he
    cases he
  · next mark' hmark =>
    cases hgap.symm.trans hmark
    rfl

theorem exists_of_skipGap {s : State σ} {x : Step s Cursor} (h : skipGap s = .ok x) :
    ∃ (mark : Cursor) (hgap : s.cursor.skipGap s.sloppy = .ok mark),
      x = ⟨mark, s.skipTo (s.follows_gap hgap), s.since_self⟩ := by
  unfold skipGap at h
  split at h
  · cases h
  · next mark hgap =>
    cases h
    exact ⟨mark, hgap, rfl⟩

theorem nextInTag_eq {s : State σ} {mark : Cursor} {l : Lexed}
    (hgap : s.cursor.skipGap s.sloppy = .ok mark) (hlex : lexElement s.braces mark = .ok l) :
    ∃ x, nextInTag s = .ok x ∧ x.value = l.token ∧
      x.state = { s.take (s.follows_gap hgap) (follows_lexElement hlex) with braces := l.braces } := by
  unfold nextInTag
  split
  · next e he =>
    rw [hgap] at he
    cases he
  · next mark' hmark =>
    cases hgap.symm.trans hmark
    split
    · next e he =>
      rw [hlex] at he
      cases he
    · next l' hl =>
      cases hlex.symm.trans hl
      exact ⟨_, rfl, rfl, rfl⟩

theorem exists_of_nextInTag {s : State σ} {x : Step s Token} (h : nextInTag s = .ok x) :
    ∃ (mark : Cursor) (l : Lexed) (hgap : s.cursor.skipGap s.sloppy = .ok mark)
      (hlex : lexElement s.braces mark = .ok l), x.value = l.token ∧
      x.state = { s.take (s.follows_gap hgap) (follows_lexElement hlex) with braces := l.braces } := by
  unfold nextInTag at h
  split at h
  · cases h
  · next mark hgap =>
    split at h
    · cases h
    · next l hlex =>
      cases h
      exact ⟨mark, l, hgap, hlex, rfl, rfl⟩

instance : MatchedTag (nextInTag : Parser σ.wrapped Token) nextInTag where
  index_le hx := by
    obtain ⟨mark, l, hgap, hlex, -, hstate⟩ := exists_of_nextInTag hx
    rw [hstate]
    exact ((follows_lexElement hlex).trans (Cursor.follows_skipGap hgap)).index_le
  kept hs hx := by
    obtain ⟨mark, l, hgap, hlex, -, hstate⟩ := exists_of_nextInTag hx
    rw [hstate]
    exact hs
  run {s s' x} hs hx hend := by
    obtain ⟨mark, l, hgap, hlex, hvalue, hstate⟩ := exists_of_nextInTag hx
    have hwithin := x.state.within
    rw [hstate] at hend hwithin
    have halike := hs.cursor.skipsAlike hgap
    rw [← hs.sloppy] at halike
    generalize hgap' : s'.cursor.skipGap s'.sloppy = gap at halike
    cases halike with
    | inside hmark htwo =>
      obtain ⟨l', hlex', hbraces, halike⟩ := lexElement_blanked hmark htwo s.braces l hlex
      rw [← hs.braces] at hlex'
      rcases halike with ⟨htoken, hcursor⟩ | ⟨-, -, hrest⟩
      · obtain ⟨y, hy, hvalue', hstate'⟩ := nextInTag_eq hgap' hlex'
        refine ⟨y, hy, by rw [hvalue', hvalue, htoken], ?_⟩
        rw [hstate, hstate']
        exact ⟨hcursor, hbraces, hs.sloppy, hs.lookahead, hs.context, hs.isScript⟩
      · exact absurd (Source.index_of_nil hwithin hrest) (Nat.not_lt.mpr hend.index_le)
    | close hrest =>
      cases (lexElement_close hrest s.braces).symm.trans hlex
      refine absurd (Source.index_of_nil hwithin ?_) (Nat.not_lt.mpr hend.index_le)
      exact congrArg (List.drop 1) hrest
    | beyond hrest =>
      cases (lexElement_end hrest s.braces).symm.trans hlex
      exact absurd (Source.index_of_nil hwithin hrest) (Nat.not_lt.mpr hend.index_le)

instance : BlockedTag .onSpot (nextInTag : Parser σ.wrapped Token) where
  closing_lt {s x} hs hx := by
    obtain ⟨mark, l, hgap, hlex, -, hstate⟩ := exists_of_nextInTag hx
    have hwithin := x.state.within
    rw [hstate] at hwithin ⊢
    cases (skipGap_close hs s.sloppy).symm.trans hgap
    cases (lexElement_close hs s.braces).symm.trans hlex
    exact Source.index_of_nil hwithin (congrArg (List.drop 1) hs)

instance (v : String) : MatchedTag (expectInTag v : Parser σ.wrapped Unit) (expectInTag v) := by
  unfold expectInTag
  infer_instance

instance (v : String) : BlockedTag .onSpot (expectInTag v : Parser σ.wrapped Unit) := by
  unfold expectInTag
  exact .bind (r := .onSpot) (g := fun t => do unless t.isPunctuator v do unexpected t) inferInstance
    fun _ => inferInstance

/-- Behind a gap a token has to follow. -/
theorem matchedTag_skipGap {α : Type} {f : Nat → Parser σ.wrapped α} {g : Nat → Parser σ.padded α}
    [hf : ∀ n, MatchedTag (f n) (g n)] [hblocked : ∀ n, BlockedTag .onSpot (f n)] :
    MatchedTag (skipGap >>= fun c => f c.index) (skipGap >>= fun c => g c.index) where
  index_le hx := by
    obtain ⟨y, z, hy, hz, -, hstate⟩ := exists_of_bind hx
    obtain ⟨mark, hgap, rfl⟩ := exists_of_skipGap hy
    rw [hstate]
    exact Nat.le_trans (Cursor.follows_skipGap hgap).index_le ((hf _).index_le hz)
  kept hs hx := by
    obtain ⟨y, z, hy, hz, -, hstate⟩ := exists_of_bind hx
    obtain ⟨mark, hgap, rfl⟩ := exists_of_skipGap hy
    rw [hstate]
    exact (hf _).kept hs hz
  run {s s' x} hs hx hend := by
    obtain ⟨y, z, hy, hz, hvalue, hstate⟩ := exists_of_bind hx
    obtain ⟨mark, hgap, rfl⟩ := exists_of_skipGap hy
    rw [hstate] at hend
    have hle := (hf _).index_le hz
    have halike := hs.cursor.skipsAlike hgap
    rw [← hs.sloppy] at halike
    generalize hgap' : s'.cursor.skipGap s'.sloppy = gap at halike
    cases halike with
    | inside hmark =>
      have hlevel : State.Level (s.skipTo (s.follows_gap hgap)) (s'.skipTo (s'.follows_gap hgap')) :=
        ⟨hmark, hs.braces, hs.sloppy, hs.lookahead, hs.context, hs.isScript⟩
      rw [hvalue, hstate]
      refine exists_bind (skipGap_eq hgap') ?_
      rw [hmark.index]
      exact (hf _).run hlevel hz hend
    | close hrest => exact absurd ((hblocked _).closing_lt hrest hz) (Nat.not_lt.mpr hend.index_le)
    | beyond hrest =>
      have hlt := Source.index_of_nil ((Cursor.follows_skipGap hgap).within s.within) hrest
      exact absurd (Nat.lt_of_lt_of_le hlt hle) (Nat.not_lt.mpr hend.index_le)

instance (v : String) : MatchedTag (do let _ ← skipGap; expectInTag v : Parser σ.wrapped Unit)
    (do let _ ← skipGap; expectInTag v) :=
  matchedTag_skipGap (f := fun _ => expectInTag v) (g := fun _ => expectInTag v)

instance {α : Type} (v : String) {f : Unit → Parser σ.wrapped α} {g : Unit → Parser σ.padded α}
    [hf : ∀ u, MatchedTag (f u) (g u)] :
    MatchedTag (do let _ ← skipGap; expectInTag v >>= f)
      (do let _ ← skipGap; expectInTag v >>= g) := by
  have : BlockedTag .onSpot (expectInTag v >>= f : Parser σ.wrapped α) := .bind inferInstance hf
  exact matchedTag_skipGap (f := fun _ => expectInTag v >>= f) (g := fun _ => expectInTag v >>= g)

theorem isAtTag_eq {s : State σ} {mark : Cursor} {l : Lexed} {v : String}
    (hgap : s.cursor.skipGap s.sloppy = .ok mark) (hlex : lexElement s.braces mark = .ok l) :
    isAtTag v s = .ok ⟨l.token.isPunctuator v, { s with braces := l.braces }, s.since_self⟩ := by
  simp only [isAtTag, hgap, hlex]

theorem exists_of_isAtTag {s : State σ} {v : String} {x : Step s Bool} (h : isAtTag v s = .ok x) :
    ∃ mark l, s.cursor.skipGap s.sloppy = .ok mark ∧ lexElement s.braces mark = .ok l ∧
      x = ⟨l.token.isPunctuator v, { s with braces := l.braces }, s.since_self⟩ := by
  unfold isAtTag at h
  split at h
  · cases h
  · next mark hgap =>
    split at h
    · cases h
    · next l hlex =>
      cases h
      exact ⟨mark, l, hgap, hlex, rfl⟩

instance (v : String) [hv : Other v] :
    MatchedTag (isAtTag v : Parser σ.wrapped Bool) (isAtTag v) where
  index_le hx := by
    obtain ⟨mark, l, -, -, rfl⟩ := exists_of_isAtTag hx
    exact Nat.le_refl _
  kept hs hx := by
    obtain ⟨mark, l, -, -, rfl⟩ := exists_of_isAtTag hx
    exact hs
  run {s s' x} hs hx _ := by
    obtain ⟨mark, l, hgap, hlex, rfl⟩ := exists_of_isAtTag hx
    have hlevel (braces : List Bool) :
        State.Level { s with braces } { s' with braces := braces } :=
      ⟨hs.cursor, rfl, hs.sloppy, hs.lookahead, hs.context, hs.isScript⟩
    have halike := hs.cursor.skipsAlike hgap
    rw [← hs.sloppy] at halike
    generalize hgap' : s'.cursor.skipGap s'.sloppy = gap at halike
    cases halike with
    | inside hmark htwo =>
      obtain ⟨l', hlex', hbraces, halike⟩ := lexElement_blanked hmark htwo s.braces l hlex
      rw [← hs.braces] at hlex'
      refine ⟨_, isAtTag_eq hgap' hlex', ?_, ?_⟩
      · rcases halike with ⟨htoken, -⟩ | ⟨hkind, hkind', -⟩
        · rw [htoken]
        · simp only [Token.isPunctuator, hkind, hkind']
          rfl
      · rw [hbraces]
        exact hlevel _
    | close hrest =>
      cases (lexElement_close hrest s.braces).symm.trans hlex
      refine ⟨_, isAtTag_eq hgap' (lexElement_end rfl _), ?_, ?_⟩
      · exact (beq_eq_false_iff_ne.mpr hv.ne.symm).symm
      · rw [hs.braces]
        exact hlevel _
    | beyond hrest =>
      rw [← hs.braces] at hlex
      exact ⟨_, isAtTag_eq hgap' hlex, rfl, hlevel _⟩

instance : MatchedTag (readText : Parser σ.wrapped Unit) readText where
  index_le {s x} hx := by
    cases hx
    exact (follows_skipElementText _ _ _).index_le
  kept hs hx := by
    cases hx
    exact hs
  run {s s' x} hs hx hend := by
    cases hx
    let stop := skipElementText s.cursor.rest s.cursor.index s.cursor.line
    have hwithin : stop.Within σ.wrapped.text := (follows_skipElementText _ _ _).within s.within
    have halike : stop.rest = [] ∨ stop.Blanked
        (skipElementText s'.cursor.rest s'.cursor.index s'.cursor.line) := by
      rw [hs.cursor.index, hs.cursor.line]
      exact skipElementText_blanked hs.cursor.rest
    rcases halike with hrest | hcursor
    · exact absurd (Source.index_of_nil hwithin hrest) (Nat.not_lt.mpr hend.index_le)
    · exact ⟨_, rfl, rfl, hcursor, hs.braces, hs.sloppy, hs.lookahead, hs.context, hs.isScript⟩

/-! ## Productions -/

instance : Other "[" := ⟨by decide⟩
instance : Other "]" := ⟨by decide⟩
instance : Other "\x7b" := ⟨by decide⟩
instance : Other "\x7d" := ⟨by decide⟩
instance : Other "=" := ⟨by decide⟩
instance : Other "..." := ⟨by decide⟩
instance : Other ":" := ⟨by decide⟩
instance : Other "/" := ⟨by decide⟩
instance : Other "<" := ⟨by decide⟩
instance : Other ">" := ⟨by decide⟩
instance : Other "." := ⟨by decide⟩

/-- The productions inside match. -/
class MatchedNest (nest : Nest σ.wrapped) (nest' : Nest σ.padded) : Prop where
  assignment : Matched (nest .assignment) (nest' .assignment)
  unary : Matched (nest .unary) (nest' .unary)
  power : Matched (nest .power) (nest' .power)
  callee : Matched (nest .callee) (nest' .callee)
  call : Matched (nest .call) (nest' .call)
  pattern : ∀ declaration, Matched (nest (.pattern declaration)) (nest' (.pattern declaration))
  statement : Matched (nest .statement) (nest' .statement)
  item : Matched (nest .item) (nest' .item)
  element : MatchedTag (nest .element) (nest' .element)

/-- No production inside starts with the closing parenthesis. -/
class BlockedNest (nest : Nest σ.wrapped) : Prop where
  assignment : Blocked (nest .assignment)
  unary : Blocked (nest .unary)
  power : Blocked (nest .power)
  callee : Blocked (nest .callee)
  call : Blocked (nest .call)
  pattern : ∀ declaration, Blocked (nest (.pattern declaration))
  statement : Blocked (nest .statement)
  item : Blocked (nest .item)

section Nest

variable {nest : Nest σ.wrapped} {nest' : Nest σ.padded}

instance (priority := low) [h : MatchedNest nest nest'] :
    Matched (nest .assignment) (nest' .assignment) := h.assignment

instance (priority := low) [h : MatchedNest nest nest'] :
    Matched (nest .unary) (nest' .unary) := h.unary

instance (priority := low) [h : MatchedNest nest nest'] :
    Matched (nest .power) (nest' .power) := h.power

instance (priority := low) [h : MatchedNest nest nest'] :
    Matched (nest .callee) (nest' .callee) := h.callee

instance (priority := low) [h : MatchedNest nest nest'] :
    Matched (nest .call) (nest' .call) := h.call

instance (priority := low) [h : MatchedNest nest nest'] :
    Matched (nest .statement) (nest' .statement) := h.statement

instance (priority := low) [h : MatchedNest nest nest'] :
    Matched (nest .item) (nest' .item) := h.item

instance (priority := low) [h : MatchedNest nest nest'] (declaration : Option String) :
    Matched (nest (.pattern declaration)) (nest' (.pattern declaration)) := h.pattern declaration

instance (priority := low) [h : MatchedNest nest nest'] :
    MatchedTag (nest .element) (nest' .element) := h.element

instance (priority := low) [h : BlockedNest nest] : Blocked (nest .assignment) := h.assignment

instance (priority := low) [h : BlockedNest nest] : Blocked (nest .unary) := h.unary

instance (priority := low) [h : BlockedNest nest] : Blocked (nest .power) := h.power

instance (priority := low) [h : BlockedNest nest] : Blocked (nest .callee) := h.callee

instance (priority := low) [h : BlockedNest nest] : Blocked (nest .call) := h.call

instance (priority := low) [h : BlockedNest nest] : Blocked (nest .statement) := h.statement

instance (priority := low) [h : BlockedNest nest] : Blocked (nest .item) := h.item

instance (priority := low) [h : BlockedNest nest] (declaration : Option String) :
    Blocked (nest (.pattern declaration)) := h.pattern declaration

end Nest

instance : MatchedTag (elementWord : Parser σ.wrapped String) elementWord := by
  unfold elementWord
  infer_instance

instance : MatchedTag (elementName : Parser σ.wrapped String) elementName := by
  unfold elementName
  infer_instance

/-- The token read ahead is read again on the spot, where the closing parenthesis is no token. -/
instance {α : Type} {r : Reading} {f : Unit → Parser σ.wrapped α} {g : Unit → Parser σ.padded α}
    [hf : ∀ u, MatchedFrom .onSpot r (f u) (g u)] [hblocked : ∀ u, BlockedTag r (f u)] :
    MatchedFrom .ahead r (rewind >>= f) (rewind >>= g) where
  index_le {s x} hx := by
    obtain ⟨y, z, hy, hz, -, hstate⟩ := exists_of_bind hx
    cases hy
    rw [hstate]
    exact Nat.le_trans s.lookahead_le ((hf ()).index_le hz)
  kept {_ s x} hs hx := by
    obtain ⟨y, z, hy, hz, -, hstate⟩ := exists_of_bind hx
    cases hy
    rw [hstate]
    exact (hf ()).kept (s := s.rewind) hs.yields hz
  run {s s' x} hs hx hend := by
    obtain ⟨y, z, hy, hz, hvalue, hstate⟩ := exists_of_bind hx
    cases hy
    rw [hstate] at hend
    rcases hs with hs | hs
    · rw [hvalue, hstate]
      exact exists_bind (q := rewind) rfl ((hf ()).run hs.rewind hz hend)
    · exact absurd ((hblocked ()).closing_lt hs.closing.mark hz) (Nat.not_lt.mpr hend.index_le)

variable {nest : Nest σ.wrapped} {nest' : Nest σ.padded} [MatchedNest nest nest']

instance : MatchedFrom .ahead .onSpot (embedded nest) (embedded nest') := by
  unfold embedded
  infer_instance

/-- Record a string of a tag from the place in front of it. -/
def recordString {σ : Source} (start : Nat) (t : Token) : Parser σ Unit := do
  unless t.kind == .string do unexpected t
  record .literal Kind.isPlain_literal start

instance (start : Nat) (t : Token) :
    MatchedTag (recordString start t : Parser σ.wrapped Unit) (recordString start t) := by
  unfold recordString
  dsimp only
  infer_instance

instance (start : Nat) : BlockedTag .onSpot (nextInTag >>= recordString start : Parser σ.wrapped Unit) :=
  .bind (r := .onSpot) (g := recordString start) inferInstance fun _ => inferInstance

instance : MatchedTag (attributeValue nest) (attributeValue nest') := by
  unfold attributeValue
  refine .bind inferInstance fun _ => ?_
  split
  · infer_instance
  refine .bind inferInstance fun _ => ?_
  split
  · infer_instance
  · exact matchedTag_skipGap (f := fun start => nextInTag >>= recordString start)
      (g := fun start => nextInTag >>= recordString start)

instance : MatchedTag (tagAttribute nest) (tagAttribute nest') := by
  unfold tagAttribute
  dsimp only
  infer_instance

instance : MatchedTag (startTag nest) (startTag nest') := by
  unfold startTag
  infer_instance

instance : MatchedTag (childExpression nest) (childExpression nest') := by
  unfold childExpression
  infer_instance

/-- Read text and record it from the given place, unless it is empty. -/
def textFrom {σ : Source} (start : Nat) : Parser σ Unit := do
  readText
  if start < (← state).cursor.index then record .elementText Kind.isPlain_elementText start

instance (start : Nat) : MatchedTag (textFrom start : Parser σ.wrapped Unit) (textFrom start) := by
  unfold textFrom
  exact .bind inferInstance fun _ =>
    matchedTag_if (fun h => by rw [h.cursor.index]) inferInstance inferInstance

instance : MatchedTag (childText : Parser σ.wrapped Unit) childText :=
  matchedTag_test (f := textFrom) (g := textFrom) (fun h => h.cursor.index) fun _ => inferInstance

theorem isEmpty_level {s : State σ.wrapped} {s' : State σ.padded} (h : s.Level s') :
    s'.cursor.rest.isEmpty = true ↔ s.cursor.rest.isEmpty = true := by
  have hlength := h.cursor.rest.length_eq
  have hpos := h.cursor.rest.length_pos
  rw [List.isEmpty_iff_length_eq_zero, List.isEmpty_iff_length_eq_zero]
  omega

theorem head_level {s : State σ.wrapped} {s' : State σ.padded} (h : s.Level s') :
    (s'.cursor.rest.head? == some '\x7b') = true ↔ (s.cursor.rest.head? == some '\x7b') = true := by
  obtain ⟨r, hr, hr'⟩ := h.cursor.rest
  rw [hr, hr']
  cases r with
  | nil => decide
  | cons c r => exact Iff.rfl

instance : MatchedTag (children nest) (children nest') :=
  .iterate (fun _ => matchedTag_if isEmpty_level inferInstance <| .bind inferInstance fun _ =>
    matchedTag_if head_level inferInstance inferInstance) ()

instance (name : String) : MatchedTag (elementRest nest name) (elementRest nest' name) := by
  refine .iterate (fun ⟨name, enclosing⟩ => matchedTag_if isEmpty_level inferInstance ?_) _
  refine .bind inferInstance fun _ => .bind inferInstance fun _ => .bind inferInstance fun _ => ?_
  split
  · cases enclosing <;> dsimp only <;> infer_instance
  · infer_instance

instance : MatchedTag (element nest) (element nest') := by
  unfold element
  infer_instance

theorem blockedTag_skipGap {α : Type} {r : Reading} {f : Cursor → Parser σ.wrapped α}
    (h : ∀ c, BlockedTag r (f c)) : BlockedTag r (skipGap >>= f) where
  closing_lt {s x} hs hx := by
    obtain ⟨y, z, hy, hz, -, hstate⟩ := exists_of_bind hx
    obtain ⟨mark, hgap, rfl⟩ := exists_of_skipGap hy
    cases (skipGap_close hs s.sloppy).symm.trans hgap
    rw [hstate]
    exact (h _).closing_lt hs hz

theorem blockedTag_element (nest : Nest σ.wrapped) (nest' : Nest σ.padded)
    [MatchedNest nest nest'] : BlockedTag .onSpot (element nest) :=
  blockedTag_skipGap fun _ => .bind (r := .onSpot) (g := fun _ => do
    let tag ← startTag nest'
    unless tag.2 do elementRest nest' tag.1) inferInstance fun _ => inferInstance

instance : Matched (elementExpression nest) (elementExpression nest') := by
  have hblocked (_ : Unit) : BlockedTag .ahead (do element nest; let _ ← next; return Form.other) :=
    .bind (g := fun _ => do let _ ← next; return .other) (blockedTag_element nest nest')
      fun _ => inferInstance
  have hfrom : MatchedFrom .ahead .ahead (elementExpression nest) (elementExpression nest') := by
    unfold elementExpression
    infer_instance
  exact ⟨hfrom.kept, fun hs hx hend => hfrom.run hs hx ⟨hend.start_le, hend.allows⟩⟩

end Grammar

end SmartQuotes.Script
