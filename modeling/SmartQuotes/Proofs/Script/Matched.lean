import SmartQuotes.Proofs.Script.Blanked
import SmartQuotes.Script.Extract

/-!
# Two runs of a parser

A text is parsed in parentheses, and it is parsed between two blanks. Up to the closing parenthesis
both runs read the same tokens, so they are in matching states. Where the first one has the
parenthesis ahead the second one is at the end of its text.

Parsers match if they yield the same from matching states and leave matching ones, as long as the
first one does not read the closing parenthesis. Most parsers are put together from matching ones, so
matching is a class of which the instances follow the combinators.

Only a `yield` in front of the parenthesis tells the runs apart: the parenthesis shows that it has no
operand, and the end does not. So matching asks in addition that such a `yield` is a name there. The
parsers leave it as they find it whether it is one; a getter does not, behind which it is an operator.
-/

namespace SmartQuotes.Script

namespace Source

/-- A script in parentheses. -/
def wrapped (σ : Source) : Source :=
  { text := parenthesized σ.text, base := σ.base - 1, region := σ.region }

/-- A script with a blank in front and a blank behind. -/
def padded (σ : Source) : Source :=
  { text := ' ' :: σ.text ++ [' '], base := σ.base - 1, region := σ.region }

/-- The offset of the closing parenthesis. -/
def closing (σ : Source) : Nat := σ.text.length + 1

variable {σ : Source} {c : Cursor}

theorem text_wrapped : σ.wrapped.text = ('(' :: σ.text) ++ [')'] := rfl

theorem length_wrapped : σ.wrapped.length = σ.closing + 1 := by
  rw [σ.wrapped.length_eq, text_wrapped, List.length_append, List.length_cons]
  rfl

theorem length_padded : σ.padded.length = σ.wrapped.length := by
  rw [length_wrapped, σ.padded.length_eq, padded, List.length_append, List.length_cons]
  rfl

theorem length_rest (hc : c.Within σ.wrapped.text) : c.rest.length = σ.closing + 1 - c.index := by
  rw [hc, List.length_drop, ← σ.wrapped.length_eq, length_wrapped]

theorem rest_closing (hc : c.Within σ.wrapped.text) (h : c.index = σ.closing) : c.rest = [')'] := by
  rw [hc, h, text_wrapped, closing, ← List.length_cons, List.drop_left]

end Source

variable {σ : Source}

/-! ## Words of the text -/

namespace Grammar

/-- A word stands somewhere in the text. -/
def HasWord (t : Text) (w : String) : Prop :=
  ∃ (c d : Cursor) (word : Token), c.Within (parenthesized t) ∧ lexWord c = .ok (word, d) ∧
    word.value = w

/-- A `yield` stands in front of the closing parenthesis. -/
def EndsInYield (t : Text) : Prop :=
  ∃ (c d e : Cursor) (word : Token) (sloppy : Bool), c.Within (parenthesized t) ∧
    lexWord c = .ok (word, d) ∧ word.value = "yield" ∧ d.skipGap sloppy = .ok e ∧ e.rest = [')']

end Grammar

open SmartQuotes.Script.Grammar

/-! ## Matching states -/

namespace State

/-- Both states go on with the same text in front of the closing parenthesis. -/
structure Level (s : State σ.wrapped) (s' : State σ.padded) : Prop where
  cursor : s.cursor.Blanked s'.cursor
  braces : s'.braces = s.braces
  sloppy : s'.sloppy = s.sloppy
  lookahead : s'.lookahead = s.lookahead
  context : s'.context = s.context
  isScript : s.context.isModule = false

/-- Both states have the same token ahead, which stands in front of the closing parenthesis. -/
structure Inside (s : State σ.wrapped) (s' : State σ.padded) : Prop extends Level s s' where
  start_lt : s.lookahead.start < σ.closing
  mark : s.mark.Blanked s'.mark
  newline : s'.newline = s.newline
  string : s.lookahead.kind = .string → s.lookahead.stop = s.cursor.index
  word : s.lookahead.isKeyword "yield" → ∃ t, lexWord s.mark = .ok (t, s.cursor) ∧ t.value = "yield"
  getter : s.lookahead.isContextual "get" → HasWord σ.text "get"

/-- The closing parenthesis is ahead. -/
structure Closing (s : State σ.wrapped) : Prop where
  start_eq : s.lookahead.start = σ.closing
  kind : s.lookahead.kind = .punctuator
  value : s.lookahead.value = ")"
  cursor : s.cursor.rest = []
  mark : s.mark.rest = [')']

/-- The first state has the closing parenthesis ahead, and the second one the end. -/
structure AtEnd (s : State σ.wrapped) (s' : State σ.padded) : Prop where
  closing : s.Closing
  cursor : s'.cursor = s.cursor
  kind : s'.lookahead.kind = .endOfInput
  line : s'.lookahead.line = s.lookahead.line
  braces : s'.braces = s.braces
  sloppy : s'.sloppy = s.sloppy
  newline : s'.newline = s.newline
  context : s'.context = s.context
  isScript : s.context.isModule = false

/-- The states match. -/
def Matches (s : State σ.wrapped) (s' : State σ.padded) : Prop := s.Inside s' ∨ s.AtEnd s'

/-- What the first run keeps up: a token ahead that stands where the closing parenthesis does has been
read, and behind it there is only the end; the word of a getter is one of the text; and if the text
ends in a `yield`, it is said whether this is a name. -/
structure Kept (isName : Bool) (s : State σ.wrapped) : Prop where
  closing_lt : s.lookahead.start = σ.closing → σ.closing < s.cursor.index
  kind : σ.closing < s.lookahead.start → s.lookahead.kind = .endOfInput
  getter : s.lookahead.isContextual "get" → HasWord σ.text "get"
  yields : EndsInYield σ.text → s.context.allowsYield = isName

/-- The closing parenthesis has not been read. If it is ahead and the text ends in a `yield`, this is
a name. -/
structure Fits (s : State σ.wrapped) : Prop where
  start_le : s.lookahead.start ≤ σ.closing
  allows : s.lookahead.start = σ.closing → EndsInYield σ.text → s.context.allowsYield = true

variable {s t : State σ.wrapped} {b : Bool}

theorem Fits.of_lt (h : s.lookahead.start < σ.closing) : s.Fits :=
  ⟨Nat.le_of_lt h, fun heq => absurd heq (Nat.ne_of_lt h)⟩

theorem Kept.fits (h : s.Kept true) (hle : s.lookahead.start ≤ σ.closing) : s.Fits :=
  ⟨hle, fun _ => h.yields⟩

/-- What leads to a state that fits does so itself. -/
theorem Fits.before (h : t.Fits) (hs : s.Kept b) (ht : t.Kept b)
    (hle : s.lookahead.start ≤ t.lookahead.start) : s.Fits where
  start_le := Nat.le_trans hle h.start_le
  allows heq hyield := by
    have hat : t.lookahead.start = σ.closing := Nat.le_antisymm h.start_le (heq ▸ hle)
    rw [hs.yields hyield, ← ht.yields hyield]
    exact h.allows hat hyield

theorem Kept.congr (h : s.Kept b) (hcursor : t.cursor = s.cursor)
    (hlookahead : t.lookahead = s.lookahead)
    (hyields : t.context.allowsYield = s.context.allowsYield) : t.Kept b where
  closing_lt := by
    rw [hlookahead, hcursor]
    exact h.closing_lt
  kind := by
    rw [hlookahead]
    exact h.kind
  getter := by
    rw [hlookahead]
    exact h.getter
  yields hyield := hyields.trans (h.yields hyield)

theorem Kept.restored {b' : Bool} (h : s.Kept b')
    (hyields : EndsInYield σ.text → s.context.allowsYield = b) : s.Kept b :=
  ⟨h.closing_lt, h.kind, h.getter, hyields⟩

end State

/-! ## Reading on -/

theorem Token.reserved_of_ne {strict : Bool} {t : Token} (h : (t.reserved strict).kind ≠ .keyword) :
    t.reserved strict = t := by
  unfold reserved at h ⊢
  split
  · next hreserved =>
    rw [if_pos hreserved] at h
    exact absurd rfl h
  · rfl

theorem Token.reserved_of_plain {strict : Bool} {t : Token} (h : t.kind ≠ .identifier) :
    t.reserved strict = t := by
  unfold reserved
  rw [beq_eq_false_iff_ne.mpr h, Bool.and_false, Bool.false_and]
  exact if_neg Bool.false_ne_true

namespace State

variable {s : State σ} {mark : Cursor} {l : Lexed} (hmark : mark.Follows s.cursor.rest s.cursor.index)
  (hl : Lexes mark l)

@[simp] theorem cursor_advance : (s.advance hmark hl).cursor = l.cursor := rfl

@[simp] theorem mark_advance : (s.advance hmark hl).mark = mark := rfl

@[simp] theorem lookahead_advance :
    (s.advance hmark hl).lookahead = l.token.reserved s.context.strict := rfl

theorem newline_advance :
    (s.advance hmark hl).newline = (s.lookahead.line != (s.advance hmark hl).lookahead.line) := rfl

end State

namespace Parser

variable {s : State σ} {s₁ : State σ.wrapped} {s₂ : State σ.padded}

theorem next_eq {mark : Cursor} {l : Lexed} (hgap : s.cursor.skipGap s.sloppy = .ok mark)
    (hlex : lex s.braces mark = .ok l) :
    ∃ x, next s = .ok x ∧ x.value = s.lookahead ∧
      x.state = s.advance (s.follows_gap hgap) (lexes_lex hlex) := by
  unfold next
  split
  · next e he =>
    rw [hgap] at he
    cases he
  · next mark' hmark =>
    cases hgap.symm.trans hmark
    split
    · next e he =>
      rw [hlex] at he
      cases he
    · next l' hl =>
      cases hlex.symm.trans hl
      exact ⟨_, rfl, rfl, rfl⟩

theorem exists_of_next {x : Step s Token} (h : next s = .ok x) :
    ∃ (mark : Cursor) (l : Lexed) (hgap : s.cursor.skipGap s.sloppy = .ok mark)
      (hlex : lex s.braces mark = .ok l), x.value = s.lookahead ∧
      x.state = s.advance (s.follows_gap hgap) (lexes_lex hlex) := by
  unfold next at h
  split at h
  · cases h
  · next mark hgap =>
    split at h
    · cases h
    · next l hlex =>
      cases h
      exact ⟨mark, l, hgap, hlex, rfl, rfl⟩

theorem context_of_next {x : Step s Token} (h : next s = .ok x) : x.state.context = s.context := by
  obtain ⟨mark, l, hgap, hlex, -, hstate⟩ := exists_of_next h
  rw [hstate]
  rfl

theorem word_of_lex {braces : List Bool} {c : Cursor} {l : Lexed} {strict : Bool}
    (h : lex braces c = .ok l) (hword : (l.token.reserved strict).isKeyword "yield") :
    ∃ t, lexWord c = .ok (t, l.cursor) ∧ t.value = "yield" := by
  rw [Token.isKeyword, Bool.and_eq_true, beq_iff_eq, beq_iff_eq] at hword
  obtain ⟨hkind, hvalue⟩ := hword
  rw [Token.reserved] at hkind hvalue
  split at hkind
  · next hreserved =>
    rw [if_pos hreserved] at hvalue
    rw [Bool.and_eq_true, Bool.and_eq_true, beq_iff_eq] at hreserved
    exact ⟨l.token, (lex_spec h).2 (.inl hreserved.1.2), hvalue⟩
  · next hreserved =>
    rw [if_neg hreserved] at hvalue
    exact ⟨l.token, (lex_spec h).2 (.inr hkind), hvalue⟩

theorem hasWord_of_lex {t : Text} {braces : List Bool} {c : Cursor} {l : Lexed} {strict : Bool}
    {w : String} (hc : c.Within (parenthesized t)) (h : lex braces c = .ok l)
    (hword : (l.token.reserved strict).isContextual w) : HasWord t w := by
  rw [Token.isContextual, Bool.and_eq_true, beq_iff_eq, beq_iff_eq] at hword
  obtain ⟨hkind, hvalue⟩ := hword
  have heq := Token.reserved_of_ne fun hkeyword => absurd (hkind.symm.trans hkeyword) nofun
  rw [heq] at hkind hvalue
  exact ⟨c, l.cursor, l.token, hc, (lex_spec h).2 (.inl hkind), hvalue⟩

end Parser

open SmartQuotes.Script.Parser

namespace State

section

variable {s : State σ.wrapped} {s' : State σ.padded} (hbraces : s'.braces = s.braces)
  (hsloppy : s'.sloppy = s.sloppy) (hcontext : s'.context = s.context)
  (hscript : s.context.isModule = false) (hline : s'.lookahead.line = s.lookahead.line)

include hsloppy hcontext hscript hline

/-- The next token is the same in both runs if it stands in front of the closing parenthesis. -/
theorem inside_advance {mark mark' e : Cursor} {l : Lexed}
    (hgap : mark.Follows s.cursor.rest s.cursor.index)
    (hgap' : mark'.Follows s'.cursor.rest s'.cursor.index) (hlex : lex s.braces mark = .ok l)
    (hlex' : lex s'.braces mark' = .ok { l with cursor := e }) (hmark : mark.Blanked mark')
    (he : l.cursor.Blanked e) (hlt : mark.index < σ.closing) :
    (s.advance hgap (lexes_lex hlex)).Inside (s'.advance hgap' (lexes_lex hlex')) := by
  have hwithin : mark.Within σ.wrapped.text := hgap.within s.within
  refine ⟨⟨he, rfl, hsloppy, ?_, hcontext, hscript⟩, ?_, hmark, ?_, ?_, ?_, ?_⟩
  · rw [lookahead_advance, lookahead_advance, hcontext]
  · rw [lookahead_advance, Token.start_reserved, (lexes_lex hlex).start_eq]
    exact hlt
  · rw [newline_advance, newline_advance, lookahead_advance, lookahead_advance, hcontext, hline]
  · rw [lookahead_advance, cursor_advance]
    intro hstring
    have heq := Token.reserved_of_ne fun hword => absurd (hstring.symm.trans hword) nofun
    rw [heq] at hstring ⊢
    exact (lex_spec hlex).1 hstring
  · exact fun hword => word_of_lex hlex hword
  · exact fun hword => hasWord_of_lex hwithin hlex hword

include hbraces

/-- Where the next token of the first run is the closing parenthesis, the second one is at its
end. -/
theorem atEnd_advance {mark : Cursor} {l l' : Lexed} (hrest : mark.rest = [')'])
    (hindex : mark.index = σ.closing) (hgap : mark.Follows s.cursor.rest s.cursor.index)
    (hgap' : Cursor.Follows ⟨[], mark.index + 1, mark.line⟩ s'.cursor.rest s'.cursor.index)
    (hlex : lex s.braces mark = .ok l)
    (hlex' : lex s'.braces ⟨[], mark.index + 1, mark.line⟩ = .ok l') :
    (s.advance hgap (lexes_lex hlex)).AtEnd (s'.advance hgap' (lexes_lex hlex')) := by
  cases (lex_close hrest s.braces).symm.trans hlex
  cases (lex_end rfl s'.braces).symm.trans hlex'
  have hclose : (s.advance hgap (lexes_lex hlex)).lookahead =
      (Lexed.punctuator s.braces mark ")").token :=
    Token.reserved_of_plain nofun
  have hend : (s'.advance hgap' (lexes_lex hlex')).lookahead =
      { kind := .endOfInput, value := "", start := mark.index + 1, stop := mark.index + 1,
        line := mark.line } :=
    Token.reserved_of_plain nofun
  have hbehind : mark.skip 1 = ⟨[], mark.index + 1, mark.line⟩ := by
    rw [Cursor.skip, hrest, List.drop_one, List.tail_cons]
  refine ⟨⟨?_, ?_, ?_, ?_, hrest⟩, hbehind.symm, ?_, ?_, hbraces, hsloppy, ?_, hcontext, hscript⟩
  · rw [hclose]
    exact hindex
  · rw [hclose]
    rfl
  · rw [hclose]
    rfl
  · exact congrArg Cursor.rest hbehind
  · rw [hend]
  · rw [hend, hclose]
    rfl
  · rw [newline_advance, newline_advance, hline, hend, hclose]
    rfl

/-- Behind gaps that end alike the runs read on alike, unless the first one reads behind the closing
parenthesis. -/
theorem exists_next
    (halike : ∀ {mark}, s.cursor.skipGap s.sloppy = .ok mark →
      SkipsAlike mark (s'.cursor.skipGap s'.sloppy))
    {x : Step s Token} (hx : Parser.next s = .ok x)
    (hend : x.state.lookahead.start ≤ σ.closing) :
    ∃ y, Parser.next s' = .ok y ∧ x.state.Matches y.state := by
  obtain ⟨mark, l, hgap, hlex, -, hstate⟩ := exists_of_next hx
  have hwithin := x.state.mark_within
  rw [hstate, mark_advance] at hwithin
  have hlength := Source.length_rest hwithin
  rw [hstate, lookahead_advance, Token.start_reserved, (lexes_lex hlex).start_eq] at hend
  rw [hstate]
  replace halike := halike hgap
  generalize hgap' : s'.cursor.skipGap s'.sloppy = gap at halike
  cases halike with
  | inside hmark htwo =>
    obtain ⟨e, hlex', he⟩ := lex_blanked hmark htwo s.braces l hlex
    rw [← hbraces] at hlex'
    obtain ⟨y, hy, -, hstate'⟩ := next_eq hgap' hlex'
    refine ⟨y, hy, .inl ?_⟩
    rw [hstate']
    exact inside_advance hsloppy hcontext hscript hline _ _ hlex hlex' hmark he (by omega)
  | close hrest =>
    have hindex : mark.index = σ.closing := by
      rw [hrest, List.length_singleton] at hlength
      omega
    have hlex' := lex_end (c := ⟨[], mark.index + 1, mark.line⟩) rfl s'.braces
    obtain ⟨y, hy, -, hstate'⟩ := next_eq hgap' hlex'
    refine ⟨y, hy, .inr ?_⟩
    rw [hstate']
    exact atEnd_advance hbraces hsloppy hcontext hscript hline hrest hindex _ _ hlex hlex'
  | beyond hrest =>
    rw [hrest, List.length_nil] at hlength
    omega

end

end State

theorem State.Level.next {s : State σ.wrapped} {s' : State σ.padded} (h : s.Level s')
    {x : Step s Token} (hx : next s = .ok x) (hend : x.state.lookahead.start ≤ σ.closing) :
    ∃ y, Parser.next s' = .ok y ∧ y.value = x.value ∧ x.state.Matches y.state := by
  have halike {mark : Cursor} (hgap : s.cursor.skipGap s.sloppy = .ok mark) :
      SkipsAlike mark (s'.cursor.skipGap s'.sloppy) := by
    rw [h.sloppy]
    exact h.cursor.skipsAlike hgap
  obtain ⟨y, hy, hmatches⟩ := State.exists_next h.braces h.sloppy h.context h.isScript
    (congrArg Token.line h.lookahead) halike hx hend
  refine ⟨y, hy, ?_, hmatches⟩
  rw [(next_spec hy).1, (next_spec hx).1, h.lookahead]

/-! ## Matching parsers -/

namespace Parser

/-- The second parser yields what the first one yields from a matching state, and the states behind
match, unless the first one reads the closing parenthesis or leaves an operator `yield` in front of
it. -/
class Matched {α : Type} (p : Parser σ.wrapped α) (q : Parser σ.padded α) : Prop where
  kept : ∀ {b : Bool} {s : State σ.wrapped} {x : Step s α}, s.Kept b → p s = .ok x → x.state.Kept b
  run : ∀ {s : State σ.wrapped} {s' : State σ.padded} {x : Step s α}, s.Matches s' → p s = .ok x →
    x.state.Fits → ∃ y, q s' = .ok y ∧ y.value = x.value ∧ x.state.Matches y.state

/-- The same as long as the closing parenthesis is not even ahead. -/
class MatchedInside {α : Type} (p : Parser σ.wrapped α) (q : Parser σ.padded α) : Prop where
  kept : ∀ {b : Bool} {s : State σ.wrapped} {x : Step s α}, s.Kept b → p s = .ok x → x.state.Kept b
  run : ∀ {s : State σ.wrapped} {s' : State σ.padded} {x : Step s α}, s.Inside s' → p s = .ok x →
    x.state.lookahead.start < σ.closing →
    ∃ y, q s' = .ok y ∧ y.value = x.value ∧ x.state.Inside y.state

/-- The same as `Matched` from states in which `yield` is a name, whatever it is behind. -/
class MatchedNaming {α : Type} (p : Parser σ.wrapped α) (q : Parser σ.padded α) : Prop where
  kept : ∀ {b : Bool} {s : State σ.wrapped} {x : Step s α}, s.Kept b → p s = .ok x →
    ∃ b', x.state.Kept b'
  run : ∀ {s : State σ.wrapped} {s' : State σ.padded} {x : Step s α}, s.Matches s' → s.Kept true →
    p s = .ok x → x.state.lookahead.start ≤ σ.closing →
    ∃ y, q s' = .ok y ∧ y.value = x.value ∧ x.state.Matches y.state

/-- The same as `Matched`, whatever `yield` is. -/
class MatchedFreely {α : Type} (p : Parser σ.wrapped α) (q : Parser σ.padded α) : Prop where
  kept : ∀ {b : Bool} {s : State σ.wrapped} {x : Step s α}, s.Kept b → p s = .ok x →
    ∃ b', x.state.Kept b'
  run : ∀ {s : State σ.wrapped} {s' : State σ.padded} {x : Step s α}, s.Matches s' → p s = .ok x →
    x.state.lookahead.start ≤ σ.closing →
    ∃ y, q s' = .ok y ∧ y.value = x.value ∧ x.state.Matches y.state

/-- The parser leaves it behind whether `yield` is a name. -/
class Restores {α : Type} (b : Bool) (p : Parser σ.wrapped α) : Prop where
  allowsYield : ∀ {s : State σ.wrapped} {x : Step s α}, p s = .ok x → x.state.context.allowsYield = b

/-- The parser reads the token ahead. -/
class Consumes {α : Type} (p : Parser σ.wrapped α) : Prop where
  cursor_le : ∀ {s : State σ.wrapped} {x : Step s α}, p s = .ok x →
    s.cursor.index ≤ x.state.lookahead.start

/-- The parser fails in front of the closing parenthesis, or it reads this. -/
class Blocked {α : Type} (p : Parser σ.wrapped α) : Prop where
  closing_lt : ∀ {s : State σ.wrapped} {x : Step s α}, s.Closing → p s = .ok x →
    σ.closing < x.state.lookahead.start

/-- The parser leaves the closing parenthesis where it is, or it reads this. -/
class Still {α : Type} (p : Parser σ.wrapped α) : Prop where
  closing : ∀ {s : State σ.wrapped} {x : Step s α}, s.Closing → p s = .ok x →
    x.state.Closing ∨ σ.closing < x.state.lookahead.start

end Parser

theorem State.Closing.closing_lt {s : State σ.wrapped} (h : s.Closing) :
    σ.closing < s.cursor.index := by
  have hlength := Source.length_rest s.within
  rw [h.cursor] at hlength
  simp only [List.length_nil] at hlength
  omega

theorem State.Closing.kept {s : State σ.wrapped} (h : s.Closing) : s.Kept s.context.allowsYield where
  closing_lt _ := h.closing_lt
  kind hlt := absurd h.start_eq.symm (Nat.ne_of_lt hlt)
  getter hword := by
    rw [Token.isContextual, h.kind] at hword
    cases hword
  yields _ := rfl

theorem State.Matches.kept {s : State σ.wrapped} {s' : State σ.padded} (h : s.Matches s') :
    s.Kept s.context.allowsYield := by
  rcases h with h | h
  · have hlt := h.start_lt
    exact ⟨fun hstart => absurd hstart (Nat.ne_of_lt hlt), fun hend => absurd hend (Nat.lt_asymm hlt),
      h.getter, fun _ => rfl⟩
  · exact h.closing.kept

/-- Where a token is read in front of the closing parenthesis, the one ahead stands there. -/
theorem State.Kept.start_lt {b : Bool} {s t : State σ.wrapped} (h : s.Kept b)
    (hcursor : s.cursor.index ≤ t.lookahead.start) (hend : t.lookahead.start ≤ σ.closing) :
    s.lookahead.start < σ.closing := by
  have hle := s.lookahead_le_cursor
  rcases Nat.lt_trichotomy s.lookahead.start σ.closing with hlt | heq | hgt
  · exact hlt
  · have := h.closing_lt heq
    omega
  · omega

theorem State.Matches.inside {s : State σ.wrapped} {s' : State σ.padded} (h : s.Matches s')
    (hstart : s.lookahead.start < σ.closing) : s.Inside s' := by
  rcases h with h | h
  · exact h
  · exact absurd h.closing.start_eq (Nat.ne_of_lt hstart)

namespace Parser

variable {α β : Type}

theorem exists_of_bind {s : State σ} {p : Parser σ α} {f : α → Parser σ β} {x : Step s β}
    (h : (p >>= f) s = .ok x) :
    ∃ (y : Step s α) (z : Step y.state β), p s = .ok y ∧ f y.value y.state = .ok z ∧
      x.value = z.value ∧ x.state = z.state := by
  simp only [bind, andThen] at h
  split at h
  · cases h
  · next hp =>
    split at h
    · cases h
    · next hf =>
      cases h
      exact ⟨_, _, hp, hf, rfl, rfl⟩

theorem bind_eq {s : State σ} {p : Parser σ α} {f : α → Parser σ β} {y : Step s α}
    {z : Step y.state β} (hp : p s = .ok y) (hf : f y.value y.state = .ok z) :
    ∃ x, (p >>= f) s = .ok x ∧ x.value = z.value ∧ x.state = z.state := by
  simp only [bind, andThen, hp, hf]
  exact ⟨_, rfl, rfl, rfl⟩

instance : LawfulMonad (Parser σ) :=
  LawfulMonad.mk' _
    (by
      intro α p
      funext s
      simp only [Functor.map, andThen]
      cases p s <;> rfl)
    (by
      intro α β a f
      funext s
      simp only [pure, value, bind, andThen]
      cases f a s <;> rfl)
    (by
      intro α β γ p f g
      funext s
      simp only [bind, andThen]
      cases p s with
      | error e => rfl
      | ok y =>
        dsimp only
        cases f y.value y.state with
        | error e => rfl
        | ok z =>
          dsimp only
          cases g z.value z.state <;> rfl)

/-- Parsers one after another end as the second one ends behind the first one. -/
theorem exists_bind {σ' : Source} {R : State σ → State σ' → Prop} {t : State σ} {s : State σ'}
    {q : Parser σ' α} {g : α → Parser σ' β} {y : Step s α} {b : β} (hq : q s = .ok y)
    (hg : ∃ z, g y.value y.state = .ok z ∧ z.value = b ∧ R t z.state) :
    ∃ x, (q >>= g) s = .ok x ∧ x.value = b ∧ R t x.state := by
  obtain ⟨z, hz, hzvalue, hzstate⟩ := hg
  obtain ⟨x, hx, hvalue, hstate⟩ := bind_eq hq hz
  refine ⟨x, hx, hvalue.trans hzvalue, ?_⟩
  rw [hstate]
  exact hzstate

variable {p : Parser σ.wrapped α} {q : Parser σ.padded α} {f : α → Parser σ.wrapped β}
  {g : α → Parser σ.padded β}

instance [Matched p q] [∀ a, Matched (f a) (g a)] : Matched (p >>= f) (q >>= g) where
  kept hs hx := by
    obtain ⟨y, z, hy, hz, -, hstate⟩ := exists_of_bind hx
    rw [hstate]
    exact Matched.kept (g y.value) (Matched.kept q hs hy) hz
  run hs hx hend := by
    obtain ⟨y, z, hy, hz, hvalue, hstate⟩ := exists_of_bind hx
    rw [hvalue, hstate]
    rw [hstate] at hend
    have hkept := Matched.kept q hs.kept hy
    have hfits := hend.before hkept (Matched.kept (g y.value) hkept hz) z.since
    obtain ⟨y', hy', hyvalue, hs'⟩ := Matched.run (q := q) hs hy hfits
    rw [← hyvalue] at hz
    exact exists_bind hy' (Matched.run (q := g y'.value) hs' hz hend)

/-- What matches does so while the closing parenthesis is not ahead. -/
instance (priority := low) MatchedInside.of_matched [h : Matched p q] : MatchedInside p q where
  kept := h.kept
  run hs hx hend := by
    obtain ⟨y, hq, hy, hs'⟩ := h.run (.inl hs) hx (.of_lt hend)
    exact ⟨y, hq, hy, hs'.inside hend⟩

instance [hp : MatchedInside p q] [hf : ∀ a, MatchedInside (f a) (g a)] :
    MatchedInside (p >>= f) (q >>= g) where
  kept hs hx := by
    obtain ⟨y, z, hy, hz, -, hstate⟩ := exists_of_bind hx
    rw [hstate]
    exact (hf y.value).kept (hp.kept hs hy) hz
  run hs hx hend := by
    obtain ⟨y, z, hy, hz, hvalue, hstate⟩ := exists_of_bind hx
    rw [hvalue, hstate]
    rw [hstate] at hend
    obtain ⟨y', hy', hyvalue, hs'⟩ := hp.run hs hy (Nat.lt_of_le_of_lt z.since hend)
    rw [← hyvalue] at hz
    exact exists_bind hy' ((hf y'.value).run hs' hz hend)

theorem Matched.bind (hp : Matched p q) (hf : ∀ a, Matched (f a) (g a)) :
    Matched (p >>= f) (q >>= g) :=
  inferInstance

theorem MatchedInside.bind (hp : MatchedInside p q) (hf : ∀ a, MatchedInside (f a) (g a)) :
    MatchedInside (p >>= f) (q >>= g) :=
  inferInstance

/-- A token that is read behind a part stands in front of the closing parenthesis, or this is read
with it. So the part need only match while the parenthesis is not ahead. -/
instance (priority := low) matched_of_consumes [hconsumes : ∀ a, Consumes (f a)]
    [hp : MatchedInside p q] [hf : ∀ a, Matched (f a) (g a)] : Matched (p >>= f) (q >>= g) where
  kept hs hx := by
    obtain ⟨y, z, hy, hz, -, hstate⟩ := exists_of_bind hx
    rw [hstate]
    exact (hf y.value).kept (hp.kept hs hy) hz
  run hs hx hend := by
    obtain ⟨y, z, hy, hz, hvalue, hstate⟩ := exists_of_bind hx
    rw [hvalue, hstate]
    rw [hstate] at hend
    have hstart := (hp.kept hs.kept hy).start_lt ((hconsumes y.value).cursor_le hz) hend.start_le
    have hinside := hs.inside (Nat.lt_of_le_of_lt y.since hstart)
    obtain ⟨y', hy', hyvalue, hs'⟩ := hp.run hinside hy hstart
    rw [← hyvalue] at hz
    exact exists_bind hy' ((hf y'.value).run (.inl hs') hz hend)

instance Matched.pure (a : α) : Matched (pure a : Parser σ.wrapped α) (pure a) where
  kept hs hx := by
    cases hx
    exact hs
  run hs hx _ := by
    cases hx
    exact ⟨_, rfl, rfl, hs⟩

instance {c : Prop} [Decidable c] {p' : Parser σ.wrapped α} {q' : Parser σ.padded α}
    [hp : Matched p q] [hp' : Matched p' q'] :
    Matched (if c then p else p') (if c then q else q') := by
  split
  · exact hp
  · exact hp'

instance {c : Prop} [Decidable c] {p' : Parser σ.wrapped α} {q' : Parser σ.padded α}
    [hp : MatchedInside p q] [hp' : MatchedInside p' q'] :
    MatchedInside (if c then p else p') (if c then q else q') := by
  split
  · exact hp
  · exact hp'

/-! ## Whatever `yield` is -/

/-- What leaves it as it was whether `yield` is a name matches. -/
theorem MatchedFreely.matched (h : MatchedFreely p q)
    (hyields : ∀ {s : State σ.wrapped} {x : Step s α}, p s = .ok x →
      x.state.context.allowsYield = s.context.allowsYield) : Matched p q where
  kept hs hx := by
    obtain ⟨b', hkept⟩ := h.kept hs hx
    exact hkept.restored fun hyield => (hyields hx).trans (hs.yields hyield)
  run hs hx hend := h.run hs hx hend.start_le

/-- What does not match because of `yield` does so where the text does not end in one. -/
theorem MatchedFreely.matched_of_plain (h : MatchedFreely p q) (hplain : ¬ EndsInYield σ.text) :
    Matched p q where
  kept hs hx := by
    obtain ⟨b', hkept⟩ := h.kept hs hx
    exact hkept.restored fun hyield => absurd hyield hplain
  run hs hx hend := h.run hs hx hend.start_le

instance [hp : MatchedFreely p q] [hf : ∀ a, MatchedFreely (f a) (g a)] :
    MatchedFreely (p >>= f) (q >>= g) where
  kept hs hx := by
    obtain ⟨y, z, hy, hz, -, hstate⟩ := exists_of_bind hx
    obtain ⟨b', hkept⟩ := hp.kept hs hy
    rw [hstate]
    exact (hf y.value).kept hkept hz
  run hs hx hend := by
    obtain ⟨y, z, hy, hz, hvalue, hstate⟩ := exists_of_bind hx
    rw [hvalue, hstate]
    rw [hstate] at hend
    obtain ⟨y', hy', hyvalue, hs'⟩ := hp.run hs hy (Nat.le_trans z.since hend)
    rw [← hyvalue] at hz
    exact exists_bind hy' ((hf y'.value).run hs' hz hend)

theorem MatchedFreely.bind (hp : MatchedFreely p q) (hf : ∀ a, MatchedFreely (f a) (g a)) :
    MatchedFreely (p >>= f) (q >>= g) :=
  inferInstance

/-- A token that is read behind a part stands in front of the closing parenthesis. -/
instance (priority := low) matchedFreely_of_consumes [hconsumes : ∀ a, Consumes (f a)]
    [hp : MatchedInside p q] [hf : ∀ a, MatchedFreely (f a) (g a)] :
    MatchedFreely (p >>= f) (q >>= g) where
  kept hs hx := by
    obtain ⟨y, z, hy, hz, -, hstate⟩ := exists_of_bind hx
    rw [hstate]
    exact (hf y.value).kept (hp.kept hs hy) hz
  run hs hx hend := by
    obtain ⟨y, z, hy, hz, hvalue, hstate⟩ := exists_of_bind hx
    rw [hvalue, hstate]
    rw [hstate] at hend
    have hstart := (hp.kept hs.kept hy).start_lt ((hconsumes y.value).cursor_le hz) hend
    have hinside := hs.inside (Nat.lt_of_le_of_lt y.since hstart)
    obtain ⟨y', hy', hyvalue, hs'⟩ := hp.run hinside hy hstart
    rw [← hyvalue] at hz
    exact exists_bind hy' ((hf y'.value).run (.inl hs') hz hend)

instance {c : Prop} [Decidable c] {p' : Parser σ.wrapped α} {q' : Parser σ.padded α}
    [hp : MatchedFreely p q] [hp' : MatchedFreely p' q'] :
    MatchedFreely (if c then p else p') (if c then q else q') := by
  split
  · exact hp
  · exact hp'

instance (a : α) : MatchedFreely (pure a : Parser σ.wrapped α) (pure a) where
  kept hs hx := by
    cases hx
    exact ⟨_, hs⟩
  run hs hx _ := by
    cases hx
    exact ⟨_, rfl, rfl, hs⟩

/-! ## Where `yield` is a name -/

instance (priority := low) [h : MatchedFreely p q] : MatchedNaming p q where
  kept := h.kept
  run hs _ := h.run hs

/-- What matches leaves `yield` a name. -/
instance [hp : Matched p q] [hf : ∀ a, MatchedNaming (f a) (g a)] :
    MatchedNaming (p >>= f) (q >>= g) where
  kept hs hx := by
    obtain ⟨y, z, hy, hz, -, hstate⟩ := exists_of_bind hx
    rw [hstate]
    exact (hf y.value).kept (hp.kept hs hy) hz
  run hs hname hx hend := by
    obtain ⟨y, z, hy, hz, hvalue, hstate⟩ := exists_of_bind hx
    rw [hvalue, hstate]
    rw [hstate] at hend
    have hkept := hp.kept hname hy
    obtain ⟨y', hy', hyvalue, hs'⟩ := hp.run hs hy (hkept.fits (Nat.le_trans z.since hend))
    rw [← hyvalue] at hz
    exact exists_bind hy' ((hf y'.value).run hs' hkept hz hend)

instance {c : Prop} [Decidable c] {p' : Parser σ.wrapped α} {q' : Parser σ.padded α}
    [hp : MatchedNaming p q] [hp' : MatchedNaming p' q'] :
    MatchedNaming (if c then p else p') (if c then q else q') := by
  split
  · exact hp
  · exact hp'

/-! ## Restoring what `yield` is -/

section Restoring

variable {b : Bool}

instance [hf : ∀ a, Restores b (f a)] : Restores b (p >>= f) where
  allowsYield hx := by
    obtain ⟨y, z, -, hz, -, hstate⟩ := exists_of_bind hx
    rw [hstate]
    exact (hf y.value).allowsYield hz

instance (priority := low) [hp : Restores b p] (a : β) : Restores b (p >>= fun _ => pure a) where
  allowsYield hx := by
    obtain ⟨y, z, hy, hz, -, hstate⟩ := exists_of_bind hx
    cases hz
    rw [hstate]
    exact hp.allowsYield hy

instance {c : Prop} [Decidable c] {p' : Parser σ.wrapped α} [hp : Restores b p]
    [hp' : Restores b p'] : Restores b (if c then p else p') := by
  split
  · exact hp
  · exact hp'

end Restoring

/-! ## Steps -/

instance : Consumes (next : Parser σ.wrapped Token) where
  cursor_le hx := (next_spec hx).2

instance [hp : Consumes p] : Consumes (p >>= f) where
  cursor_le hx := by
    obtain ⟨y, z, hy, -, -, hstate⟩ := exists_of_bind hx
    rw [hstate]
    exact Nat.le_trans (hp.cursor_le hy) z.since

instance (priority := low) [hp : Consumes p] : Blocked p where
  closing_lt hs hx := Nat.lt_of_lt_of_le hs.closing_lt (hp.cursor_le hx)

instance (priority := low) [hp : Blocked p] : Still p where
  closing hs hx := .inr (hp.closing_lt hs hx)

instance (priority := low) [hp : Blocked p] : Blocked (p >>= f) where
  closing_lt hs hx := by
    obtain ⟨y, z, hy, -, -, hstate⟩ := exists_of_bind hx
    rw [hstate]
    exact Nat.lt_of_lt_of_le (hp.closing_lt hs hy) z.since

instance [hp : Still p] [hf : ∀ a, Blocked (f a)] : Blocked (p >>= f) where
  closing_lt hs hx := by
    obtain ⟨y, z, hy, hz, -, hstate⟩ := exists_of_bind hx
    rw [hstate]
    rcases hp.closing hs hy with hclosing | hlt
    · exact (hf y.value).closing_lt hclosing hz
    · exact Nat.lt_of_lt_of_le hlt z.since

theorem Blocked.of_still (hp : Still p) (hf : ∀ a, Blocked (f a)) : Blocked (p >>= f) :=
  inferInstance

instance {c : Prop} [Decidable c] {p' : Parser σ.wrapped α} [hp : Blocked p] [hp' : Blocked p'] :
    Blocked (if c then p else p') := by
  split
  · exact hp
  · exact hp'

instance [hp : Still p] [hf : ∀ a, Still (f a)] : Still (p >>= f) where
  closing hs hx := by
    obtain ⟨y, z, hy, hz, -, hstate⟩ := exists_of_bind hx
    rw [hstate]
    rcases hp.closing hs hy with hclosing | hlt
    · exact (hf y.value).closing hclosing hz
    · exact .inr (Nat.lt_of_lt_of_le hlt z.since)

instance (a : α) : Still (pure a : Parser σ.wrapped α) where
  closing hs hx := by
    cases hx
    exact .inl hs

instance {c : Prop} [Decidable c] {p' : Parser σ.wrapped α} [hp : Still p] [hp' : Still p'] :
    Still (if c then p else p') := by
  split
  · exact hp
  · exact hp'

/-! ## Failing -/

theorem matchedFreely_of_error {e : State σ.wrapped → Halt} (h : ∀ s, p s = .error (e s)) :
    MatchedFreely p q where
  kept _ hx := by
    rw [h] at hx
    cases hx
  run _ hx := by
    rw [h] at hx
    cases hx

/-- A parser that always fails matches every other. -/
theorem matched_of_error {e : State σ.wrapped → Halt} (h : ∀ s, p s = .error (e s)) :
    Matched p q :=
  (matchedFreely_of_error h).matched fun {s x} hx => by
    rw [h] at hx
    cases hx

/-- A parser that always fails is blocked. -/
theorem blocked_of_error {e : State σ.wrapped → Halt} (h : ∀ s, p s = .error (e s)) :
    Blocked p where
  closing_lt _ hx := by
    rw [h] at hx
    cases hx

section Failing

variable (h : Halt) (c : Cause) (t : Token)

instance : Matched (halt h : Parser σ.wrapped α) (halt h) := matched_of_error fun _ => rfl

instance : Matched (fail c : Parser σ.wrapped α) (fail c) := matched_of_error fun _ => rfl

instance : Blocked (fail c : Parser σ.wrapped α) := blocked_of_error fun _ => rfl

instance : Matched (fail c >>= f) (fail c >>= g) := matched_of_error fun _ => rfl

instance : Matched (failAhead c : Parser σ.wrapped α) (failAhead c) := matched_of_error fun _ => rfl

instance : Matched (failAhead c >>= f) (failAhead c >>= g) := matched_of_error fun _ => rfl

instance : Matched (refuse t c : Parser σ.wrapped α) (refuse t c) := matched_of_error fun _ => rfl

instance : Blocked (refuse t c : Parser σ.wrapped α) := blocked_of_error fun _ => rfl

instance : Matched (unexpected t : Parser σ.wrapped α) (unexpected t) :=
  matched_of_error fun _ => rfl

instance : Blocked (unexpected t : Parser σ.wrapped α) := blocked_of_error fun _ => rfl

instance : Matched (unexpected t >>= f) (unexpected t >>= g) := matched_of_error fun _ => rfl

instance : MatchedFreely (fail c : Parser σ.wrapped α) (fail c) :=
  matchedFreely_of_error fun _ => rfl

instance : MatchedFreely (failAhead c : Parser σ.wrapped α) (failAhead c) :=
  matchedFreely_of_error fun _ => rfl

instance : MatchedFreely (refuse t c : Parser σ.wrapped α) (refuse t c) :=
  matchedFreely_of_error fun _ => rfl

instance : MatchedFreely (unexpected t : Parser σ.wrapped α) (unexpected t) :=
  matchedFreely_of_error fun _ => rfl

instance : MatchedFreely (unexpected t >>= f) (unexpected t >>= g) :=
  matchedFreely_of_error fun _ => rfl

end Failing

theorem kept_next {s : State σ.wrapped} {x : Step s Token} (h : next s = .ok x) :
    x.state.Kept s.context.allowsYield := by
  obtain ⟨mark, l, hgap, hlex, -, hstate⟩ := exists_of_next h
  have hwithin := x.state.mark_within
  rw [hstate, State.mark_advance] at hwithin
  have hstart : x.state.lookahead.start = mark.index := by
    rw [hstate, State.lookahead_advance, Token.start_reserved, (lexes_lex hlex).start_eq]
  refine ⟨fun hclosing => ?_, fun hlt => ?_, fun hword => ?_, fun _ => by rw [context_of_next h]⟩
  · rw [hstart] at hclosing
    rw [hstate]
    cases (lex_close (Source.rest_closing hwithin hclosing) _).symm.trans hlex
    exact Nat.lt_of_le_of_lt (Nat.le_of_eq hclosing.symm) (Nat.lt_succ_self _)
  · rw [hstart] at hlt
    have hrest : mark.rest = [] := by
      rw [hwithin]
      refine List.drop_eq_nil_of_le ?_
      rw [← Source.length_eq, Source.length_wrapped]
      exact hlt
    cases (lex_end hrest _).symm.trans hlex
    rw [hstate, State.lookahead_advance, Token.reserved_of_plain (by rintro ⟨⟩)]
  · rw [hstate, State.lookahead_advance] at hword
    exact hasWord_of_lex hwithin hlex hword

instance : MatchedFreely (next : Parser σ.wrapped Token) next where
  kept _ hx := ⟨_, kept_next hx⟩
  run hs hx hend := by
    rcases hs with hs | hs
    · exact hs.next hx hend
    · exact absurd (Nat.lt_of_lt_of_le hs.closing.closing_lt (next_spec hx).2)
        (Nat.not_lt.mpr hend)

instance : Matched (next : Parser σ.wrapped Token) next :=
  MatchedFreely.matched inferInstance fun hx => by rw [context_of_next hx]

/-! ## Looking at a state -/

section Look

variable {φ : State σ.wrapped → α} {ψ : State σ.padded → α}

theorem matchedFreely_of_look (hp : ∀ s, p s = .ok ⟨φ s, s, s.since_self⟩)
    (hq : ∀ s, q s = .ok ⟨ψ s, s, s.since_self⟩) (h : ∀ {s s'}, s.Matches s' → ψ s' = φ s) :
    MatchedFreely p q where
  kept hs hx := by
    rw [hp] at hx
    cases hx
    exact ⟨_, hs⟩
  run hs hx _ := by
    rw [hp] at hx
    cases hx
    exact ⟨_, hq _, h hs, hs⟩

/-- Parsers that yield the same of matching states and read nothing. -/
theorem matched_of_look (hp : ∀ s, p s = .ok ⟨φ s, s, s.since_self⟩)
    (hq : ∀ s, q s = .ok ⟨ψ s, s, s.since_self⟩) (h : ∀ {s s'}, s.Matches s' → ψ s' = φ s) :
    Matched p q :=
  (matchedFreely_of_look hp hq h).matched fun {s x} hx => by
    rw [hp] at hx
    cases hx
    rfl

theorem matchedInside_of_look (hp : ∀ s, p s = .ok ⟨φ s, s, s.since_self⟩)
    (hq : ∀ s, q s = .ok ⟨ψ s, s, s.since_self⟩) (h : ∀ {s s'}, s.Inside s' → ψ s' = φ s) :
    MatchedInside p q where
  kept hs hx := by
    rw [hp] at hx
    cases hx
    exact hs
  run hs hx _ := by
    rw [hp] at hx
    cases hx
    exact ⟨_, hq _, h hs, hs⟩

theorem still_of_look (hp : ∀ s, p s = .ok ⟨φ s, s, s.since_self⟩) : Still p where
  closing hs hx := by
    rw [hp] at hx
    cases hx
    exact .inl hs

end Look

end Parser

theorem State.Matches.context {s : State σ.wrapped} {s' : State σ.padded} (h : s.Matches s') :
    s'.context = s.context := by
  rcases h with h | h
  · exact h.context
  · exact h.context

theorem State.Matches.newline {s : State σ.wrapped} {s' : State σ.padded} (h : s.Matches s') :
    s'.newline = s.newline := by
  rcases h with h | h
  · exact h.newline
  · exact h.newline

theorem State.Matches.line {s : State σ.wrapped} {s' : State σ.padded} (h : s.Matches s') :
    s'.cursor.line = s.cursor.line := by
  rcases h with h | h
  · exact h.cursor.line
  · rw [h.cursor]

namespace Parser

instance : MatchedFreely (Parser.context : Parser σ.wrapped Context) Parser.context :=
  matchedFreely_of_look (fun _ => rfl) (fun _ => rfl) State.Matches.context

instance : Matched (Parser.context : Parser σ.wrapped Context) Parser.context :=
  matched_of_look (fun _ => rfl) (fun _ => rfl) State.Matches.context

instance : Still (Parser.context : Parser σ.wrapped Context) := still_of_look fun _ => rfl

instance : Matched (newline : Parser σ.wrapped Bool) newline :=
  matched_of_look (fun _ => rfl) (fun _ => rfl) State.Matches.newline

instance : Still (peek : Parser σ.wrapped Token) := still_of_look fun _ => rfl

instance (v : String) : MatchedInside (isAt v : Parser σ.wrapped Bool) (isAt v) :=
  matchedInside_of_look (fun _ => rfl) (fun _ => rfl) fun h =>
    congrArg (Token.isPunctuator · v) h.lookahead

instance (v : String) : Still (isAt v : Parser σ.wrapped Bool) := still_of_look fun _ => rfl

instance : MatchedInside (isAtEnd : Parser σ.wrapped Bool) isAtEnd :=
  matchedInside_of_look (fun _ => rfl) (fun _ => rfl) fun h =>
    congrArg (Token.kind · == .endOfInput) h.lookahead

/-- The spelling is not that of a closing parenthesis. -/
class Other (v : String) : Prop where
  ne : v ≠ ")"

theorem isPunctuator_closing {s : State σ.wrapped} (h : s.Closing) (v : String) [hv : Other v] :
    s.lookahead.isPunctuator v = false := by
  rw [Token.isPunctuator, h.value, beq_eq_false_iff_ne.mpr hv.ne.symm, Bool.and_false]

instance (v : String) [Other v] : Matched (isAt v : Parser σ.wrapped Bool) (isAt v) :=
  matched_of_look (fun _ => rfl) (fun _ => rfl) fun h => by
    rcases h with h | h
    · exact congrArg (Token.isPunctuator · v) h.lookahead
    · rw [isPunctuator_closing h.closing, Token.isPunctuator, h.kind]
      rfl

instance (v : String) : Matched (isAtKeyword v : Parser σ.wrapped Bool) (isAtKeyword v) :=
  matched_of_look (fun _ => rfl) (fun _ => rfl) fun h => by
    rcases h with h | h
    · exact congrArg (Token.isKeyword · v) h.lookahead
    · rw [Token.isKeyword, Token.isKeyword, h.closing.kind, h.kind]
      rfl

instance (v : String) : Still (isAtKeyword v : Parser σ.wrapped Bool) := still_of_look fun _ => rfl

instance (v : String) : Matched (isAtContextual v : Parser σ.wrapped Bool) (isAtContextual v) :=
  matched_of_look (fun _ => rfl) (fun _ => rfl) fun h => by
    rcases h with h | h
    · exact congrArg (Token.isContextual · v) h.lookahead
    · rw [Token.isContextual, Token.isContextual, h.closing.kind, h.kind]
      rfl

instance (v : String) : Still (isAtContextual v : Parser σ.wrapped Bool) :=
  still_of_look fun _ => rfl

/-- What is seen of matching states may differ, as long as the parsers behind match. -/
theorem matched_bind_of_look {α' : Type} {p : Parser σ.wrapped α} {q : Parser σ.padded α'}
    {f : α → Parser σ.wrapped β} {g : α' → Parser σ.padded β} {φ : State σ.wrapped → α}
    {ψ : State σ.padded → α'} (hp : ∀ s, p s = .ok ⟨φ s, s, s.since_self⟩)
    (hq : ∀ s, q s = .ok ⟨ψ s, s, s.since_self⟩)
    (hkept : ∀ {b : Bool} {s : State σ.wrapped} {x}, s.Kept b → f (φ s) s = .ok x → x.state.Kept b)
    (hrun : ∀ {s : State σ.wrapped} {s' : State σ.padded} {x}, s.Matches s' → f (φ s) s = .ok x →
      x.state.Fits → ∃ y, g (ψ s') s' = .ok y ∧ y.value = x.value ∧ x.state.Matches y.state) :
    Matched (p >>= f) (q >>= g) where
  kept hs hx := by
    obtain ⟨y, z, hy, hz, -, hstate⟩ := exists_of_bind hx
    rw [hp] at hy
    cases hy
    rw [hstate]
    exact hkept hs hz
  run hs hx hend := by
    obtain ⟨y, z, hy, hz, hvalue, hstate⟩ := exists_of_bind hx
    rw [hp] at hy
    cases hy
    rw [hstate] at hend
    rw [hvalue, hstate]
    exact exists_bind (hq _) (hrun hs hz hend)

/-! ## The token ahead -/

/-- The token ahead: the same, or the closing parenthesis and the end. -/
def AheadAlike (t t' : Token) : Prop :=
  t' = t ∨ t.kind = .punctuator ∧ t.value = ")" ∧ t'.kind = .endOfInput ∧ t'.line = t.line

end Parser

theorem State.Matches.ahead {s : State σ.wrapped} {s' : State σ.padded}
    (h : s.Matches s') : Parser.AheadAlike s.lookahead s'.lookahead := by
  rcases h with h | h
  · exact .inl h.lookahead
  · exact .inr ⟨h.closing.kind, h.closing.value, h.kind, h.line⟩

namespace Parser

variable {α β : Type}

/-- If the token is the word of a getter, this is one of the text. -/
class Stands (σ : Source) (t : Token) : Prop where
  getter : t.isContextual "get" → HasWord σ.text "get"

/-- What is asked of the token ahead has the same answer for the parenthesis and the end. -/
theorem matched_peek_test {γ : Type} {φ : Token → γ} {f : γ → Parser σ.wrapped α}
    {g : γ → Parser σ.padded α} (hφ : ∀ {t t'}, AheadAlike t t' → φ t' = φ t)
    (hf : ∀ b, Matched (f b) (g b)) :
    Matched (peek >>= fun t => f (φ t)) (peek >>= fun t => g (φ t)) := by
  refine matched_bind_of_look (fun _ => rfl) (fun _ => rfl) (hf _).kept fun hs => ?_
  rw [hφ hs.ahead]
  exact (hf _).run hs

/-- What neither the parenthesis nor the end passes may go on with the token. -/
theorem matched_peek_if {φ : Token → Bool} {f : Token → Parser σ.wrapped α}
    {g : Token → Parser σ.padded α} {p : Parser σ.wrapped α} {q : Parser σ.padded α}
    (hφ : ∀ {t t'}, AheadAlike t t' → t' = t ∨ φ t = false ∧ φ t' = false)
    (hf : ∀ t [Stands σ t], Matched (f t) (g t)) (hp : Matched p q) :
    Matched (peek >>= fun t => if φ t then f t else p)
      (peek >>= fun t => if φ t then g t else q) := by
  have hboth (t : Token) [Stands σ t] : Matched (if φ t then f t else p) (if φ t then g t else q) :=
    inferInstance
  refine matched_bind_of_look (fun _ => rfl) (fun _ => rfl) (fun {b s x} hs hx => ?_)
    fun {s s' x} hs hx => ?_
  · have : Stands σ s.lookahead := ⟨hs.getter⟩
    exact (hboth _).kept hs hx
  have : Stands σ s.lookahead := ⟨hs.kept.getter⟩
  rcases hφ hs.ahead with heq | ⟨hfalse, hfalse'⟩
  · rw [heq]
    exact (hboth _).run hs hx
  · rw [hfalse] at hx
    rw [hfalse']
    exact hp.run hs hx

/-- The token ahead may be looked at where no run goes on from the parenthesis. -/
theorem matched_peek_of_closing {f : Token → Parser σ.wrapped α} {g : Token → Parser σ.padded α}
    (hf : ∀ t [Stands σ t], Matched (f t) (g t))
    (hclosing : ∀ {s : State σ.wrapped} {x : Step s α}, s.Closing → f s.lookahead s = .ok x →
      σ.closing < x.state.lookahead.start) :
    Matched (peek >>= f) (peek >>= g) := by
  refine matched_bind_of_look (fun _ => rfl) (fun _ => rfl) (fun {b s x} hs hx => ?_) ?_
  · have : Stands σ s.lookahead := ⟨hs.getter⟩
    exact (hf _).kept hs hx
  rintro s s' x (hs | hs) hx hend
  · have : Stands σ s.lookahead := ⟨hs.getter⟩
    rw [hs.lookahead]
    exact (hf _).run (.inl hs) hx hend
  · exact absurd (hclosing hs.closing hx) (Nat.not_lt.mpr hend.start_le)

theorem matched_peek {f : Token → Parser σ.wrapped α} {g : Token → Parser σ.padded α}
    (hf : ∀ t [Stands σ t], Matched (f t) (g t))
    (hblocked : ∀ t : Token, t.kind = .punctuator → t.value = ")" → Blocked (f t)) :
    Matched (peek >>= f) (peek >>= g) :=
  matched_peek_of_closing hf fun hs => (hblocked _ hs.kind hs.value).closing_lt hs

theorem blocked_peek {f : Token → Parser σ.wrapped α}
    (h : ∀ t : Token, t.kind = .punctuator → t.value = ")" → Blocked (f t)) :
    Blocked (peek >>= f) where
  closing_lt {s x} hs hx := by
    obtain ⟨y, z, hy, hz, -, hstate⟩ := exists_of_bind hx
    cases hy
    rw [hstate]
    exact (h s.lookahead hs.kind hs.value).closing_lt hs hz

/-- The same for a parser that is known to be blocked as a whole. -/
theorem Blocked.matched_peek {f : Token → Parser σ.wrapped α} {g : Token → Parser σ.padded α}
    (hblocked : Blocked (peek >>= f)) (hf : ∀ t [Stands σ t], Matched (f t) (g t)) :
    Matched (peek >>= f) (peek >>= g) := by
  refine matched_peek_of_closing hf fun {s x} hs hx => ?_
  obtain ⟨z, hz, -, hstate⟩ := bind_eq (p := peek) (y := ⟨s.lookahead, s, s.since_self⟩) rfl hx
  rw [← hstate]
  exact hblocked.closing_lt hs hz

instance {f : Token → Parser σ.wrapped α} {g : Token → Parser σ.padded α}
    [hf : ∀ t, Matched (f t) (g t)] [hblocked : ∀ t, Blocked (f t)] :
    Matched (peek >>= f) (peek >>= g) :=
  matched_peek (fun t => hf t) fun t _ _ => hblocked t

/-! ## Reading given tokens -/

instance (v : String) : Matched (expect v : Parser σ.wrapped Unit) (expect v) := by
  unfold expect
  infer_instance

instance (v : String) : MatchedFreely (expect v : Parser σ.wrapped Unit) (expect v) := by
  unfold expect
  infer_instance

instance (v : String) : Consumes (expect v : Parser σ.wrapped Unit) := by
  unfold expect
  infer_instance

instance (v : String) : Matched (expectKeyword v : Parser σ.wrapped Unit) (expectKeyword v) := by
  unfold expectKeyword
  infer_instance

instance (v : String) : Consumes (expectKeyword v : Parser σ.wrapped Unit) := by
  unfold expectKeyword
  infer_instance

/-- The second run need not go the same way where the first one reads the closing parenthesis. -/
theorem matched_isAt_closing {f : Bool → Parser σ.wrapped α} {g : Bool → Parser σ.padded α}
    (hf : ∀ b, Matched (f b) (g b)) (hblocked : Blocked (f true)) :
    Matched (isAt ")" >>= f) (isAt ")" >>= g) := by
  refine matched_bind_of_look (fun _ => rfl) (fun _ => rfl) (hf _).kept ?_
  rintro s s' x (hs | hs) hx hend
  · rw [hs.lookahead]
    exact (hf _).run (.inl hs) hx hend
  · have hat : s.lookahead.isPunctuator ")" = true := by
      rw [Token.isPunctuator, hs.closing.kind, hs.closing.value]
      rfl
    rw [← hat] at hblocked
    exact absurd (hblocked.closing_lt hs.closing hx) (Nat.not_lt.mpr hend.start_le)

instance (v : String) : Matched (accept v : Parser σ.wrapped Bool) (accept v) := by
  unfold accept
  by_cases hv : v = ")"
  · rw [hv]
    refine matched_isAt_closing (fun b => ?_) ?_
    · infer_instance
    · rw [if_pos rfl]
      infer_instance
  · have : Other v := ⟨hv⟩
    infer_instance

instance (v : String) : Still (accept v : Parser σ.wrapped Bool) := by
  unfold accept
  infer_instance

instance (v : String) : Matched (acceptKeyword v : Parser σ.wrapped Bool) (acceptKeyword v) := by
  unfold acceptKeyword
  infer_instance

instance (v : String) : Still (acceptKeyword v : Parser σ.wrapped Bool) := by
  unfold acceptKeyword
  infer_instance

instance (v : String) :
    Matched (acceptContextual v : Parser σ.wrapped Bool) (acceptContextual v) := by
  unfold acceptContextual
  infer_instance

instance (v : String) : Still (acceptContextual v : Parser σ.wrapped Bool) := by
  unfold acceptContextual
  infer_instance

/-! ## Changing the context -/

/-- A change of the context that leaves it to a classic script. -/
class KeepsGoal (f : Context → Context) : Prop where
  isModule : ∀ c, (f c).isModule = c.isModule

instance {strict awaits allowsIn allowsDirective allowsYield assignable bindable inFunction inLoop
    inSwitch : Context → Bool} {labels : Context → List (List Nat)}
    {initializer : Context → Option Token} :
    KeepsGoal fun c => ⟨strict c, c.isModule, awaits c, allowsIn c, allowsDirective c, allowsYield c,
      assignable c, bindable c, inFunction c, inLoop c, inSwitch c, labels c, initializer c⟩ where
  isModule _ := rfl

/-- A change of the context that leaves it as it is whether `yield` is a name. -/
class KeepsYield (f : Context → Context) : Prop where
  allowsYield : ∀ c, (f c).allowsYield = c.allowsYield

instance {strict isModule awaits allowsIn allowsDirective assignable bindable inFunction inLoop
    inSwitch : Context → Bool} {labels : Context → List (List Nat)}
    {initializer : Context → Option Token} :
    KeepsYield fun c => ⟨strict c, isModule c, awaits c, allowsIn c, allowsDirective c, c.allowsYield,
      assignable c, bindable c, inFunction c, inLoop c, inSwitch c, labels c, initializer c⟩ where
  allowsYield _ := rfl

/-- A change of the context that says whether `yield` is a name. -/
class SetsYield (b : Bool) (f : Context → Context) : Prop where
  allowsYield : ∀ c, (f c).allowsYield = b

instance {b : Bool} {strict isModule awaits allowsIn allowsDirective assignable bindable inFunction
    inLoop inSwitch : Context → Bool} {labels : Context → List (List Nat)}
    {initializer : Context → Option Token} :
    SetsYield b fun c => ⟨strict c, isModule c, awaits c, allowsIn c, allowsDirective c, b,
      assignable c, bindable c, inFunction c, inLoop c, inSwitch c, labels c, initializer c⟩ where
  allowsYield _ := rfl

instance (f : Context → Context) [hf : KeepsGoal f] :
    MatchedFreely (setContext f : Parser σ.wrapped Unit) (setContext f) where
  kept hs hx := by
    cases hx
    exact ⟨_, hs.closing_lt, hs.kind, hs.getter, fun _ => rfl⟩
  run hs hx _ := by
    cases hx
    refine ⟨_, rfl, rfl, ?_⟩
    rcases hs with h | h
    · exact .inl ⟨⟨h.cursor, h.braces, h.sloppy, h.lookahead, congrArg f h.context,
        (hf.isModule _).trans h.isScript⟩, h.start_lt, h.mark, h.newline, h.string, h.word, h.getter⟩
    · have hclosing := h.closing
      exact .inr ⟨⟨hclosing.start_eq, hclosing.kind, hclosing.value, hclosing.cursor, hclosing.mark⟩,
        h.cursor, h.kind, h.line, h.braces, h.sloppy, h.newline, congrArg f h.context,
        (hf.isModule _).trans h.isScript⟩

instance (f : Context → Context) [KeepsGoal f] [hf : KeepsYield f] :
    Matched (setContext f : Parser σ.wrapped Unit) (setContext f) :=
  MatchedFreely.matched inferInstance fun hx => by
    cases hx
    exact hf.allowsYield _

instance (f : Context → Context) {b : Bool} [hf : SetsYield b f] :
    Restores b (setContext f : Parser σ.wrapped Unit) where
  allowsYield hx := by
    cases hx
    exact hf.allowsYield _

/-- Where `yield` is made a name it is one. -/
instance (f : Context → Context) [KeepsGoal f] [hf : SetsYield true f]
    {p : Unit → Parser σ.wrapped α} {q : Unit → Parser σ.padded α}
    [hp : ∀ u, MatchedNaming (p u) (q u)] :
    MatchedFreely (setContext f >>= p) (setContext f >>= q) where
  kept hs hx := by
    obtain ⟨y, z, hy, hz, -, hstate⟩ := exists_of_bind hx
    obtain ⟨b', hkept⟩ := MatchedFreely.kept (setContext f) hs hy
    rw [hstate]
    exact (hp y.value).kept hkept hz
  run hs hx hend := by
    obtain ⟨y, z, hy, hz, hvalue, hstate⟩ := exists_of_bind hx
    rw [hvalue, hstate]
    rw [hstate] at hend
    obtain ⟨y', hy', hyvalue, hs'⟩ :=
      MatchedFreely.run (q := setContext f) hs hy (Nat.le_trans z.since hend)
    have hname : y.state.context.allowsYield = true := Restores.allowsYield hy
    have hkept := hs'.kept
    rw [hname] at hkept
    exact exists_bind hy' ((hp y'.value).run hs' hkept hz hend)

/-- What is read between setting what `yield` is and restoring it does not matter to what stands
behind. -/
theorem matched_restoring {p : Context → Parser σ.wrapped α} {q : Context → Parser σ.padded α}
    (hfree : ∀ c, MatchedFreely (p c) (q c)) (hrestores : ∀ c, Restores c.allowsYield (p c)) :
    Matched (Parser.context >>= p) (Parser.context >>= q) :=
  MatchedFreely.matched inferInstance fun hx => by
    obtain ⟨y, z, hy, hz, -, hstate⟩ := exists_of_bind hx
    cases hy
    rw [hstate]
    exact (hrestores _).allowsYield hz

instance (f : Context → Context) : Still (setContext f : Parser σ.wrapped Unit) where
  closing hs hx := by
    cases hx
    exact .inl ⟨hs.start_eq, hs.kind, hs.value, hs.cursor, hs.mark⟩

instance : Matched (noTarget : Parser σ.wrapped Unit) noTarget := by
  unfold noTarget
  infer_instance

instance : MatchedFreely (noTarget : Parser σ.wrapped Unit) noTarget := by
  unfold noTarget
  infer_instance

instance : Still (noTarget : Parser σ.wrapped Unit) := by
  unfold noTarget
  infer_instance

instance [Matched p q] : Matched (isolate p) (isolate q) := by
  unfold isolate
  refine .bind inferInstance fun before => .bind inferInstance fun _ =>
    .bind inferInstance fun a => .bind inferInstance fun c => ?_
  rcases c.initializer with _ | t
  · dsimp only
    infer_instance
  · dsimp only
    infer_instance

instance [MatchedFreely p q] : MatchedFreely (isolate p) (isolate q) := by
  unfold isolate
  refine .bind inferInstance fun before => .bind inferInstance fun _ =>
    .bind inferInstance fun a => .bind inferInstance fun c => ?_
  rcases c.initializer with _ | t
  · dsimp only
    infer_instance
  · dsimp only
    infer_instance

instance [Matched p q] : Matched (inherit p) (inherit q) := by
  unfold inherit
  infer_instance

instance [Blocked p] : Blocked (isolate p) := by
  unfold isolate
  infer_instance

instance [Blocked p] : Blocked (inherit p) := by
  unfold inherit
  infer_instance

/-! ## Loops -/

section Loops

variable {step : α → Parser σ.wrapped (α ⊕ β)} {step' : α → Parser σ.padded (α ⊕ β)}

/-- What holds of the steps holds of the loops, if it holds of parsers one after another. -/
theorem iterateFrom_of_step {R : {γ : Type} → Parser σ.wrapped γ → Parser σ.padded γ → Prop}
    (hfail : R (fail .unexpectedEnd : Parser σ.wrapped β) (fail .unexpectedEnd))
    (hpure : ∀ b : β, R (pure b) (pure b))
    (hbind : ∀ {p : Parser σ.wrapped (α ⊕ β)} {q : Parser σ.padded (α ⊕ β)}
      {f : α ⊕ β → Parser σ.wrapped β} {g : α ⊕ β → Parser σ.padded β},
      R p q → (∀ r, R (f r) (g r)) → R (p >>= f) (q >>= g))
    (h : ∀ a, R (step a) (step' a)) (fuel : Nat) (a : α) :
    R (iterateFrom step fuel a) (iterateFrom step' fuel a) := by
  induction fuel generalizing a with
  | zero => exact hfail
  | succ fuel ih =>
    refine hbind (h a) fun r => ?_
    cases r with
    | inl a => exact ih a
    | inr b => exact hpure b

instance [h : ∀ a, Matched (step a) (step' a)] (fuel : Nat) (a : α) :
    Matched (iterateFrom step fuel a) (iterateFrom step' fuel a) :=
  iterateFrom_of_step (R := Matched) inferInstance (fun _ => inferInstance) .bind h fuel a

instance [h : ∀ a, MatchedInside (step a) (step' a)] (fuel : Nat) (a : α) :
    MatchedInside (iterateFrom step fuel a) (iterateFrom step' fuel a) :=
  iterateFrom_of_step (R := MatchedInside) inferInstance (fun _ => inferInstance) .bind h fuel a

theorem maxSteps_padded : maxSteps σ.padded = maxSteps σ.wrapped :=
  congrArg (· + 2) Source.length_padded

instance [∀ a, Matched (step a) (step' a)] (a : α) :
    Matched (iterate a step) (iterate a step') := by
  unfold iterate
  rw [maxSteps_padded]
  infer_instance

instance [∀ a, MatchedInside (step a) (step' a)] (a : α) :
    MatchedInside (iterate a step) (iterate a step') := by
  unfold iterate
  rw [maxSteps_padded]
  infer_instance

end Loops

section ManyUntil

variable {test : Parser σ.wrapped Bool} {test' : Parser σ.padded Bool}

instance [Matched test test'] [Matched p q] :
    Matched (manyUntil test p) (manyUntil test' q) := by
  unfold manyUntil
  infer_instance

instance [MatchedInside test test'] [MatchedInside p q] :
    MatchedInside (manyUntil test p) (manyUntil test' q) := by
  unfold manyUntil
  infer_instance

end ManyUntil

instance {γ : Type} {f : β → γ → Parser σ.wrapped β} {g : β → γ → Parser σ.padded β}
    [h : ∀ b c, Matched (f b c) (g b c)] (b : β) (l : List γ) :
    Matched (l.foldlM f b) (l.foldlM g b) := by
  induction l generalizing b with
  | nil => exact .pure b
  | cons c l ih =>
    rw [List.foldlM_cons, List.foldlM_cons]
    exact .bind (h b c) ih

/-! ## Recording and ending -/

end Parser

/-- Where the last token ended and what has been recorded do not matter. -/
theorem State.Matches.behind {s : State σ.wrapped} {s' : State σ.padded} (h : s.Matches s')
    (index line index' line' : Nat) (found : Found σ.wrapped) (found' : Found σ.padded) :
    State.Matches { s with lastIndex := index, lastLine := line, found }
      { s' with lastIndex := index', lastLine := line', found := found' } := by
  rcases h with h | h
  · exact .inl ⟨⟨h.cursor, h.braces, h.sloppy, h.lookahead, h.context, h.isScript⟩, h.start_lt,
      h.mark, h.newline, h.string, h.word, h.getter⟩
  · have hclosing := h.closing
    exact .inr ⟨⟨hclosing.start_eq, hclosing.kind, hclosing.value, hclosing.cursor, hclosing.mark⟩,
      h.cursor, h.kind, h.line, h.braces, h.sloppy, h.newline, h.context, h.isScript⟩

namespace Parser

instance : Matched (endHere : Parser σ.wrapped Unit) endHere where
  kept hs hx := by
    cases hx
    exact hs.congr rfl rfl rfl
  run hs hx _ := by
    cases hx
    exact ⟨_, rfl, rfl, hs.behind _ _ _ _ _ _⟩

instance (kind : Kind) (hkind : kind.IsPlain) (start start' : Nat) :
    Matched (record kind hkind start : Parser σ.wrapped Unit) (record kind hkind start') where
  kept hs hx := by
    cases hx
    exact hs.congr rfl rfl rfl
  run hs hx _ := by
    cases hx
    exact ⟨_, rfl, rfl, hs.behind _ _ _ _ _ _⟩

instance : Other "," := ⟨by decide⟩
instance : Other ";" := ⟨by decide⟩

instance : Matched (semicolon : Parser σ.wrapped Unit) semicolon := by
  unfold semicolon
  refine .bind inferInstance fun accepted => ?_
  split
  · infer_instance
  refine .bind inferInstance fun ended => ?_
  split
  · infer_instance
  refine matched_peek (fun t => inferInstance) fun t hkind hvalue => ?_
  rw [if_neg (by simp [Token.isPunctuator, hkind, hvalue])]
  infer_instance

instance : Other "(" := ⟨by decide⟩

instance {f : Nat → Parser σ.wrapped α} {g : Nat → Parser σ.padded α}
    [h : ∀ i j, Matched (f i) (g j)] : Matched (here >>= f) (here >>= g) :=
  matched_bind_of_look (fun _ => rfl) (fun _ => rfl) (h _ 0).kept fun hs => (h _ _).run hs

instance : Matched (literal : Parser σ.wrapped Token) literal := by
  unfold literal
  dsimp only
  infer_instance

instance : Consumes (literal : Parser σ.wrapped Token) where
  cursor_le hx := by
    obtain ⟨y, z, hy, hz, -, hstate⟩ := exists_of_bind hx
    cases hy
    rw [hstate]
    exact Consumes.cursor_le hz

/-! ## The token behind the next one -/

theorem peekSecond_eq {s : State σ} {mark : Cursor} {l : Lexed}
    (hgap : s.cursor.skipGap s.sloppy = .ok mark) (hlex : lex s.braces mark = .ok l) :
    peekSecond s = .ok ⟨l.token, { s with braces := l.braces }, s.since_self⟩ := by
  simp only [peekSecond, hgap, hlex]

theorem exists_of_peekSecond {s : State σ} {x : Step s Token} (h : peekSecond s = .ok x) :
    ∃ mark l, s.cursor.skipGap s.sloppy = .ok mark ∧ lex s.braces mark = .ok l ∧
      x = ⟨l.token, { s with braces := l.braces }, s.since_self⟩ := by
  unfold peekSecond at h
  split at h
  · cases h
  · next mark hgap =>
    split at h
    · cases h
    · next l hlex =>
      cases h
      exact ⟨mark, l, hgap, hlex, rfl⟩

theorem peekSecond_matched {s : State σ.wrapped} {s' : State σ.padded} (hs : s.Matches s')
    {mark : Cursor} {l : Lexed} (hgap : s.cursor.skipGap s.sloppy = .ok mark)
    (hlex : lex s.braces mark = .ok l) :
    ∃ y, peekSecond s' = .ok y ∧ AheadAlike l.token y.value ∧
      State.Matches { s with braces := l.braces } y.state := by
  rcases hs with h | h
  · have halike := h.cursor.skipsAlike hgap
    rw [← h.sloppy] at halike
    generalize hgap' : s'.cursor.skipGap s'.sloppy = gap at halike
    have hmatches (braces : List Bool) :
        State.Inside { s with braces } { s' with braces := braces } :=
      ⟨⟨h.cursor, rfl, h.sloppy, h.lookahead, h.context, h.isScript⟩, h.start_lt, h.mark,
        h.newline, h.string, h.word, h.getter⟩
    cases halike with
    | inside hmark htwo =>
      obtain ⟨e, hlex', he⟩ := lex_blanked hmark htwo s.braces l hlex
      rw [← h.braces] at hlex'
      exact ⟨_, peekSecond_eq hgap' hlex', .inl rfl, .inl (hmatches l.braces)⟩
    | close hrest =>
      cases (lex_close hrest s.braces).symm.trans hlex
      refine ⟨_, peekSecond_eq hgap' (lex_end rfl s'.braces), .inr ⟨rfl, rfl, rfl, rfl⟩, .inl ?_⟩
      rw [h.braces]
      exact hmatches s.braces
    | beyond hrest =>
      rw [← h.braces] at hlex
      exact ⟨_, peekSecond_eq hgap' hlex, .inl rfl, .inl (hmatches l.braces)⟩
  · have hclosing := h.closing
    rw [← h.cursor, ← h.sloppy] at hgap
    rw [← h.braces] at hlex
    exact ⟨_, peekSecond_eq hgap hlex, .inl rfl, .inr ⟨⟨hclosing.start_eq, hclosing.kind,
      hclosing.value, hclosing.cursor, hclosing.mark⟩, h.cursor, h.kind, h.line, rfl, h.sloppy,
      h.newline, h.context, h.isScript⟩⟩

theorem matched_second {φ : Token → Bool} (hφ : ∀ {t t'}, AheadAlike t t' → φ t' = φ t) :
    Matched (do return φ (← peekSecond) : Parser σ.wrapped Bool) (do return φ (← peekSecond)) where
  kept hs hx := by
    obtain ⟨y, z, hy, hz, -, hstate⟩ := exists_of_bind hx
    obtain ⟨mark, l, -, -, rfl⟩ := exists_of_peekSecond hy
    cases hz
    rw [hstate]
    exact hs.congr rfl rfl rfl
  run hs hx _ := by
    obtain ⟨y, z, hy, hz, hvalue, hstate⟩ := exists_of_bind hx
    obtain ⟨mark, l, hgap, hlex, rfl⟩ := exists_of_peekSecond hy
    cases hz
    obtain ⟨y', hy', halike, hmatches⟩ := peekSecond_matched hs hgap hlex
    rw [hvalue, hstate]
    exact exists_bind hy' ⟨_, rfl, hφ halike, hmatches⟩

instance : Matched (isAtDeclaration : Parser σ.wrapped Bool) isAtDeclaration := by
  refine matched_second fun {t t'} h => ?_
  rcases h with rfl | ⟨hkind, hvalue, hkind', -⟩
  · rfl
  · simp only [Token.isPunctuator, Token.isKeyword, hkind, hvalue, hkind']
    rfl

instance : Matched (isAtImportCall : Parser σ.wrapped Bool) isAtImportCall := by
  unfold isAtImportCall
  refine .bind inferInstance fun b => ?_
  split
  · refine matched_second fun {t t'} h => ?_
    rcases h with rfl | ⟨hkind, hvalue, hkind', -⟩
    · rfl
    · simp only [Token.isPunctuator, hkind, hvalue, hkind']
      rfl
  · infer_instance

instance : Matched (isAtAsyncFunction : Parser σ.wrapped Bool) isAtAsyncFunction := by
  unfold isAtAsyncFunction
  refine .bind inferInstance fun b => ?_
  split
  · have hsecond (line : Nat) :
        Matched (do
            let second ← peekSecond
            return line == second.line && second.isKeyword "function" : Parser σ.wrapped Bool)
          (do
            let second ← peekSecond
            return line == second.line && second.isKeyword "function") := by
      refine matched_second (φ := fun t => line == t.line && t.isKeyword "function") fun {t t'} h => ?_
      rcases h with rfl | ⟨hkind, hvalue, hkind', -⟩
      · rfl
      · have hword : t.isKeyword "function" = false := by
          rw [Token.isKeyword, hkind]
          rfl
        have hword' : t'.isKeyword "function" = false := by
          rw [Token.isKeyword, hkind']
          rfl
        rw [hword, hword', Bool.and_false, Bool.and_false]
    refine matched_bind_of_look (fun _ => rfl) (fun _ => rfl) (hsecond _).kept fun hs => ?_
    rw [hs.line]
    exact (hsecond _).run hs
  · infer_instance

instance : Still (peekSecond : Parser σ.wrapped Token) where
  closing hs hx := by
    obtain ⟨mark, l, -, -, rfl⟩ := exists_of_peekSecond hx
    exact .inl ⟨hs.start_eq, hs.kind, hs.value, hs.cursor, hs.mark⟩

instance : Still (isAtAsyncFunction : Parser σ.wrapped Bool) := by
  have hstate : Still (state : Parser σ.wrapped (State σ.wrapped)) := still_of_look fun _ => rfl
  unfold isAtAsyncFunction
  infer_instance

instance : Matched (identifierName : Parser σ.wrapped Token) identifierName := by
  unfold identifierName
  infer_instance

instance (declaration : Option String) :
    Matched (bindingName declaration : Parser σ.wrapped Token) (bindingName declaration) := by
  unfold bindingName
  dsimp only
  infer_instance

instance (declaration : Option String) :
    Consumes (bindingName declaration : Parser σ.wrapped Token) := by
  unfold bindingName
  infer_instance

instance : Consumes (identifierName : Parser σ.wrapped Token) := by
  unfold identifierName
  infer_instance

end Parser

end SmartQuotes.Script
