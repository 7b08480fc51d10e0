import SmartQuotes.Script.Template

/-!
# The state of a parse

A parser reads tokens one ahead. Its context says what the grammar allows at this place; whether the
expression just read may be assigned to or may become a pattern is kept there as well. The cursors
of a state stand in the script, and a part of a template that has been read ahead is one of it; what
is read ahead never starts in front of what was read ahead before.
-/

namespace SmartQuotes.Script

/-- What the grammar allows at a place, and what is known of the expression just read. -/
structure Context where
  strict : Bool := false
  isModule : Bool := false
  awaits : Bool := false
  allowsIn : Bool := true
  allowsDirective : Bool := true
  allowsYield : Bool := true
  assignable : Bool := false
  bindable : Bool := false
  inFunction : Bool := false
  inLoop : Bool := false
  inSwitch : Bool := false
  labels : List (List Nat) := []
  initializer : Option Token := none

/-- The next token with its place, the end of the last one, and what has been recorded. -/
structure State (σ : Source) where
  cursor : Cursor
  braces : List Bool
  sloppy : Bool
  lookahead : Token
  newline : Bool
  mark : Cursor
  lastIndex : Nat
  lastLine : Nat
  context : Context
  found : Found σ
  within : cursor.Within σ.text
  mark_within : mark.Within σ.text
  mark_le : mark.index ≤ cursor.index
  lookahead_le : lookahead.start ≤ mark.index
  partOf : lookahead.kind = .template → lookahead.PartOf σ.text ∧ lookahead.stop ≤ cursor.index

/-- A token as strict code reads it. -/
def Token.reserved (strict : Bool) (t : Token) : Token :=
  if strict && t.kind == .identifier && Token.isStrictReserved t.value then
    { t with kind := .keyword }
  else t

theorem Token.start_reserved (strict : Bool) (t : Token) : (t.reserved strict).start = t.start := by
  unfold reserved
  split <;> rfl

theorem Token.reserved_of_template {strict : Bool} {t : Token}
    (h : (t.reserved strict).kind = .template) : t.reserved strict = t := by
  unfold reserved at h ⊢
  split
  · next hcond =>
    rw [if_pos hcond] at h
    cases h
  · rfl

namespace State

variable {σ : Source}

/-- The state in front of the first token. -/
def initial (σ : Source) : State σ :=
  let line := if σ.length = 0 then 0 else 1
  let start : Cursor := ⟨σ.text, 0, line⟩
  { cursor := start, braces := [], sloppy := true, newline := false, mark := start
    lookahead := { kind := .endOfInput, value := "", start := 0, stop := 0, line := line }
    lastIndex := 0, lastLine := line, context := {}, found := .none
    within := rfl, mark_within := rfl, mark_le := Nat.le_refl _, lookahead_le := Nat.le_refl _
    partOf := nofun }

/-- Move on to the token behind a gap. -/
def advance (s : State σ) {mark : Cursor} {l : Lexed}
    (hmark : mark.Follows s.cursor.rest s.cursor.index) (hl : Lexes mark l) : State σ :=
  let token := l.token.reserved s.context.strict
  { s with
    cursor := l.cursor, braces := l.braces, mark, lookahead := token
    newline := s.lookahead.line != token.line
    lastIndex := s.cursor.index
    lastLine := s.cursor.line
    within := hl.follows.within (hmark.within s.within)
    mark_within := hmark.within s.within
    mark_le := hl.follows.index_le
    lookahead_le := Nat.le_of_eq (by rw [Token.start_reserved, hl.start_eq])
    partOf := by
      intro hkind
      have heq : token = l.token := Token.reserved_of_template hkind
      rw [heq] at hkind ⊢
      exact ⟨Token.partOf_of_lexes hl (hmark.within s.within) hkind,
        Nat.le_of_eq (hl.part hkind).1⟩ }

theorem cursor_le_advance (s : State σ) {mark : Cursor} {l : Lexed}
    (hmark : mark.Follows s.cursor.rest s.cursor.index) (hl : Lexes mark l) :
    s.cursor.index ≤ (s.advance hmark hl).lookahead.start := by
  have hstart : (s.advance hmark hl).lookahead.start = mark.index := by
    rw [advance, Token.start_reserved, hl.start_eq]
  rw [hstart]
  exact hmark.index_le

/-- What stands behind the gap in front of the cursor follows it. -/
theorem follows_gap (s : State σ) {mark : Cursor} (h : s.cursor.skipGap s.sloppy = .ok mark) :
    mark.Follows s.cursor.rest s.cursor.index := Cursor.follows_skipGap h

/-- What is read ahead may stay as it is. -/
theorem since_self (s : State σ) : s.lookahead.start ≤ s.lookahead.start := Nat.le_refl _

theorem lookahead_le_cursor (s : State σ) : s.lookahead.start ≤ s.cursor.index :=
  Nat.le_trans s.lookahead_le s.mark_le

/-- Read the token ahead once more, as a regular expression. -/
def reread (s : State σ) {token : Token} {cursor : Cursor} (h : Reads s.mark token cursor) :
    State σ :=
  { s with
    cursor, lookahead := token
    within := h.follows.within s.mark_within
    mark_le := h.follows.index_le
    lookahead_le := Nat.le_of_eq h.start_eq
    partOf := fun hkind => absurd hkind h.plain }

/-- Move the cursor on; what is read ahead stays. -/
def skipTo (s : State σ) {cursor : Cursor} (h : cursor.Follows s.cursor.rest s.cursor.index) :
    State σ :=
  { s with
    cursor
    within := h.within s.within
    mark_le := Nat.le_trans s.mark_le h.index_le
    partOf := fun hkind =>
      ⟨(s.partOf hkind).1, Nat.le_trans (s.partOf hkind).2 h.index_le⟩ }

/-- Read what stands behind a gap on the spot; what is read ahead stays. -/
def take (s : State σ) {mark cursor : Cursor}
    (hmark : mark.Follows s.cursor.rest s.cursor.index)
    (hcursor : cursor.Follows mark.rest mark.index) : State σ :=
  { s.skipTo (hcursor.trans hmark) with
    mark
    lastIndex := cursor.index
    lastLine := cursor.line
    mark_within := hmark.within s.within
    mark_le := hcursor.index_le
    lookahead_le := Nat.le_trans s.lookahead_le_cursor hmark.index_le }

/-- Go back to the start of what is read ahead, and read nothing ahead. -/
def rewind (s : State σ) : State σ :=
  { s with
    cursor := s.mark
    lookahead := { s.lookahead with kind := .endOfInput }
    within := s.mark_within
    mark_le := Nat.le_refl _
    lookahead_le := s.lookahead_le
    partOf := nofun }

/-- The part of the script from `start` up to the end of the last token. -/
def part (s : State σ) (kind : Kind) (start : Nat) : Fragment :=
  let stop := min s.lastIndex σ.length
  let start := min start stop
  { kind, start := σ.base + start, stop := σ.base + stop, text := σ.text.extract start stop
    region := σ.region, interpolations := none }

theorem holds_part (s : State σ) {kind : Kind} (hkind : kind.IsPlain)
    (start : Nat) : σ.Holds (s.part kind start) where
  part := ⟨_, _, Nat.min_le_right _ _, Nat.min_le_right _ _, rfl, rfl, rfl⟩
  region_eq := rfl
  isOfScripts := hkind.isOfScripts
  delimited := ⟨⟨nofun, fun h => absurd h hkind.ne⟩, nofun, nofun⟩

end State

/-- What is yielded behind the state `s`, with the state there; nothing is read ahead then that
starts in front of what `s` has read ahead. -/
structure Step {σ : Source} (s : State σ) (α : Type) where
  value : α
  state : State σ
  since : s.lookahead.start ≤ state.lookahead.start

end SmartQuotes.Script
