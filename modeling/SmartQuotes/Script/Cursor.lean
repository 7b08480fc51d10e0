import SmartQuotes.Script.Character
import SmartQuotes.Script.Error

/-!
# Cursors and the gaps between tokens

A cursor is a place in a script: the rest of the text, its offset and the number of its line. Gaps
are blanks, line ends and comments; `Cursor.skipGap` moves past them.
-/

namespace SmartQuotes.Script

/-- A place in a script. -/
structure Cursor where
  rest : Text
  index : Nat
  line : Nat
deriving DecidableEq, Repr

namespace Cursor

/-- The cursor stands some characters behind the start of a text that has the offset `index`. -/
def Follows (c : Cursor) (t : Text) (index : Nat) : Prop :=
  ∃ n, c.rest = t.drop n ∧ c.index = index + n

/-- The cursor stands in the text. -/
def Within (c : Cursor) (t : Text) : Prop := c.rest = t.drop c.index

namespace Follows

theorem start (t : Text) (index line : Nat) : Follows ⟨t, index, line⟩ t index := ⟨0, rfl, rfl⟩

theorem drop {c : Cursor} {t : Text} {index : Nat} (k : Nat)
    (h : c.Follows (t.drop k) (index + k)) : c.Follows t index := by
  obtain ⟨n, hrest, hindex⟩ := h
  refine ⟨k + n, ?_, ?_⟩
  · rw [hrest, List.drop_drop]
  · rw [hindex, Nat.add_assoc]

theorem cons {c : Cursor} {a : Char} {t : Text} {index : Nat} (h : c.Follows t (index + 1)) :
    c.Follows (a :: t) index :=
  drop 1 h

theorem trans {c d : Cursor} {t : Text} {index : Nat} (h : d.Follows c.rest c.index)
    (hc : c.Follows t index) : d.Follows t index := by
  obtain ⟨k, hrest, hindex⟩ := hc
  rw [hrest, hindex] at h
  exact h.drop k

theorem index_le {c : Cursor} {t : Text} {index : Nat} (h : c.Follows t index) :
    index ≤ c.index := by
  obtain ⟨n, -, hindex⟩ := h
  omega

theorem within {c d : Cursor} {t : Text} (h : d.Follows c.rest c.index) (hc : c.Within t) :
    d.Within t := by
  obtain ⟨n, hrest, hindex⟩ := h
  rw [Within, hrest, hc, List.drop_drop, hindex]

end Follows

end Cursor

/-! ## Gaps -/

/-- What the text in front of a token is read as. -/
inductive Gap
  | blank
  | lineComment
  | blockComment

/-- Move past blanks and comments. `fresh` says that nothing but gaps stands before the place in its
line, where an arrow of two dashes starts a comment; `sloppy`, that the opening of a markup comment
starts one. -/
def skipGapFrom (sloppy : Bool) (gap : Gap) (fresh : Bool) (t : Text) (index line : Nat) :
    Except SyntaxError Cursor :=
  match gap, t with
  | .blockComment, [] => .error ⟨index, line, .illegalCharacter⟩
  | _, [] => .ok ⟨[], index, line⟩
  | .blockComment, '*' :: '/' :: t => skipGapFrom sloppy .blank fresh t (index + 2) line
  | .blockComment, '\r' :: '\n' :: t =>
    skipGapFrom sloppy .blockComment fresh t (index + 2) (line + 1)
  | .blockComment, c :: t =>
    skipGapFrom sloppy .blockComment fresh t (index + 1) (if isLineEnd c then line + 1 else line)
  | .lineComment, '\r' :: '\n' :: t => skipGapFrom sloppy .blank fresh t (index + 2) (line + 1)
  | .lineComment, c :: t =>
    if isLineEnd c then skipGapFrom sloppy .blank fresh t (index + 1) (line + 1)
    else skipGapFrom sloppy .lineComment fresh t (index + 1) line
  | .blank, '/' :: '/' :: t => skipGapFrom sloppy .lineComment true t (index + 2) line
  | .blank, '/' :: '*' :: t => skipGapFrom sloppy .blockComment fresh t (index + 2) line
  | .blank, '-' :: '-' :: '>' :: t =>
    if fresh then skipGapFrom sloppy .lineComment fresh t (index + 3) line
    else .ok ⟨'-' :: '-' :: '>' :: t, index, line⟩
  | .blank, '<' :: '!' :: '-' :: '-' :: t =>
    if sloppy then skipGapFrom sloppy .lineComment fresh t (index + 4) line
    else .ok ⟨'<' :: '!' :: '-' :: '-' :: t, index, line⟩
  | .blank, '\r' :: '\n' :: t => skipGapFrom sloppy .blank true t (index + 2) (line + 1)
  | .blank, c :: t =>
    if isSpace c then skipGapFrom sloppy .blank fresh t (index + 1) line
    else if isLineEnd c then skipGapFrom sloppy .blank true t (index + 1) (line + 1)
    else .ok ⟨c :: t, index, line⟩

theorem follows_skipGapFrom {sloppy fresh : Bool} {gap : Gap} {t : Text} {index line : Nat}
    {c : Cursor} (h : skipGapFrom sloppy gap fresh t index line = .ok c) : c.Follows t index := by
  fun_induction skipGapFrom sloppy gap fresh t index line
  all_goals first
    | cases h; exact .start _ _ _
    | cases h
    | rename_i ih; exact (ih h).cons
    | rename_i ih; exact (ih h).cons.cons
    | rename_i ih; exact (ih h).cons.cons.cons
    | rename_i ih; exact (ih h).cons.cons.cons.cons

namespace Cursor

/-- Move over `n` characters of one line. -/
def skip (c : Cursor) (n : Nat) : Cursor := ⟨c.rest.drop n, c.index + n, c.line⟩

/-- Move to the next token or to the end. -/
def skipGap (sloppy : Bool) (c : Cursor) : Except SyntaxError Cursor :=
  skipGapFrom sloppy .blank (c.index == 0) c.rest c.index c.line

/-- Refuse the script at this place. -/
def refuse {α : Type} (c : Cursor) (cause : Cause) : Except SyntaxError α :=
  .error ⟨c.index, c.line, cause⟩

theorem follows_skip (c : Cursor) (n : Nat) : (c.skip n).Follows c.rest c.index := ⟨n, rfl, rfl⟩

theorem follows_skipGap {c d : Cursor} {sloppy : Bool} (h : c.skipGap sloppy = .ok d) :
    d.Follows c.rest c.index :=
  follows_skipGapFrom h

end Cursor

end SmartQuotes.Script
