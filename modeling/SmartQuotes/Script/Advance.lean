import SmartQuotes.Script.Lexer

/-!
# Readers move forward

A cursor behind a token follows the one in front of it, and the token starts at the latter. A part
of a template starts with a backquote or a closing brace and ends with a backquote or with a dollar
sign and an opening brace.
-/

namespace SmartQuotes.Script

theorem eq_ok_of_bind {ε α β : Type} {x : Except ε α} {f : α → Except ε β} {b : β}
    (h : x >>= f = .ok b) : ∃ a, x = .ok a ∧ f a = .ok b := by
  cases x with
  | error e => cases h
  | ok a => exact ⟨a, rfl, h⟩

theorem eq_ok_of_mapError {ε ε' α : Type} {x : Except ε α} {f : ε → ε'} {a : α}
    (h : x.mapError f = .ok a) : x = .ok a := by
  cases x with
  | error e => cases h
  | ok b => cases h; rfl

/-- A reader that starts at `c` yields a token that is no part of a template, and the cursor behind
it. -/
structure Reads (c : Cursor) (t : Token) (d : Cursor) : Prop where
  follows : d.Follows c.rest c.index
  start_eq : t.start = c.index
  plain : t.kind ≠ .template

/-! ## Words -/

theorem follows_word {first : Bool} {t : Text} {index line : Nat} {points : List Nat} {c : Cursor}
    (h : word first t index line = .ok (points, c)) : c.Follows t index := by
  fun_induction word first t index line generalizing points with
  | case1 =>
    cases h
    exact .start _ _ _
  | case2 _ _ t ih =>
    obtain ⟨⟨_, k⟩, -, h⟩ := eq_ok_of_bind h
    obtain ⟨⟨more, stop⟩, hword, h⟩ := eq_ok_of_bind h
    cases h
    exact ((ih k hword).drop k).cons.cons.cons
  | case3 => cases h
  | case4 =>
    rename_i ih
    obtain ⟨⟨more, stop⟩, hword, h⟩ := eq_ok_of_bind h
    cases h
    exact ((ih hword).drop _).cons.cons
  | case5 => cases h
  | case6 _ _ a t _ _ _ _ ih =>
    obtain ⟨⟨more, stop⟩, hword, h⟩ := eq_ok_of_bind h
    cases h
    exact (ih hword).cons
  | case7 =>
    cases h
    exact .start _ _ _

theorem reads_lexWord {c d : Cursor} {t : Token} (h : lexWord c = .ok (t, d)) : Reads c t d := by
  obtain ⟨⟨points, stop⟩, hword, h⟩ := eq_ok_of_bind h
  simp only [Cursor.refuse] at h
  split at h
  · cases h
  · cases h
    refine ⟨follows_word hword, rfl, ?_⟩
    simp only [Token.kindOfWord]
    repeat' split
    all_goals decide

/-! ## Numbers -/

theorem reads_endNumber {c d : Cursor} {n : Nat} {octal : Bool} {t : Token}
    (h : endNumber c n octal = .ok (t, d)) : Reads c t d := by
  unfold endNumber at h
  simp only [Cursor.refuse] at h
  repeat' split at h
  · cases h
    exact ⟨c.follows_skip n, rfl, by rintro ⟨⟩⟩
  · cases h
  · cases h
    exact ⟨c.follows_skip n, rfl, by rintro ⟨⟩⟩

theorem reads_decimalNumber {c d : Cursor} {t : Token} (h : decimalNumber c = .ok (t, d)) :
    Reads c t d := by
  unfold decimalNumber at h
  simp only [Cursor.refuse] at h
  repeat' split at h
  all_goals first
    | exact reads_endNumber h
    | cases h

theorem reads_radixNumber {c d : Cursor} {isDigit : Char → Bool} {t : Token}
    (h : radixNumber c isDigit = .ok (t, d)) : Reads c t d := by
  unfold radixNumber at h
  simp only [Cursor.refuse] at h
  split at h
  · cases h
  · exact reads_endNumber h

theorem reads_lexNumber {c d : Cursor} {t : Token} (h : lexNumber c = .ok (t, d)) :
    Reads c t d := by
  unfold lexNumber at h
  repeat' split at h
  all_goals first
    | exact reads_radixNumber h
    | exact reads_decimalNumber h
    | exact reads_endNumber h

/-! ## Strings -/

theorem follows_stringBody {quote : Char} {start : Nat} {t : Text} {index line : Nat}
    {octal : Bool} {value : Text} {octal' : Bool} {c : Cursor}
    (h : stringBody quote start t index line octal = .ok (value, octal', c)) :
    c.Follows t index := by
  fun_induction stringBody quote start t index line octal generalizing value octal' with
  | case1 => cases h
  | case2 => cases h
  | case3 _ _ _ _ ih => exact (ih h).cons.cons.cons
  | case4 _ _ _ _ _ _ _ ih => exact (ih h).cons.cons
  | case5 =>
    rename_i ih
    obtain ⟨⟨_, k, legacy⟩, -, h⟩ := eq_ok_of_bind h
    obtain ⟨⟨more, _, stop⟩, hbody, h⟩ := eq_ok_of_bind h
    cases h
    exact ((ih k legacy hbody).drop k).cons.cons
  | case6 =>
    cases h
    exact .cons (.start _ _ _)
  | case7 => cases h
  | case8 =>
    rename_i ih
    obtain ⟨⟨more, _, stop⟩, hbody, h⟩ := eq_ok_of_bind h
    cases h
    exact (ih hbody).cons

theorem reads_lexString {quote : Char} {c d : Cursor} {t : Token}
    (h : lexString quote c = .ok (t, d)) : Reads c t d := by
  obtain ⟨⟨value, octal, stop⟩, hbody, h⟩ := eq_ok_of_bind h
  cases h
  exact ⟨(follows_stringBody hbody).drop 1, rfl, by rintro ⟨⟩⟩

/-! ## Templates -/

/-- What ends a part of a template: a backquote, or what opens an expression. -/
def partEnd (closes : Bool) : Text := if closes then ['\x60'] else ['$', '\x7b']

/-- The cursor stands behind a part of a template of which the text, with the offset `index`, is the
rest. -/
def EndsPart (closes : Bool) (t : Text) (index : Nat) (c : Cursor) : Prop :=
  ∃ body, t = body ++ partEnd closes ++ c.rest ∧
    c.index = index + body.length + (partEnd closes).length

theorem length_partEnd_pos (closes : Bool) : 0 < (partEnd closes).length := by
  cases closes <;> decide

namespace EndsPart

variable {closes : Bool} {t : Text} {index : Nat} {c : Cursor}

theorem cons {a : Char} (h : EndsPart closes t (index + 1) c) :
    EndsPart closes (a :: t) index c := by
  obtain ⟨body, htext, hindex⟩ := h
  refine ⟨a :: body, ?_, ?_⟩
  · rw [htext]
    rfl
  · rw [hindex, List.length_cons]
    omega

theorem drop (k : Nat) (h : EndsPart closes (t.drop k) (index + k) c) :
    EndsPart closes t index c := by
  obtain ⟨body, htext, hindex⟩ := h
  have hlength := congrArg List.length htext
  have hpos := length_partEnd_pos closes
  rw [List.length_append, List.length_append, List.length_drop] at hlength
  refine ⟨t.take k ++ body, ?_, ?_⟩
  · rw [List.append_assoc, List.append_assoc, ← List.append_assoc body, ← htext,
      List.take_append_drop]
  · rw [hindex, List.length_append, List.length_take]
    omega

theorem follows (h : EndsPart closes t index c) : c.Follows t index := by
  obtain ⟨body, htext, hindex⟩ := h
  refine ⟨(body ++ partEnd closes).length, ?_, ?_⟩
  · rw [htext, List.drop_left]
  · rw [hindex, List.length_append, Nat.add_assoc]

end EndsPart

theorem endsPart_templateBody {t : Text} {index line : Nat} {closes : Bool} {c : Cursor}
    (h : templateBody t index line = .ok (closes, c)) : EndsPart closes t index c := by
  fun_induction templateBody t index line with
  | case1 => cases h
  | case2 => cases h
  | case3 =>
    cases h
    exact ⟨[], rfl, rfl⟩
  | case4 =>
    cases h
    exact ⟨[], rfl, rfl⟩
  | case5 _ _ _ ih => exact (ih h).cons.cons.cons
  | case6 _ _ _ _ _ _ ih => exact (ih h).cons.cons
  | case7 _ _ _ _ _ _ ih =>
    obtain ⟨k, -, h⟩ := eq_ok_of_bind h
    exact ((ih k h).drop k).cons.cons
  | case8 _ _ _ ih => exact (ih h).cons.cons
  | case9 =>
    rename_i ih
    exact (ih h).cons

/-! ## Tokens -/

/-- The cursor stands behind a token that starts at `c`; a part of a template is one of the text. -/
structure Lexes (c : Cursor) (l : Lexed) : Prop where
  follows : l.cursor.Follows c.rest c.index
  start_eq : l.token.start = c.index
  part : l.token.kind = .template → l.token.stop = l.cursor.index ∧
    ∃ head rest, c.rest = head :: rest ∧ (head = '\x60' ∨ head = '\x7d') ∧
      EndsPart l.token.closes rest (c.index + 1) l.cursor

theorem lexes_lexTemplate {braces : List Bool} {c : Cursor} {l : Lexed} {d : Char} {rest : Text}
    (hrest : c.rest = d :: rest) (hd : d = '\x60' ∨ d = '\x7d')
    (h : lexTemplate braces c = .ok l) : Lexes c l := by
  obtain ⟨⟨closes, stop⟩, hbody, h⟩ := eq_ok_of_bind h
  have hends : EndsPart closes rest (c.index + 1) stop := by
    rw [hrest] at hbody
    exact endsPart_templateBody hbody
  cases h
  refine ⟨?_, rfl, fun _ => ⟨rfl, d, rest, hrest, hd, hends⟩⟩
  rw [hrest]
  exact hends.follows.cons

theorem lexes_of_reads {r : Except SyntaxError (Token × Cursor)} {braces : List Bool} {c : Cursor}
    {l : Lexed} (hr : ∀ t d, r = .ok (t, d) → Reads c t d)
    (h : (do let (t, d) ← r; return ⟨t, d, braces⟩) = Except.ok l) : Lexes c l := by
  obtain ⟨⟨t, d⟩, hread, h⟩ := eq_ok_of_bind h
  cases h
  have hreads := hr t d hread
  exact ⟨hreads.follows, hreads.start_eq, fun hkind => absurd hkind hreads.plain⟩

theorem lexes_lexPunctuator {braces : List Bool} {c : Cursor} {l : Lexed}
    (h : lexPunctuator braces c = .ok l) : Lexes c l := by
  unfold lexPunctuator at h
  simp only [Cursor.refuse] at h
  repeat' split at h
  all_goals first
    | cases h; exact ⟨c.follows_skip _, rfl, by rintro ⟨⟩⟩
    | cases h

theorem lexes_lex {braces : List Bool} {c : Cursor} {l : Lexed} (h : lex braces c = .ok l) :
    Lexes c l := by
  unfold lex at h
  simp only at h
  split at h
  · cases h
    exact ⟨.start _ _ 0, rfl, by rintro ⟨⟩⟩
  · next d t hrest =>
    split at h
    · exact lexes_of_reads (fun _ _ => reads_lexWord) h
    split at h
    · exact lexes_of_reads (fun _ _ => reads_lexString) h
    split at h
    · exact lexes_of_reads (fun _ _ => reads_lexNumber) h
    split at h
    · exact lexes_of_reads (fun _ _ => reads_lexNumber) h
    split at h
    · next hd =>
      simp only [Bool.or_eq_true, Bool.and_eq_true, decide_eq_true_eq] at hd
      exact lexes_lexTemplate hrest (hd.imp_right And.left) h
    · exact lexes_lexPunctuator h

/-! ## Regular expressions -/

theorem follows_skipFlags {t : Text} {index line : Nat} {c : Cursor}
    (h : skipFlags t index line = .ok c) : c.Follows t index := by
  fun_induction skipFlags t index line with
  | case1 =>
    cases h
    exact .start _ _ _
  | case2 =>
    cases h
    exact .cons (.start _ _ _)
  | case3 => cases h
  | case4 => cases h
  | case5 =>
    rename_i ih
    exact (ih h).cons
  | case6 =>
    cases h
    exact .start _ _ _

theorem reads_lexRegularExpression {c d : Cursor} {t : Token}
    (h : lexRegularExpression c = .ok (t, d)) : Reads c t d := by
  obtain ⟨n, -, h⟩ := eq_ok_of_bind h
  obtain ⟨stop, hflags, h⟩ := eq_ok_of_bind h
  simp only [Cursor.refuse] at h
  split at h
  · cases h
    exact ⟨(follows_skipFlags hflags).drop (n + 1), rfl, by rintro ⟨⟩⟩
  · cases h

/-! ## Elements -/

theorem follows_lexElement {braces : List Bool} {c : Cursor} {l : Lexed}
    (h : lexElement braces c = .ok l) : l.cursor.Follows c.rest c.index := by
  unfold lexElement at h
  simp only at h
  repeat' split at h
  all_goals first
    | cases h; exact c.follows_skip _
    | cases h
    | exact (lexes_lex (eq_ok_of_mapError h)).follows

theorem follows_skipElementText (t : Text) (index line : Nat) :
    (skipElementText t index line).Follows t index := by
  fun_induction skipElementText t index line with
  | case1 => exact .start _ _ _
  | case2 _ _ _ ih => exact ih.cons.cons
  | case3 => exact .start _ _ _
  | case4 =>
    rename_i ih
    exact ih.cons

end SmartQuotes.Script
