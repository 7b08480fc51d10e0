import Mathlib.Data.List.Find
import SmartQuotes.Script.Advance

/-!
# A closing parenthesis and a blank

A text that ends with a closing parenthesis is compared with the same text that has a blank in its
place. No token that starts in front of the last character takes it in: what ends a string, a
template or a regular expression has a sign of its own, and all other tokens end in front of a
parenthesis as in front of a blank. So the readers of tokens yield the same in both texts, up to the
last token.
-/

namespace SmartQuotes.Script

/-- The second text is the first one, which ends with a closing parenthesis, with a blank in its
place. -/
def Blanked (t u : Text) : Prop := ∃ r, t = r ++ [')'] ∧ u = r ++ [' ']

namespace Blanked

variable {t u : Text} {c : Char}

theorem length_eq (h : Blanked t u) : u.length = t.length := by
  obtain ⟨r, rfl, rfl⟩ := h
  rw [List.length_append, List.length_append]
  rfl

theorem length_pos (h : Blanked t u) : 0 < t.length := by
  obtain ⟨r, rfl, -⟩ := h
  rw [List.length_append]
  exact Nat.succ_pos _

theorem not_nil (h : Blanked [] u) : False :=
  Nat.lt_irrefl 0 h.length_pos

/-- The texts differ in their only character, or they start with the same one. -/
theorem cons_cases (h : Blanked (c :: t) u) :
    c = ')' ∧ t = [] ∧ u = [' '] ∨ ∃ v, u = c :: v ∧ Blanked t v := by
  obtain ⟨r, hr, rfl⟩ := h
  cases r with
  | nil =>
    cases hr
    exact .inl ⟨rfl, rfl, rfl⟩
  | cons a r =>
    cases hr
    exact .inr ⟨r ++ [' '], rfl, r, rfl, rfl⟩

/-- Texts of two characters and more start with the same one. -/
theorem exists_cons (h : Blanked t u) (hlength : 2 ≤ t.length) :
    ∃ c t' v, t = c :: t' ∧ u = c :: v ∧ Blanked t' v := by
  cases t with
  | nil => exact h.not_nil.elim
  | cons c t =>
    rcases h.cons_cases with ⟨-, rfl, -⟩ | ⟨v, hu, hv⟩
    · exact absurd hlength (Nat.lt_irrefl 1)
    · exact ⟨c, t, v, rfl, hu, hv⟩

/-- A text that starts with another character has a further one. -/
theorem cons_of_ne (h : Blanked (c :: t) u) (hc : c ≠ ')') : ∃ v, u = c :: v ∧ Blanked t v := by
  rcases h.cons_cases with ⟨rfl, -⟩ | h
  · exact absurd rfl hc
  · exact h

theorem of_append {w : Text} (h : Blanked (w ++ t) u) (hw : ')' ∉ w) :
    ∃ v, u = w ++ v ∧ Blanked t v := by
  induction w generalizing u with
  | nil => exact ⟨u, rfl, h⟩
  | cons c w ih =>
    rw [List.mem_cons, not_or] at hw
    obtain ⟨u', rfl, hu'⟩ := h.cons_of_ne (Ne.symm hw.1)
    obtain ⟨v, rfl, hv⟩ := ih hu' hw.2
    exact ⟨v, rfl, hv⟩

/-- What the first text does not start with the second one does not, either. -/
theorem ne_append {w : Text} (h : Blanked t u) (hw : ' ' ∉ w) (ht : ∀ t', t = w ++ t' → False)
    (v : Text) : u = w ++ v → False := by
  intro hu
  induction w generalizing t u with
  | nil => exact ht t rfl
  | cons c w ih =>
    rw [List.mem_cons, not_or] at hw
    cases t with
    | nil => exact h.not_nil.elim
    | cons a t =>
      rcases h.cons_cases with ⟨-, -, rfl⟩ | ⟨u', rfl, hu'⟩
      · exact hw.1 (List.cons.inj hu).1
      · obtain ⟨rfl, heq⟩ := List.cons.inj hu
        exact ih hu' hw.2 (fun t' ht' => ht t' (congrArg (a :: ·) ht')) heq

/-- The same behind a condition, as the readers leave their cases out. -/
theorem imp_ne_append {w : Text} {p : Prop} (h : Blanked t u) (hw : ' ' ∉ w)
    (ht : ∀ t', p → t = w ++ t' → False) (v : Text) (hp : p) : u = w ++ v → False :=
  h.ne_append hw (fun t' => ht t' hp) v

theorem drop (h : Blanked t u) {k : Nat} (hk : k < t.length) : Blanked (t.drop k) (u.drop k) := by
  obtain ⟨r, rfl, rfl⟩ := h
  rw [List.length_append, List.length_singleton] at hk
  rw [List.drop_append_of_le_length (by omega), List.drop_append_of_le_length (by omega)]
  exact ⟨r.drop k, rfl, rfl⟩

theorem take_eq (h : Blanked t u) {k : Nat} (hk : k < t.length) : u.take k = t.take k := by
  obtain ⟨r, rfl, rfl⟩ := h
  rw [List.length_append, List.length_singleton] at hk
  rw [List.take_append_of_le_length (by omega), List.take_append_of_le_length (by omega)]

/-- Characters of a class to which neither a parenthesis nor a blank belongs. -/
theorem takeWhile_eq (h : Blanked t u) {p : Char → Bool} (hp : p ')' = false)
    (hp' : p ' ' = false) :
    u.takeWhile p = t.takeWhile p ∧ (t.takeWhile p).length < t.length := by
  induction t generalizing u with
  | nil => exact h.not_nil.elim
  | cons c t ih =>
    rcases h.cons_cases with ⟨rfl, rfl, rfl⟩ | ⟨v, rfl, hv⟩
    · simp [hp, hp']
    · obtain ⟨heq, hlt⟩ := ih hv
      rw [List.takeWhile_cons, List.takeWhile_cons]
      split
      · rw [heq]
        exact ⟨rfl, Nat.succ_lt_succ hlt⟩
      · exact ⟨rfl, Nat.succ_pos _⟩

theorem dropWhile (h : Blanked t u) {p : Char → Bool} (hp : p ')' = false) (hp' : p ' ' = false) :
    Blanked (t.dropWhile p) (u.dropWhile p) := by
  induction t generalizing u with
  | nil => exact h.not_nil.elim
  | cons c t ih =>
    rcases h.cons_cases with ⟨rfl, rfl, rfl⟩ | ⟨v, rfl, hv⟩
    · rwa [List.dropWhile_cons_of_neg (by simp [hp]), List.dropWhile_cons_of_neg (by simp [hp'])]
    · rw [List.dropWhile_cons, List.dropWhile_cons]
      split
      · exact ih hv
      · exact h

end Blanked

/-- The cursors stand at the same place of two such texts, in front of the last character. -/
structure Cursor.Blanked (c d : Cursor) : Prop where
  rest : Script.Blanked c.rest d.rest
  index : d.index = c.index
  line : d.line = c.line

theorem Cursor.Blanked.skip {c d : Cursor} (h : c.Blanked d) {n : Nat} (hn : n < c.rest.length) :
    (c.skip n).Blanked (d.skip n) :=
  ⟨h.rest.drop hn, congrArg (· + n) h.index, h.line⟩

/-! ## Gaps -/

/-- The gap in front of `c` in the first text ends in the second one at the same place, or it goes on
to the end there: when `c` stands at the last character, or the gap has taken this in. -/
inductive SkipsAlike (c : Cursor) : Except SyntaxError Cursor → Prop
  | inside {d : Cursor} (h : c.Blanked d) (hlength : 2 ≤ c.rest.length) : SkipsAlike c (.ok d)
  | close (h : c.rest = [')']) : SkipsAlike c (.ok ⟨[], c.index + 1, c.line⟩)
  | beyond (h : c.rest = []) : SkipsAlike c (.ok c)

theorem Blanked.skipsAlike {t u : Text} (h : Blanked t u) (hlength : 2 ≤ t.length)
    (index line : Nat) : SkipsAlike ⟨t, index, line⟩ (.ok ⟨u, index, line⟩) :=
  .inside ⟨h, rfl, rfl⟩ hlength

/-- A character that starts no comment and no arrow in the first text starts none in the second
one. -/
theorem skipGapFrom_blank {sloppy fresh : Bool} {a : Char} {t v : Text} {index line : Nat}
    (h : Blanked t v) (hline : ∀ r, a = '/' → t = '/' :: r → False)
    (hblock : ∀ r, a = '/' → t = '*' :: r → False)
    (harrow : ∀ r, a = '-' → t = '-' :: '>' :: r → False)
    (hopen : ∀ r, a = '<' → t = '!' :: '-' :: '-' :: r → False)
    (hreturn : ∀ r, a = '\r' → t = '\n' :: r → False) :
    skipGapFrom sloppy .blank fresh (a :: v) index line =
      if isSpace a then skipGapFrom sloppy .blank fresh v (index + 1) line
      else if isLineEnd a then skipGapFrom sloppy .blank true v (index + 1) (line + 1)
      else .ok ⟨a :: v, index, line⟩ := by
  rw [skipGapFrom]
  · exact h.imp_ne_append (w := ['/']) (by decide) hline
  · exact h.imp_ne_append (w := ['*']) (by decide) hblock
  · exact h.imp_ne_append (w := ['-', '>']) (by decide) harrow
  · exact h.imp_ne_append (w := ['!', '-', '-']) (by decide) hopen
  · exact h.imp_ne_append (w := ['\n']) (by decide) hreturn

/-- The second text may be read as if nothing but gaps stood before it in its line: this makes a
difference in front of an arrow of two dashes. -/
theorem skipsAlike_skipGapFrom {sloppy fresh fresh' : Bool} {gap : Gap} {t u : Text}
    {index line : Nat} {c : Cursor} (h : Blanked t u) (hfresh : fresh = true → fresh' = true)
    (hc : skipGapFrom sloppy gap fresh t index line = .ok c) :
    SkipsAlike c (skipGapFrom sloppy gap fresh' u index line) ∨
      fresh = false ∧ fresh' = true ∧ text "-->" <+: c.rest := by
  -- One character of the first text after the other. The second text starts with the same one,
  -- or the first one is at its parenthesis: in front of it the gap ends, or a comment takes it in.
  fun_induction skipGapFrom sloppy gap fresh t index line generalizing u fresh' with
  | case1 => cases hc
  | case2 => exact h.not_nil.elim
  | case3 fresh index line t ih =>
    obtain ⟨v, rfl, hv⟩ := h.of_append (w := ['*', '/']) (by decide)
    exact ih hv hfresh hc
  | case4 fresh index line t ih =>
    obtain ⟨v, rfl, hv⟩ := h.of_append (w := ['\r', '\n']) (by decide)
    exact ih hv hfresh hc
  | case5 fresh index line a t hstar hreturn ih =>
    rcases h.cons_cases with ⟨rfl, rfl, rfl⟩ | ⟨v, rfl, hv⟩
    · cases hc
    · rw [skipGapFrom]
      · exact ih hv hfresh hc
      · exact hv.imp_ne_append (w := ['/']) (by decide) hstar
      · exact hv.imp_ne_append (w := ['\n']) (by decide) hreturn
  | case6 fresh index line t ih =>
    obtain ⟨v, rfl, hv⟩ := h.of_append (w := ['\r', '\n']) (by decide)
    exact ih hv hfresh hc
  | case7 fresh index line a t hreturn ha ih =>
    rcases h.cons_cases with ⟨rfl, rfl, rfl⟩ | ⟨v, rfl, hv⟩
    · cases ha
    · rw [skipGapFrom, if_pos ha]
      · exact ih hv hfresh hc
      · exact hv.imp_ne_append (w := ['\n']) (by decide) hreturn
  | case8 fresh index line a t hreturn ha ih =>
    rcases h.cons_cases with ⟨rfl, rfl, rfl⟩ | ⟨v, rfl, hv⟩
    · cases hc
      exact .inl (.beyond rfl)
    · rw [skipGapFrom, if_neg ha]
      · exact ih hv hfresh hc
      · exact hv.imp_ne_append (w := ['\n']) (by decide) hreturn
  | case9 fresh index line t ih =>
    obtain ⟨v, rfl, hv⟩ := h.of_append (w := ['/', '/']) (by decide)
    rcases ih hv (fun _ => rfl) hc with halike | ⟨⟨⟩, -⟩
    exact .inl halike
  | case10 fresh index line t ih =>
    obtain ⟨v, rfl, hv⟩ := h.of_append (w := ['/', '*']) (by decide)
    exact ih hv hfresh hc
  | case11 index line t ih =>
    obtain ⟨v, rfl, hv⟩ := h.of_append (w := ['-', '-', '>']) (by decide)
    cases hfresh rfl
    exact ih hv (fun _ => rfl) hc
  | case12 fresh index line t hold =>
    obtain ⟨v, rfl, hv⟩ := h.of_append (w := ['-', '-', '>']) (by decide)
    cases hc
    cases fresh' with
    | true => exact .inr ⟨by simpa using hold, rfl, ⟨t, rfl⟩⟩
    | false => exact .inl (h.skipsAlike (by simp) index line)
  | case13 fresh index line t hsloppy ih =>
    obtain ⟨v, rfl, hv⟩ := h.of_append (w := ['<', '!', '-', '-']) (by decide)
    cases hsloppy
    exact ih hv hfresh hc
  | case14 fresh index line t hsloppy =>
    obtain ⟨v, rfl, hv⟩ := h.of_append (w := ['<', '!', '-', '-']) (by decide)
    cases hc
    rw [Bool.not_eq_true] at hsloppy
    subst hsloppy
    exact .inl (h.skipsAlike (by simp) index line)
  | case15 fresh index line t ih =>
    obtain ⟨v, rfl, hv⟩ := h.of_append (w := ['\r', '\n']) (by decide)
    rcases ih hv (fun _ => rfl) hc with halike | ⟨⟨⟩, -⟩
    exact .inl halike
  | case16 fresh index line a t hline hblock harrow hopen hreturn ha ih =>
    rcases h.cons_cases with ⟨rfl, rfl, rfl⟩ | ⟨v, rfl, hv⟩
    · cases ha
    · rw [skipGapFrom_blank hv hline hblock harrow hopen hreturn, if_pos ha]
      exact ih hv hfresh hc
  | case17 fresh index line a t hline hblock harrow hopen hreturn ha ha' ih =>
    rcases h.cons_cases with ⟨rfl, rfl, rfl⟩ | ⟨v, rfl, hv⟩
    · cases ha'
    · rw [skipGapFrom_blank hv hline hblock harrow hopen hreturn, if_neg ha, if_pos ha']
      rcases ih hv (fun _ => rfl) hc with halike | ⟨⟨⟩, -⟩
      exact .inl halike
  | case18 fresh index line a t hline hblock harrow hopen hreturn ha ha' =>
    cases hc
    rcases h.cons_cases with ⟨rfl, rfl, rfl⟩ | ⟨v, rfl, hv⟩
    · exact .inl (.close rfl)
    · rw [skipGapFrom_blank hv hline hblock harrow hopen hreturn, if_neg ha, if_neg ha']
      exact .inl (h.skipsAlike (Nat.succ_le_succ hv.length_pos) index line)

theorem Cursor.Blanked.skipsAlike {c d e : Cursor} {sloppy : Bool} (h : c.Blanked d)
    (he : c.skipGap sloppy = .ok e) : SkipsAlike e (d.skipGap sloppy) := by
  obtain ⟨hrest, hindex, hline⟩ := h
  rw [Cursor.skipGap, hindex, hline]
  rcases skipsAlike_skipGapFrom hrest (fun hfresh => hfresh) he with halike | ⟨hfresh, hfresh', -⟩
  · exact halike
  · rw [hfresh] at hfresh'
    cases hfresh'

/-! ## Escapes -/

theorem hexRun_blanked {t u : Text} (h : Blanked t u) (limit value : Nat) :
    hexRun limit value u = hexRun limit value t ∧ (hexRun limit value t).2 < t.length := by
  induction t generalizing u limit value with
  | nil => exact h.not_nil.elim
  | cons c t ih =>
    cases limit with
    | zero => exact ⟨by rw [hexRun, hexRun] <;> exact nofun, Nat.succ_pos _⟩
    | succ limit =>
      rcases h.cons_cases with ⟨rfl, rfl, rfl⟩ | ⟨v, rfl, hv⟩
      · exact ⟨rfl, Nat.succ_pos _⟩
      · rw [hexRun, hexRun]
        cases hexValue? c with
        | none => exact ⟨rfl, Nat.succ_pos _⟩
        | some d =>
          obtain ⟨heq, hlt⟩ := ih hv limit (16 * value + d)
          simp only [heq, true_and]
          exact Nat.succ_lt_succ hlt

/-- What a reader of an escape yields on both texts: the same, and it takes less than the first
text. -/
def TakesAlike {α : Type} (t : Text) (taken : α → Nat) (r r' : Except SyntaxError α) : Prop :=
  ∀ a, r = .ok a → r' = .ok a ∧ taken a < t.length

namespace TakesAlike

variable {α β : Type} {s t : Text} {taken : α → Nat} {r r' q q' : Except SyntaxError α}

theorem ok {a : α} (h : taken a < t.length) : TakesAlike t taken (.ok a) (.ok a) := by
  rintro _ ⟨⟩
  exact ⟨rfl, h⟩

theorem error {e : SyntaxError} : TakesAlike t taken (.error e) r' := nofun

theorem ite {p : Prop} [Decidable p] (hr : p → TakesAlike t taken r r')
    (hq : ¬p → TakesAlike t taken q q') :
    TakesAlike t taken (if p then r else q) (if p then r' else q') := by
  split
  · next h => exact hr h
  · next h => exact hq h

theorem of_eq (heq : r' = r) (h : TakesAlike t taken r r) : TakesAlike t taken r r' := by
  rwa [heq]

theorem bind {taken' : β → Nat} {f : α → Except SyntaxError β} (h : TakesAlike t taken r r')
    (hf : ∀ a, taken a < t.length → TakesAlike s taken' (f a) (f a)) :
    TakesAlike s taken' (r >>= f) (r' >>= f) := by
  intro b hb
  obtain ⟨a, hr, hb⟩ := eq_ok_of_bind hb
  obtain ⟨hr', hlt⟩ := h a hr
  obtain ⟨hfa, htaken⟩ := hf a hlt b hb
  refine ⟨?_, htaken⟩
  rw [hr']
  exact hfa

end TakesAlike

theorem codePoint_blanked {t u : Text} (h : Blanked t u) (index line : Nat) :
    TakesAlike t Prod.snd (codePoint t index line) (codePoint u index line) := by
  obtain ⟨heq, hlt⟩ := hexRun_blanked h t.length 0
  rw [codePoint, codePoint, h.length_eq, heq]
  generalize hexRun t.length 0 t = run at hlt ⊢
  obtain ⟨value, m⟩ := run
  have hdrop := h.drop hlt
  simp only at hdrop ⊢
  cases hrest : t.drop m with
  | nil =>
    rw [hrest] at hdrop
    exact hdrop.not_nil.elim
  | cons c rest =>
    rw [hrest] at hdrop
    rcases hdrop.cons_cases with ⟨rfl, -, -⟩ | ⟨v, hv, hv'⟩
    · exact nofun
    · have hlength := congrArg List.length hrest
      have hpos := hv'.length_pos
      rw [List.length_drop, List.length_cons] at hlength
      rw [hv]
      refine .ite (fun _ => .ite (fun _ => .error) fun _ => .ite (fun _ => .error) fun _ => ?_)
        fun _ => .error
      exact .ok (by simp only; omega)

theorem octalEscape_blanked {t u : Text} (h : Blanked t u) (digit : Char) :
    octalEscape digit u = octalEscape digit t ∧ (octalEscape digit t).2 < t.length := by
  have hclose : isOctalDigit ')' = false := by decide
  have hblank : isOctalDigit ' ' = false := by decide
  cases t with
  | nil => exact h.not_nil.elim
  | cons a t =>
    rcases h.cons_cases with ⟨rfl, rfl, rfl⟩ | ⟨v, rfl, hv⟩
    · exact ⟨rfl, Nat.succ_pos _⟩
    · cases t with
      | nil => exact hv.not_nil.elim
      | cons b t =>
        rcases hv.cons_cases with ⟨rfl, rfl, rfl⟩ | ⟨w, rfl, hw⟩
        · simp only [octalEscape, hclose, hblank, Bool.and_false]
          split <;> simp
        · have hpos := hw.length_pos
          simp only [octalEscape, List.length_cons, true_and]
          repeat' split
          all_goals simp only
          all_goals omega

theorem stringEscape_blanked {t u : Text} (h : Blanked t u) (c : Char) (index line : Nat) :
    TakesAlike t (·.2.1) (stringEscape c t index line) (stringEscape c u index line) := by
  unfold stringEscape
  refine .ite (fun _ => ?_) fun _ => .ite (fun _ => ?_) fun _ => .ite (fun _ => .error) fun _ =>
    .ite (fun _ => ?_) fun _ => .ok h.length_pos
  · split
    · next rest =>
      obtain ⟨v, rfl, hv⟩ := h.cons_of_ne (by decide)
      exact (codePoint_blanked hv _ _).bind fun _ hlt => .ok (Nat.succ_lt_succ hlt)
    · next hbrace =>
      obtain ⟨heq, hlt⟩ := hexRun_blanked h 4 0
      refine .of_eq ?_ (.ite (fun _ => .error) fun hfour =>
        .ok (Nat.lt_of_le_of_lt (Nat.le_of_not_lt hfour) hlt))
      split
      · next rest => exact absurd rfl (h.ne_append (w := ['\x7b']) (by decide) hbrace rest)
      · rw [heq]
  · obtain ⟨heq, hlt⟩ := hexRun_blanked h 2 0
    rw [heq]
    exact .ite (fun _ => .error) fun htwo => .ok (Nat.lt_of_le_of_lt (Nat.le_of_not_lt htwo) hlt)
  · obtain ⟨heq, hlt⟩ := octalEscape_blanked h c
    rw [heq]
    exact .ok hlt

theorem templateEscape_blanked {t u : Text} (h : Blanked t u) (c : Char) (index line : Nat) :
    TakesAlike t id (templateEscape c t index line) (templateEscape c u index line) := by
  unfold templateEscape
  refine .ite (fun _ => ?_) fun _ => .ite (fun _ => ?_) fun _ => .ite (fun _ => ?_) fun _ =>
    .ite (fun _ => .error) fun _ => .ok h.length_pos
  · split
    · next rest =>
      obtain ⟨v, rfl, hv⟩ := h.cons_of_ne (by decide)
      exact (codePoint_blanked hv _ _).bind fun _ hlt => .ok (Nat.succ_lt_succ hlt)
    · next hbrace =>
      obtain ⟨heq, hlt⟩ := hexRun_blanked h 4 0
      have hpos := h.length_pos
      refine .of_eq ?_ (.ok (by rw [id_eq]; split <;> omega))
      split
      · next rest => exact absurd rfl (h.ne_append (w := ['\x7b']) (by decide) hbrace rest)
      · rw [heq]
  · obtain ⟨heq, hlt⟩ := hexRun_blanked h 2 0
    rw [heq]
    exact .ite (fun _ => .error) fun htwo => .ok (Nat.lt_of_le_of_lt (Nat.le_of_not_lt htwo) hlt)
  · cases t with
    | nil => exact h.not_nil.elim
    | cons d t =>
      rcases h.cons_cases with ⟨rfl, rfl, rfl⟩ | ⟨v, rfl, hv⟩
      · exact .ok (a := 0) (Nat.succ_pos _)
      · exact .ite (fun _ => .error) fun _ => .ok (Nat.succ_pos _)

/-! ## Words and numbers -/

/-- What a reader yields on both texts: the same, and cursors at the same place. -/
def ReadsAlike {α : Type} (r r' : Except SyntaxError (α × Cursor)) : Prop :=
  ∀ a c, r = .ok (a, c) → ∃ d, r' = .ok (a, d) ∧ c.Blanked d

namespace ReadsAlike

variable {α : Type} {r r' q q' : Except SyntaxError (α × Cursor)}

theorem error {e : SyntaxError} : ReadsAlike (.error e) r' := nofun

theorem ite {p : Prop} [Decidable p] (hr : p → ReadsAlike r r') (hq : ¬p → ReadsAlike q q') :
    ReadsAlike (if p then r else q) (if p then r' else q') := by
  split
  · next h => exact hr h
  · next h => exact hq h

end ReadsAlike

theorem word_of_ne {first : Bool} {a : Char} {t : Text} {index line : Nat} (ha : a ≠ '\\') :
    word first (a :: t) index line =
      if isNamePart a then do
        let (more, stop) ← word false t (index + 1) line
        return (a.toNat :: more, stop)
      else .ok ([], ⟨a :: t, index, line⟩) := by
  rw [word]
  · exact fun r h _ => ha h
  · exact fun r h _ => ha h
  · exact fun h => ha h

theorem word_blanked {first : Bool} {t u : Text} {index line : Nat} (h : Blanked t u) :
    ReadsAlike (word first t index line) (word first u index line) := by
  intro points c hc
  fun_induction word first t index line generalizing u points with
  | case1 => exact h.not_nil.elim
  | case2 first index t ih =>
    obtain ⟨v, rfl, hv⟩ := h.of_append (w := ['\\', 'u', '\x7b']) (by decide)
    obtain ⟨⟨value, k⟩, hpoint, hc⟩ := eq_ok_of_bind hc
    obtain ⟨⟨more, stop⟩, hword, hc⟩ := eq_ok_of_bind hc
    cases hc
    obtain ⟨hpoint', hlt⟩ := codePoint_blanked hv _ _ _ hpoint
    obtain ⟨d, hd, hblanked⟩ := ih k (hv.drop hlt) _ hword
    refine ⟨d, ?_, hblanked⟩
    -- the front that both texts share, character by character as the reader takes it
    show word first ('\\' :: 'u' :: '\x7b' :: v) _ _ = _
    rw [word, hpoint']
    simp only [hd, bind, Except.bind, pure, Except.pure]
  | case3 => cases hc
  | case4 first index t hbrace value k hrun a hgood =>
    rename_i ih
    obtain ⟨v, rfl, hv⟩ := h.of_append (w := ['\\', 'u']) (by decide)
    obtain ⟨⟨more, stop⟩, hword, hc⟩ := eq_ok_of_bind hc
    cases hc
    obtain ⟨heq, hlt⟩ := hexRun_blanked hv 4 0
    rw [hrun] at heq hlt
    obtain ⟨d, hd, hblanked⟩ := ih (hv.drop hlt) _ hword
    refine ⟨d, ?_, hblanked⟩
    show word first ('\\' :: 'u' :: v) _ _ = _
    rw [word, heq]
    · refine (if_neg hgood).trans ?_
      simp only [hd, bind, Except.bind, pure, Except.pure]
    · exact fun w => hv.ne_append (w := ['\x7b']) (by decide) hbrace w
  | case5 => cases hc
  | case6 first index a t hbrace hescape hslash ha ih =>
    rcases h.cons_cases with ⟨rfl, rfl, rfl⟩ | ⟨v, rfl, hv⟩
    · cases ha
    · obtain ⟨⟨more, stop⟩, hword, hc⟩ := eq_ok_of_bind hc
      cases hc
      obtain ⟨d, hd, hblanked⟩ := ih hv _ hword
      refine ⟨d, ?_, hblanked⟩
      rw [word_of_ne hslash, if_pos ha]
      simp only [hd, bind, Except.bind, pure, Except.pure]
  | case7 first index a t hbrace hescape hslash ha =>
    cases hc
    rcases h.cons_cases with ⟨rfl, rfl, rfl⟩ | ⟨v, rfl, hv⟩
    · refine ⟨⟨[' '], index, line⟩, ?_, h, rfl, rfl⟩
      rw [word_of_ne (by decide)]
      rfl
    · refine ⟨⟨a :: v, index, line⟩, ?_, h, rfl, rfl⟩
      rw [word_of_ne hslash, if_neg ha]

variable {c d : Cursor}

theorem lexWord_blanked (h : c.Blanked d) : ReadsAlike (lexWord c) (lexWord d) := by
  obtain ⟨hrest, hindex, hline⟩ := h
  intro t e ht
  obtain ⟨⟨points, stop⟩, hword, ht⟩ := eq_ok_of_bind ht
  obtain ⟨stop', hword', hstop⟩ := word_blanked hrest points stop hword
  simp only at ht
  split at ht
  · cases ht
  · next hkind =>
    cases ht
    refine ⟨stop', ?_, hstop⟩
    rw [lexWord, hindex, hline, hword']
    simp only [bind, Except.bind, pure, Except.pure, hstop.index]
    exact if_neg hkind

theorem endNumber_blanked (h : c.Blanked d) {n : Nat} {octal : Bool} (hn : n < c.rest.length) :
    ReadsAlike (endNumber c n octal) (endNumber d n octal) := by
  intro t e ht
  have hskip := h.skip hn
  have hrest := hskip.rest
  rw [endNumber] at ht ⊢
  rw [h.rest.take_eq hn, h.index, hskip.index, h.line]
  split at ht
  · next hnil =>
    rw [hnil] at hrest
    exact hrest.not_nil.elim
  · next a r hcons =>
    rw [hcons] at hrest
    split at ht
    · cases ht
    · next ha =>
      cases ht
      refine ⟨d.skip n, ?_, hskip⟩
      rcases hrest.cons_cases with ⟨-, -, hblank⟩ | ⟨v, hv, -⟩
      · rw [hblank]
        rfl
      · rw [hv]
        exact if_neg ha

theorem radixNumber_blanked (h : c.Blanked d) (hlength : 2 < c.rest.length) {p : Char → Bool}
    (hp : p ')' = false) (hp' : p ' ' = false) :
    ReadsAlike (radixNumber c p) (radixNumber d p) := by
  obtain ⟨heq, hlt⟩ := (h.rest.drop hlength).takeWhile_eq hp hp'
  rw [List.length_drop] at hlt
  rw [radixNumber, radixNumber, heq]
  exact .ite (fun _ => .error) fun _ => endNumber_blanked h (by omega)

theorem digitRun_blanked {t u : Text} (h : Blanked t u) :
    digitRun u = digitRun t ∧ digitRun t < t.length := by
  obtain ⟨heq, hlt⟩ := h.takeWhile_eq (p := Text.Class.isAsciiDigit) (by decide) (by decide)
  rw [digitRun, heq]
  exact ⟨rfl, hlt⟩

/-- The length of a decimal number without its exponent. -/
def mantissaRun (t : Text) : Nat :=
  match t.drop (digitRun t) with
  | '.' :: r => digitRun t + 1 + digitRun r
  | _ => digitRun t

/-- The length of the sign of an exponent. -/
def signRun : Text → Nat
  | s :: _ => if s = '+' || s = '-' then 1 else 0
  | [] => 0

theorem decimalNumber_eq (c : Cursor) :
    decimalNumber c =
      match c.rest.drop (mantissaRun c.rest) with
      | e :: t =>
        if e = 'e' || e = 'E' then
          if digitRun (t.drop (signRun t)) = 0 then
            (c.skip (mantissaRun c.rest + 1 + signRun t)).refuse .illegalCharacter
          else
            endNumber c (mantissaRun c.rest + 1 + signRun t + digitRun (t.drop (signRun t))) false
        else endNumber c (mantissaRun c.rest) false
      | [] => endNumber c (mantissaRun c.rest) false := rfl

theorem mantissaRun_blanked {t u : Text} (h : Blanked t u) :
    mantissaRun u = mantissaRun t ∧ mantissaRun t < t.length := by
  obtain ⟨heq, hlt⟩ := digitRun_blanked h
  have hdrop := h.drop hlt
  rw [mantissaRun, mantissaRun, heq]
  cases hr : t.drop (digitRun t) with
  | nil =>
    rw [hr] at hdrop
    exact hdrop.not_nil.elim
  | cons a r =>
    rw [hr] at hdrop
    have hlength := congrArg List.length hr
    rw [List.length_drop, List.length_cons] at hlength
    rcases hdrop.cons_cases with ⟨rfl, rfl, hd⟩ | ⟨v, hd, hv⟩
    · rw [hd]
      exact ⟨rfl, hlt⟩
    · rw [hd]
      by_cases ha : a = '.'
      · subst ha
        obtain ⟨hdigits, hlt'⟩ := digitRun_blanked hv
        simp only [hdigits, true_and]
        omega
      · split
        · next hdot => exact absurd (List.cons.inj hdot).1 ha
        · split
          · next hdot => exact absurd (List.cons.inj hdot).1 ha
          · exact ⟨rfl, hlt⟩

theorem signRun_blanked {t u : Text} (h : Blanked t u) :
    signRun u = signRun t ∧ signRun t < t.length := by
  cases t with
  | nil => exact h.not_nil.elim
  | cons s t =>
    rcases h.cons_cases with ⟨rfl, rfl, rfl⟩ | ⟨v, rfl, hv⟩
    · exact ⟨rfl, Nat.succ_pos _⟩
    · have hpos := hv.length_pos
      refine ⟨rfl, ?_⟩
      rw [signRun, List.length_cons]
      split
      · omega
      · omega

theorem decimalNumber_blanked (h : c.Blanked d) :
    ReadsAlike (decimalNumber c) (decimalNumber d) := by
  obtain ⟨heq, hlt⟩ := mantissaRun_blanked h.rest
  have hdrop := h.rest.drop hlt
  rw [decimalNumber_eq, decimalNumber_eq, heq]
  cases hr : c.rest.drop (mantissaRun c.rest) with
  | nil =>
    rw [hr] at hdrop
    exact hdrop.not_nil.elim
  | cons a r =>
    rw [hr] at hdrop
    have hlength := congrArg List.length hr
    rw [List.length_drop, List.length_cons] at hlength
    rcases hdrop.cons_cases with ⟨rfl, rfl, hd⟩ | ⟨v, hd, hv⟩
    · rw [hd]
      exact endNumber_blanked h hlt
    · rw [hd]
      refine .ite (fun _ => ?_) fun _ => endNumber_blanked h hlt
      obtain ⟨hsign, hlt'⟩ := signRun_blanked hv
      obtain ⟨hdigits, hlt''⟩ := digitRun_blanked (hv.drop hlt')
      rw [List.length_drop] at hlt''
      rw [hsign, hdigits]
      exact .ite (fun _ => .error) fun _ => endNumber_blanked h (by omega)

/-- A number that starts with a zero and a digit up to seven; `t` is what stands behind these. -/
def octalNumber (c : Cursor) (t : Text) : Except SyntaxError (Token × Cursor) :=
  match t.dropWhile isOctalDigit with
  | d :: _ =>
    if d = '8' || d = '9' then decimalNumber c
    else endNumber c (2 + (t.takeWhile isOctalDigit).length) true
  | [] => endNumber c (2 + t.length) true

theorem lexNumber_of_zero {m : Char} {t : Text} (hc : c.rest = '0' :: m :: t) :
    lexNumber c =
      if m = 'x' || m = 'X' then radixNumber c isHexDigit
      else if m = 'b' || m = 'B' then radixNumber c (fun d => d = '0' || d = '1')
      else if m = 'o' || m = 'O' then radixNumber c isOctalDigit
      else if isOctalDigit m then octalNumber c t
      else decimalNumber c := by
  rw [lexNumber, hc]
  rfl

theorem lexNumber_of_ne_zero (hc : ∀ m t, c.rest ≠ '0' :: m :: t) :
    lexNumber c = decimalNumber c := by
  unfold lexNumber
  split
  · next m t hzero => exact absurd hzero (hc m t)
  · rfl

theorem octalNumber_blanked (h : c.Blanked d) {t u : Text} (ht : Blanked t u)
    (hlength : c.rest.length = t.length + 2) :
    ReadsAlike (octalNumber c t) (octalNumber d u) := by
  obtain ⟨htake, hlt⟩ := ht.takeWhile_eq (p := isOctalDigit) (by decide) (by decide)
  have hdrop := ht.dropWhile (p := isOctalDigit) (by decide) (by decide)
  have hend : ReadsAlike (endNumber c (2 + (t.takeWhile isOctalDigit).length) true)
      (endNumber d (2 + (t.takeWhile isOctalDigit).length) true) :=
    endNumber_blanked h (by omega)
  rw [octalNumber, octalNumber, htake]
  cases hr : t.dropWhile isOctalDigit with
  | nil =>
    rw [hr] at hdrop
    exact hdrop.not_nil.elim
  | cons a r =>
    rw [hr] at hdrop
    rcases hdrop.cons_cases with ⟨rfl, rfl, hu⟩ | ⟨v, hu, -⟩
    · rw [hu]
      exact hend
    · rw [hu]
      exact .ite (fun _ => decimalNumber_blanked h) fun _ => hend

/-- A zero with a character behind it stands in both texts, or in neither. -/
theorem Cursor.Blanked.ne_zero (h : c.Blanked d) (hc : ∀ m t, c.rest ≠ '0' :: m :: t) (m : Char)
    (u : Text) : d.rest ≠ '0' :: m :: u := by
  intro hd
  have hlength : 2 ≤ c.rest.length := by
    rw [← h.rest.length_eq, hd]
    exact Nat.le_add_left 2 u.length
  obtain ⟨a, t, v, ht, hv, htv⟩ := h.rest.exists_cons hlength
  cases hd.symm.trans hv
  obtain ⟨m', t', rfl⟩ := List.exists_cons_of_length_pos htv.length_pos
  exact hc m' t' ht

theorem lexNumber_blanked (h : c.Blanked d) : ReadsAlike (lexNumber c) (lexNumber d) := by
  by_cases hzero : ∃ m t, c.rest = '0' :: m :: t
  · obtain ⟨m, t, hc⟩ := hzero
    have hrest := h.rest
    rw [hc] at hrest
    obtain ⟨v, hd, hv⟩ := hrest.cons_of_ne (by decide)
    rw [lexNumber_of_zero hc]
    rcases hv.cons_cases with ⟨rfl, rfl, rfl⟩ | ⟨w, rfl, hw⟩
    · rw [lexNumber_of_zero hd]
      exact decimalNumber_blanked h
    · rw [lexNumber_of_zero hd]
      have hlength : c.rest.length = t.length + 2 := congrArg List.length hc
      have hradix : 2 < c.rest.length := by
        rw [hlength]
        exact Nat.lt_add_of_pos_left hw.length_pos
      refine .ite (fun _ => radixNumber_blanked h hradix (by decide) (by decide)) fun _ => ?_
      refine .ite (fun _ => radixNumber_blanked h hradix (by decide) (by decide)) fun _ => ?_
      refine .ite (fun _ => radixNumber_blanked h hradix (by decide) (by decide)) fun _ => ?_
      exact .ite (fun _ => octalNumber_blanked h hw hlength) fun _ => decimalNumber_blanked h
  · have hne (m : Char) (t : Text) : c.rest ≠ '0' :: m :: t := fun hc => hzero ⟨m, t, hc⟩
    rw [lexNumber_of_ne_zero hne, lexNumber_of_ne_zero (h.ne_zero hne)]
    exact decimalNumber_blanked h

/-! ## Strings and templates -/

/-- A backslash stands at the end or in front of a character. -/
theorem ne_backslash {a : Char} {t : Text} (hnil : a = '\\' → t = [] → False)
    (hcons : ∀ b r, a = '\\' → t = b :: r → False) : a ≠ '\\' := by
  rintro rfl
  cases t with
  | nil => exact hnil rfl rfl
  | cons b r => exact hcons b r rfl rfl

theorem stringBody_of_ne {quote : Char} {start : Nat} {a : Char} {t : Text} {index line : Nat}
    {octal : Bool} (ha : a ≠ '\\') :
    stringBody quote start (a :: t) index line octal =
      if a = quote then .ok ([], octal, ⟨t, index + 1, line⟩)
      else if isLineEnd a then .error ⟨start, line, .illegalCharacter⟩
      else do
        let (more, octal, stop) ← stringBody quote start t (index + 1) line octal
        return (a :: more, octal, stop) := by
  rw [stringBody]
  · exact fun h => absurd h ha
  · exact fun _ h => absurd h ha
  · exact fun _ _ h => absurd h ha

theorem stringBody_blanked {quote : Char} {start : Nat} {t u : Text} {index line : Nat}
    {octal : Bool} (hquote : quote ≠ ')') (h : Blanked t u) {value : Text} {octal' : Bool}
    {c : Cursor} (hc : stringBody quote start t index line octal = .ok (value, octal', c)) :
    ∃ d, stringBody quote start u index line octal = .ok (value, octal', d) ∧ c.Blanked d := by
  fun_induction stringBody quote start t index line octal generalizing u value octal' with
  | case1 => cases hc
  | case2 => cases hc
  | case3 index line octal t ih =>
    obtain ⟨v, rfl, hv⟩ := h.of_append (w := ['\\', '\r', '\n']) (by decide)
    show ∃ d, stringBody quote start ('\\' :: '\r' :: '\n' :: v) index line octal = _ ∧ _
    rw [stringBody]
    exact ih hv hc
  | case4 index line octal a t hreturn ha ih =>
    obtain ⟨v, rfl, hv⟩ := h.cons_of_ne (by decide)
    rcases hv.cons_cases with ⟨rfl, rfl, rfl⟩ | ⟨w, rfl, hw⟩
    · cases ha
    · rw [stringBody, if_pos ha]
      · exact ih hw hc
      · exact hw.imp_ne_append (w := ['\n']) (by decide) hreturn
  | case5 index line octal a t hreturn ha ih =>
    obtain ⟨⟨value, k, legacy⟩, hescape, hc⟩ := eq_ok_of_bind hc
    obtain ⟨⟨more, octal', stop⟩, hbody, hc⟩ := eq_ok_of_bind hc
    cases hc
    obtain ⟨v, rfl, hv⟩ := h.cons_of_ne (by decide)
    rcases hv.cons_cases with ⟨rfl, rfl, rfl⟩ | ⟨w, rfl, hw⟩
    · rw [List.drop_nil, stringBody] at hbody
      cases hbody
    · obtain ⟨hescape', hlt⟩ := stringEscape_blanked hw _ _ _ _ hescape
      obtain ⟨d, hd, hblanked⟩ := ih k legacy (hw.drop hlt) hbody
      refine ⟨d, ?_, hblanked⟩
      rw [stringBody, if_neg ha, hescape']
      · simp only [hd, bind, Except.bind, pure, Except.pure]
      · exact hw.imp_ne_append (w := ['\n']) (by decide) hreturn
  | case6 index line octal t hnil hreturn hslash =>
    cases hc
    obtain ⟨v, rfl, hv⟩ := h.cons_of_ne hquote
    refine ⟨⟨v, index + 1, line⟩, ?_, hv, rfl, rfl⟩
    rw [stringBody_of_ne (ne_backslash hnil hslash), if_pos rfl]
  | case7 => cases hc
  | case8 index line octal a t hnil hreturn hslash hne ha ih =>
    obtain ⟨⟨more, octal', stop⟩, hbody, hc⟩ := eq_ok_of_bind hc
    cases hc
    rcases h.cons_cases with ⟨rfl, rfl, rfl⟩ | ⟨v, rfl, hv⟩
    · rw [stringBody] at hbody
      cases hbody
    · obtain ⟨d, hd, hblanked⟩ := ih hv hbody
      have hslash' := ne_backslash hnil hslash
      refine ⟨d, ?_, hblanked⟩
      rw [stringBody_of_ne hslash', if_neg hne, if_neg ha]
      simp only [hd, bind, Except.bind, pure, Except.pure]

theorem lexString_blanked {c d : Cursor} (h : c.Blanked d) {quote : Char} (hquote : quote ≠ ')')
    (hlength : 2 ≤ c.rest.length) : ReadsAlike (lexString quote c) (lexString quote d) := by
  intro t e ht
  obtain ⟨⟨value, octal, stop⟩, hbody, ht⟩ := eq_ok_of_bind ht
  cases ht
  obtain ⟨stop', hbody', hstop⟩ := stringBody_blanked hquote (h.rest.drop hlength) hbody
  refine ⟨stop', ?_, hstop⟩
  rw [lexString, h.index, h.line, hbody']
  simp only [bind, Except.bind, pure, Except.pure, hstop.index, hstop.line]

theorem templateBody_blanked {t u : Text} {index line : Nat} (h : Blanked t u) :
    ReadsAlike (templateBody t index line) (templateBody u index line) := by
  intro closes c hc
  fun_induction templateBody t index line generalizing u with
  | case1 => cases hc
  | case2 => cases hc
  | case3 index line t =>
    cases hc
    obtain ⟨v, rfl, hv⟩ := h.cons_of_ne (by decide)
    refine ⟨⟨v, index + 1, line⟩, ?_, hv, rfl, rfl⟩
    rw [templateBody]
  | case4 index line t =>
    cases hc
    obtain ⟨v, rfl, hv⟩ := h.of_append (w := ['$', '\x7b']) (by decide)
    refine ⟨⟨v, index + 2, line⟩, ?_, hv, rfl, rfl⟩
    show templateBody ('$' :: '\x7b' :: v) index line = _
    rw [templateBody]
  | case5 index line t ih =>
    obtain ⟨v, rfl, hv⟩ := h.of_append (w := ['\\', '\r', '\n']) (by decide)
    show ∃ d, templateBody ('\\' :: '\r' :: '\n' :: v) index line = _ ∧ _
    rw [templateBody]
    exact ih hv hc
  | case6 index line a t hreturn ha ih =>
    obtain ⟨v, rfl, hv⟩ := h.cons_of_ne (by decide)
    rcases hv.cons_cases with ⟨rfl, rfl, rfl⟩ | ⟨w, rfl, hw⟩
    · cases ha
    · rw [templateBody, if_pos ha]
      · exact ih hw hc
      · exact hw.imp_ne_append (w := ['\n']) (by decide) hreturn
  | case7 index line a t hreturn ha ih =>
    obtain ⟨k, hescape, hbody⟩ := eq_ok_of_bind hc
    obtain ⟨v, rfl, hv⟩ := h.cons_of_ne (by decide)
    rcases hv.cons_cases with ⟨rfl, rfl, rfl⟩ | ⟨w, rfl, hw⟩
    · rw [List.drop_nil, templateBody] at hbody
      cases hbody
    · obtain ⟨hescape', hlt⟩ := templateEscape_blanked hw _ _ _ _ hescape
      obtain ⟨d, hd, hblanked⟩ := ih k (hw.drop hlt) hbody
      refine ⟨d, ?_, hblanked⟩
      rw [templateBody, if_neg ha, hescape']
      · exact hd
      · exact hw.imp_ne_append (w := ['\n']) (by decide) hreturn
  | case8 index line t ih =>
    obtain ⟨v, rfl, hv⟩ := h.of_append (w := ['\r', '\n']) (by decide)
    show ∃ d, templateBody ('\r' :: '\n' :: v) index line = _ ∧ _
    rw [templateBody]
    exact ih hv hc
  | case9 index line a t hnil hquote hbrace hreturn hslash hline ih =>
    rcases h.cons_cases with ⟨rfl, rfl, rfl⟩ | ⟨v, rfl, hv⟩
    · rw [templateBody] at hc
      cases hc
    · have hslash' := ne_backslash hnil hslash
      rw [templateBody]
      · exact ih hv hc
      · exact fun ha _ => hslash' ha
      · exact hquote
      · exact hv.imp_ne_append (w := ['\x7b']) (by decide) hbrace
      · exact fun _ ha => absurd ha hslash'
      · exact fun _ _ ha => absurd ha hslash'
      · exact hv.imp_ne_append (w := ['\n']) (by decide) hline

/-! ## Tokens -/

/-- What the lexer yields on both texts: the same token, and cursors at the same place. -/
def LexesAlike (r r' : Except SyntaxError Lexed) : Prop :=
  ∀ l, r = .ok l → ∃ e, r' = .ok { l with cursor := e } ∧ l.cursor.Blanked e

theorem LexesAlike.of_readsAlike {r r' : Except SyntaxError (Token × Cursor)} {braces : List Bool}
    (h : ReadsAlike r r') :
    LexesAlike (do let (t, c) ← r; return ⟨t, c, braces⟩)
      (do let (t, c) ← r'; return ⟨t, c, braces⟩) := by
  intro l hl
  obtain ⟨⟨t, e⟩, hr, hl⟩ := eq_ok_of_bind hl
  cases hl
  obtain ⟨e', hr', he⟩ := h t e hr
  refine ⟨e', ?_, he⟩
  rw [hr']
  rfl

theorem lexTemplate_blanked (h : c.Blanked d) (hlength : 2 ≤ c.rest.length) (braces : List Bool) :
    LexesAlike (lexTemplate braces c) (lexTemplate braces d) := by
  intro l hl
  obtain ⟨⟨closes, stop⟩, hbody, hl⟩ := eq_ok_of_bind hl
  obtain ⟨stop', hbody', hstop⟩ := templateBody_blanked (h.rest.drop hlength) closes stop hbody
  have hhead : d.rest.head? = c.rest.head? := by
    have htake := congrArg List.head? (h.rest.take_eq hlength)
    rwa [List.head?_take, List.head?_take, if_neg Nat.one_ne_zero, if_neg Nat.one_ne_zero] at htake
  have hvalue :
      (d.rest.drop 1).take (stop.index - c.index - (if closes then 2 else 3)) =
        (c.rest.drop 1).take (stop.index - c.index - (if closes then 2 else 3)) := by
    obtain ⟨n, hrest, hindex⟩ := (endsPart_templateBody hbody).follows
    have hpos := hstop.rest.length_pos
    rw [hrest, List.length_drop] at hpos
    refine (h.rest.drop hlength).take_eq ?_
    split
    · omega
    · omega
  cases hl
  refine ⟨stop', ?_, hstop⟩
  rw [lexTemplate, h.index, h.line, hbody']
  simp only [bind, Except.bind, pure, Except.pure, hstop.index, hstop.line, hhead, hvalue]

theorem Blanked.isPrefixOf_eq {t u w : Text} (h : Blanked t u) (hw : ')' ∉ w) (hw' : ' ' ∉ w) :
    w.isPrefixOf u = w.isPrefixOf t ∧ (w.isPrefixOf t = true → w.length < t.length) := by
  have hiff : w <+: u ↔ w <+: t := by
    constructor
    · rintro ⟨v, rfl⟩
      exact Classical.byContradiction fun hnone =>
        h.ne_append hw' (fun t' ht => hnone ⟨t', ht.symm⟩) v rfl
    · rintro ⟨r, rfl⟩
      obtain ⟨v, rfl, -⟩ := h.of_append hw
      exact ⟨v, rfl⟩
  refine ⟨Bool.eq_iff_iff.mpr (by simpa only [List.isPrefixOf_iff_prefix] using hiff), ?_⟩
  intro hstarts
  obtain ⟨r, rfl⟩ := List.isPrefixOf_iff_prefix.mp hstarts
  obtain ⟨v, -, hv⟩ := h.of_append hw
  rw [List.length_append]
  exact Nat.lt_add_of_pos_right hv.length_pos

/-- A punctuator of the given spelling at a cursor. -/
def Lexed.punctuator (braces : List Bool) (c : Cursor) (s : String) : Lexed :=
  ⟨{ kind := .punctuator, value := s, start := c.index, stop := c.index + s.length,
     line := c.line }, c.skip s.length, braces⟩

theorem LexesAlike.punctuator (h : c.Blanked d) {s : String} (hs : s.length < c.rest.length)
    (braces : List Bool) :
    LexesAlike (.ok (.punctuator braces c s)) (.ok (.punctuator braces d s)) := by
  rintro _ ⟨⟩
  refine ⟨d.skip s.length, ?_, h.skip hs⟩
  rw [Lexed.punctuator, Lexed.punctuator, h.index, h.line]

theorem operators_plain : ∀ s ∈ operators, ')' ∉ s.toList ∧ ' ' ∉ s.toList := by decide

theorem lexPunctuator_cons {c : Cursor} {a : Char} {t : Text} (braces : List Bool)
    (hc : c.rest = a :: t) (hbrace : a ≠ '\x7b') (hclose : a ≠ '\x7d')
    (hdots : ∀ r, a = '.' → t = '.' :: '.' :: r → False) :
    lexPunctuator braces c =
      if [')', '(', ';', ',', '[', ']', ':', '?', '~', '.'].contains a then
        .ok (.punctuator braces c (String.singleton a))
      else match operators.find? (fun s => s.toList.isPrefixOf c.rest) with
        | some s => .ok (.punctuator braces c s)
        | none => c.refuse .illegalCharacter := by
  suffices h : ∀ r, lexPunctuator braces c = r → r = _ from h _ rfl
  intro r hr
  unfold lexPunctuator at hr
  rw [hc] at hr
  split at hr
  · next heq => exact absurd (List.cons.inj heq).1 hbrace
  · next heq => exact absurd (List.cons.inj heq).1 hclose
  · next r heq => exact absurd (List.cons.inj heq).2 (hdots r (List.cons.inj heq).1)
  · next heq =>
    cases heq
    rw [← hr, hc]
    rfl
  · next heq => cases heq

theorem lexPunctuator_blanked (h : c.Blanked d) (hlength : 2 ≤ c.rest.length)
    (braces : List Bool) : LexesAlike (lexPunctuator braces c) (lexPunctuator braces d) := by
  intro l hl
  obtain ⟨a, t, v, hc, hd, hv⟩ := h.rest.exists_cons hlength
  by_cases hbrace : a = '\x7b'
  · subst hbrace
    rw [lexPunctuator, hc] at hl
    rw [lexPunctuator, hd]
    exact LexesAlike.punctuator h (s := "\x7b") hlength (false :: braces) l hl
  by_cases hclose : a = '\x7d'
  · subst hclose
    rw [lexPunctuator, hc] at hl
    rw [lexPunctuator, hd]
    exact LexesAlike.punctuator h (s := "\x7d") hlength (braces.drop 1) l hl
  by_cases hdots : ∃ r, a = '.' ∧ t = '.' :: '.' :: r
  · obtain ⟨r, rfl, rfl⟩ := hdots
    obtain ⟨w, rfl, hw⟩ := hv.of_append (w := ['.', '.']) (by decide)
    rw [lexPunctuator, hc] at hl
    rw [lexPunctuator, hd]
    have hpos := hw.length_pos
    have hthree : "...".length < c.rest.length := by
      rw [hc]
      exact Nat.add_lt_add_right hpos 3
    exact LexesAlike.punctuator h hthree braces l hl
  · have hdots' (r : Text) (ha : a = '.') (ht : t = '.' :: '.' :: r) : False :=
      hdots ⟨r, ha, ht⟩
    have hfind : operators.find? (fun s => s.toList.isPrefixOf d.rest) =
        operators.find? (fun s => s.toList.isPrefixOf c.rest) := by
      refine List.find?_congr fun s hs => ?_
      obtain ⟨hclose, hblank⟩ := operators_plain s hs
      exact (h.rest.isPrefixOf_eq hclose hblank).1
    rw [lexPunctuator_cons braces hc hbrace hclose hdots'] at hl
    rw [lexPunctuator_cons braces hd hbrace hclose
      (hv.imp_ne_append (w := ['.', '.']) (by decide) hdots')]
    split at hl
    · next hsingle =>
      rw [if_pos hsingle]
      exact LexesAlike.punctuator h (by rwa [String.length_singleton]) braces l hl
    · next hsingle =>
      rw [if_neg hsingle, hfind]
      split at hl
      · next s hs =>
        obtain ⟨hclose, hblank⟩ := operators_plain s (List.mem_of_find?_eq_some hs)
        have hlt := (h.rest.isPrefixOf_eq hclose hblank).2 (by simpa using List.find?_some hs)
        rw [String.length_toList] at hlt
        exact LexesAlike.punctuator h hlt braces l hl
      · cases hl

theorem lex_blanked (h : c.Blanked d) (hlength : 2 ≤ c.rest.length) (braces : List Bool) :
    LexesAlike (lex braces c) (lex braces d) := by
  obtain ⟨a, t, v, hc, hd, hv⟩ := h.rest.exists_cons hlength
  have hdigit : (v.head?.map Text.Class.isAsciiDigit).getD false =
      (t.head?.map Text.Class.isAsciiDigit).getD false := by
    cases t with
    | nil => exact hv.not_nil.elim
    | cons b t =>
      rcases hv.cons_cases with ⟨rfl, rfl, rfl⟩ | ⟨w, rfl, -⟩
      · rfl
      · rfl
  unfold lex
  rw [hc, hd]
  simp only
  rw [hdigit]
  split
  · exact .of_readsAlike (lexWord_blanked h)
  split
  · next hquote =>
    have hne : a ≠ ')' := by
      rintro rfl
      exact absurd hquote (by decide)
    exact .of_readsAlike (lexString_blanked h hne hlength)
  split
  · exact .of_readsAlike (lexNumber_blanked h)
  split
  · exact .of_readsAlike (lexNumber_blanked h)
  split
  · exact lexTemplate_blanked h hlength braces
  · exact lexPunctuator_blanked h hlength braces

/-- A parenthesis and nothing behind it. -/
theorem lex_close {c : Cursor} (h : c.rest = [')']) (braces : List Bool) :
    lex braces c = .ok (.punctuator braces c ")") := by
  unfold lex
  rw [h]
  exact lexPunctuator_cons braces h (by decide) (by decide) nofun

theorem lex_end {c : Cursor} (h : c.rest = []) (braces : List Bool) :
    lex braces c =
      .ok ⟨{ kind := .endOfInput, value := "", start := c.index, stop := c.index, line := c.line },
        c, braces⟩ := by
  rw [lex, h]

/-! ## Kinds of tokens -/

theorem kind_of_endNumber {c d : Cursor} {n : Nat} {octal : Bool} {t : Token}
    (h : endNumber c n octal = .ok (t, d)) : t.kind = .numeric := by
  unfold endNumber at h
  simp only [Cursor.refuse] at h
  repeat' split at h
  all_goals cases h
  all_goals rfl

theorem kind_of_lexNumber {c d : Cursor} {t : Token} (h : lexNumber c = .ok (t, d)) :
    t.kind = .numeric := by
  unfold lexNumber decimalNumber radixNumber at h
  simp only [Cursor.refuse] at h
  repeat' split at h
  all_goals first
    | exact kind_of_endNumber h
    | cases h

theorem kind_of_lexPunctuator {braces : List Bool} {c : Cursor} {l : Lexed}
    (h : lexPunctuator braces c = .ok l) : l.token.kind = .punctuator := by
  unfold lexPunctuator at h
  simp only [Cursor.refuse] at h
  repeat' split at h
  all_goals cases h
  all_goals rfl

theorem kind_of_lexTemplate {braces : List Bool} {c : Cursor} {l : Lexed}
    (h : lexTemplate braces c = .ok l) : l.token.kind = .template := by
  obtain ⟨⟨closes, stop⟩, -, h⟩ := eq_ok_of_bind h
  cases h
  rfl

theorem kind_of_lexString {quote : Char} {c d : Cursor} {t : Token}
    (h : lexString quote c = .ok (t, d)) : t.kind = .string ∧ t.stop = d.index := by
  obtain ⟨⟨value, octal, stop⟩, -, h⟩ := eq_ok_of_bind h
  cases h
  exact ⟨rfl, rfl⟩

theorem kind_of_lexWord {c d : Cursor} {t : Token}
    (h : lexWord c = .ok (t, d)) : t.kind ≠ .string := by
  obtain ⟨⟨points, stop⟩, -, h⟩ := eq_ok_of_bind h
  simp only [Cursor.refuse] at h
  split at h
  · cases h
  · cases h
    simp only [Token.kindOfWord]
    repeat' split
    all_goals decide

/-- Of tokens of other kinds than words and strings nothing is said. -/
theorem lex_spec_of_kind {c : Cursor} {l : Lexed} {k : Token.Kind} (hkind : l.token.kind = k)
    (hk : k ≠ .string ∧ k ≠ .identifier ∧ k ≠ .keyword) :
    (l.token.kind = .string → l.token.stop = l.cursor.index) ∧
      (l.token.kind = .identifier ∨ l.token.kind = .keyword →
        lexWord c = .ok (l.token, l.cursor)) := by
  rw [hkind]
  exact ⟨fun hstring => absurd hstring hk.1, fun hword => absurd hword (not_or.mpr hk.2)⟩

/-- Words and strings come from their own readers. -/
theorem lex_spec {braces : List Bool} {c : Cursor} {l : Lexed} (h : lex braces c = .ok l) :
    (l.token.kind = .string → l.token.stop = l.cursor.index) ∧
      (l.token.kind = .identifier ∨ l.token.kind = .keyword →
        lexWord c = .ok (l.token, l.cursor)) := by
  unfold lex at h
  simp only at h
  split at h
  · cases h
    exact lex_spec_of_kind (k := .endOfInput) rfl (by decide)
  split at h
  · obtain ⟨⟨t, d⟩, hword, h⟩ := eq_ok_of_bind h
    cases h
    exact ⟨fun hkind => absurd hkind (kind_of_lexWord hword), fun _ => hword⟩
  split at h
  · obtain ⟨⟨t, d⟩, hstring, h⟩ := eq_ok_of_bind h
    cases h
    obtain ⟨hkind, hstop⟩ := kind_of_lexString hstring
    exact ⟨fun _ => hstop, fun hword => by simp [hkind] at hword⟩
  split at h
  · obtain ⟨⟨t, d⟩, hnumber, h⟩ := eq_ok_of_bind h
    cases h
    exact lex_spec_of_kind (kind_of_lexNumber hnumber) (by decide)
  split at h
  · obtain ⟨⟨t, d⟩, hnumber, h⟩ := eq_ok_of_bind h
    cases h
    exact lex_spec_of_kind (kind_of_lexNumber hnumber) (by decide)
  split at h
  · exact lex_spec_of_kind (kind_of_lexTemplate h) (by decide)
  · exact lex_spec_of_kind (kind_of_lexPunctuator h) (by decide)

/-! ## Regular expressions -/

theorem expressionBody_of_ne {inClass : Bool} {a : Char} {t : Text} {index line : Nat}
    (ha : a ≠ '\\') :
    expressionBody inClass (a :: t) index line =
      if isLineEnd a then .error ⟨index + 1, line, .unterminatedRegularExpression⟩
      else if a = '/' && !inClass then .ok 1
      else do
        return (← expressionBody (if inClass then a != ']' else a == '[') t (index + 1) line) + 1 := by
  rw [expressionBody]
  · exact fun h => absurd h ha
  · exact fun _ _ h => absurd h ha

theorem expressionBody_blanked {inClass : Bool} {t u : Text} {index line n : Nat}
    (h : Blanked t u) (hn : expressionBody inClass t index line = .ok n) :
    expressionBody inClass u index line = .ok n ∧ n < t.length := by
  fun_induction expressionBody inClass t index line generalizing u n with
  | case1 => cases hn
  | case2 => cases hn
  | case3 => cases hn
  | case4 inClass index a t ha ih =>
    obtain ⟨m, hm, hn⟩ := eq_ok_of_bind hn
    cases hn
    obtain ⟨v, rfl, hv⟩ := h.cons_of_ne (by decide)
    rcases hv.cons_cases with ⟨rfl, rfl, rfl⟩ | ⟨w, rfl, hw⟩
    · rw [expressionBody] at hm
      cases hm
    · obtain ⟨hm', hlt⟩ := ih hw hm
      rw [expressionBody, if_neg ha, hm']
      exact ⟨rfl, Nat.add_lt_add_right hlt 2⟩
  | case5 => cases hn
  | case6 inClass index a t hnil hslash ha hstop =>
    cases hn
    rw [Bool.and_eq_true, decide_eq_true_eq] at hstop
    obtain ⟨rfl, hclass⟩ := hstop
    obtain ⟨v, rfl, hv⟩ := h.cons_of_ne (by decide)
    rw [expressionBody_of_ne (by decide), if_neg ha, if_pos (by simpa using hclass)]
    exact ⟨rfl, Nat.succ_lt_succ hv.length_pos⟩
  | case7 inClass index a t hnil hslash ha hstop ih =>
    obtain ⟨m, hm, hn⟩ := eq_ok_of_bind hn
    cases hn
    rcases h.cons_cases with ⟨rfl, rfl, rfl⟩ | ⟨v, rfl, hv⟩
    · rw [expressionBody] at hm
      cases hm
    · have hslash' := ne_backslash hnil hslash
      obtain ⟨hm', hlt⟩ := ih hv hm
      rw [expressionBody_of_ne hslash', if_neg ha, if_neg hstop, hm']
      exact ⟨rfl, Nat.succ_lt_succ hlt⟩

theorem skipFlags_of_ne {a : Char} {t : Text} {index line : Nat} (ha : a ≠ '\\') :
    skipFlags (a :: t) index line =
      if isNamePart a then skipFlags t (index + 1) line else .ok ⟨a :: t, index, line⟩ := by
  rw [skipFlags]
  · exact fun h => absurd h ha
  · exact fun _ h => absurd h ha
  · exact ha

theorem skipFlags_blanked {t u : Text} {index line : Nat} (h : Blanked t u) {c : Cursor}
    (hc : skipFlags t index line = .ok c) :
    ∃ d, skipFlags u index line = .ok d ∧ c.Blanked d := by
  fun_induction skipFlags t index line generalizing u with
  | case1 => exact h.not_nil.elim
  | case2 =>
    obtain ⟨v, -, hv⟩ := h.cons_of_ne (by decide)
    exact hv.not_nil.elim
  | case3 => cases hc
  | case4 => cases hc
  | case5 index a t hnil hescape hslash ha ih =>
    rcases h.cons_cases with ⟨rfl, rfl, rfl⟩ | ⟨v, rfl, hv⟩
    · cases ha
    · rw [skipFlags_of_ne hslash, if_pos ha]
      exact ih hv hc
  | case6 index a t hnil hescape hslash ha =>
    cases hc
    rcases h.cons_cases with ⟨rfl, rfl, rfl⟩ | ⟨v, rfl, hv⟩
    · refine ⟨⟨[' '], index, line⟩, ?_, h, rfl, rfl⟩
      rw [skipFlags_of_ne (by decide)]
      rfl
    · refine ⟨⟨a :: v, index, line⟩, ?_, h, rfl, rfl⟩
      rw [skipFlags_of_ne hslash, if_neg ha]

theorem lexRegularExpression_spec {t : Token} {e : Cursor}
    (h : lexRegularExpression c = .ok (t, e)) :
    2 ≤ c.rest.length ∧ t.kind = .regularExpression := by
  obtain ⟨n, hbody, h⟩ := eq_ok_of_bind h
  obtain ⟨stop, -, h⟩ := eq_ok_of_bind h
  simp only [Cursor.refuse] at h
  split at h
  · cases h
    refine ⟨?_, rfl⟩
    cases hc : c.rest with
    | nil =>
      rw [hc] at hbody
      cases hbody
    | cons a r =>
      cases r with
      | nil =>
        rw [hc] at hbody
        cases hbody
      | cons b r => exact Nat.le_add_left 2 r.length
  · cases h

theorem lexRegularExpression_blanked (h : c.Blanked d) :
    ReadsAlike (lexRegularExpression c) (lexRegularExpression d) := by
  intro t e ht
  have hlength := (lexRegularExpression_spec ht).1
  obtain ⟨n, hbody, ht⟩ := eq_ok_of_bind ht
  obtain ⟨stop, hflags, ht⟩ := eq_ok_of_bind ht
  simp only [Cursor.refuse] at ht
  split at ht
  · next hvalid =>
    cases ht
    have hdrop := h.rest.drop hlength
    obtain ⟨hbody', hlt⟩ := expressionBody_blanked hdrop hbody
    rw [List.length_drop] at hlt
    obtain ⟨stop', hflags', hstop⟩ := skipFlags_blanked (h.rest.drop (k := n + 1) (by omega)) hflags
    have htake : (d.rest.drop 1).take (n - 1) = (c.rest.drop 1).take (n - 1) :=
      hdrop.take_eq (by rw [List.length_drop]; omega)
    refine ⟨stop', ?_, hstop⟩
    rw [lexRegularExpression, h.index, h.line, hbody']
    simp only [bind, Except.bind, pure, Except.pure, hflags', htake, hstop.index]
    exact if_pos hvalid
  · cases ht

/-! ## Elements -/

theorem skipElementText_blanked {t u : Text} {index line : Nat} (h : Blanked t u) :
    (skipElementText t index line).rest = [] ∨
      (skipElementText t index line).Blanked (skipElementText u index line) := by
  fun_induction skipElementText t index line generalizing u with
  | case1 => exact h.not_nil.elim
  | case2 index line t ih =>
    obtain ⟨v, rfl, hv⟩ := h.of_append (w := ['\r', '\n']) (by decide)
    exact ih hv
  | case3 index line a t hreturn ha =>
    rcases h.cons_cases with ⟨rfl, rfl, rfl⟩ | ⟨v, rfl, hv⟩
    · exact absurd ha (by decide)
    · rw [skipElementText, if_pos ha]
      · exact .inr ⟨h, rfl, rfl⟩
      · exact hv.imp_ne_append (w := ['\n']) (by decide) hreturn
  | case4 index line a t hreturn ha ih =>
    rcases h.cons_cases with ⟨rfl, rfl, rfl⟩ | ⟨v, rfl, hv⟩
    · exact .inl rfl
    · rw [skipElementText, if_neg ha]
      · exact ih hv
      · exact hv.imp_ne_append (w := ['\n']) (by decide) hreturn

namespace Reference

/-- A reference that the end of the string cuts off names no number, and no more does one that
another character than a semicolon ends. -/
theorem numbers_concat {a : Char} (ha : a ≠ ';') (r : Reference) (t : Text) :
    numbers r (t ++ [a]) = numbers r t := by
  induction t generalizing r with
  | nil => cases r <;> simp [numbers, ha]
  | cons b t ih => cases r <;> simp only [List.cons_append, numbers, ih]

end Reference

/-- What a string in a tag holds: its quote ends it in both texts, or in neither. -/
theorem Blanked.inside {t u : Text} (h : Blanked t u) {quote : Char} (hclose : quote ≠ ')')
    (hblank : quote ≠ ' ') :
    (t.takeWhile (· != quote)).length + 1 < t.length ∧
        u.takeWhile (· != quote) = t.takeWhile (· != quote) ∨
      t.takeWhile (· != quote) = t ∧ u.takeWhile (· != quote) = u := by
  induction t generalizing u with
  | nil => exact h.not_nil.elim
  | cons a t ih =>
    rcases h.cons_cases with ⟨rfl, rfl, rfl⟩ | ⟨v, rfl, hv⟩
    · have hclose' : (')' != quote) = true := bne_iff_ne.mpr hclose.symm
      have hblank' : (' ' != quote) = true := bne_iff_ne.mpr hblank.symm
      exact .inr ⟨by rw [List.takeWhile_cons, if_pos hclose']; rfl,
        by rw [List.takeWhile_cons, if_pos hblank']; rfl⟩
    · rw [List.takeWhile_cons, List.takeWhile_cons]
      split
      · rcases ih hv with ⟨hlt, heq⟩ | ⟨heq, heq'⟩
        · exact .inl ⟨Nat.succ_lt_succ hlt, congrArg (a :: ·) heq⟩
        · exact .inr ⟨congrArg (a :: ·) heq, congrArg (a :: ·) heq'⟩
      · exact .inl ⟨Nat.succ_lt_succ hv.length_pos, rfl⟩

theorem Blanked.stop_eq {t u : Text} (h : Blanked t u) :
    Reference.stop? u = Reference.stop? t := by
  obtain ⟨r, rfl, rfl⟩ := h
  rw [Reference.stop?, Reference.stop?, Reference.numbers_concat (by decide),
    Reference.numbers_concat (by decide)]

/-- What is read in a tag of both texts: the same token, with cursors at the same place, or a string
that no quote ends. -/
def ElementsAlike (r r' : Except Halt Lexed) : Prop :=
  ∀ l, r = .ok l → ∃ l', r' = .ok l' ∧ l'.braces = l.braces ∧
    (l'.token = l.token ∧ l.cursor.Blanked l'.cursor ∨
      l.token.kind = .string ∧ l'.token.kind = .string ∧ l.cursor.rest = [])

theorem ElementsAlike.of_lexesAlike {r r' : Except SyntaxError Lexed} (h : LexesAlike r r') :
    ElementsAlike (r.mapError .refused) (r'.mapError .refused) := by
  intro l hl
  obtain ⟨e, hr', he⟩ := h l (eq_ok_of_mapError hl)
  refine ⟨{ l with cursor := e }, ?_, rfl, .inl ⟨rfl, he⟩⟩
  rw [hr']
  rfl

/-- The first characters as a token of a tag. -/
def Lexed.ofTag (braces : List Bool) (c : Cursor) (kind : Token.Kind) (n : Nat) : Lexed :=
  ⟨{ kind, value := String.ofList (c.rest.take n), start := c.index, stop := c.index + n,
     line := c.line }, c.skip n, braces⟩

theorem ElementsAlike.ofTag (h : c.Blanked d) (braces : List Bool) (kind : Token.Kind) {n : Nat}
    (hn : n < c.rest.length) :
    ElementsAlike (.ok (.ofTag braces c kind n)) (.ok (.ofTag braces d kind n)) := by
  rintro _ ⟨⟩
  refine ⟨_, rfl, rfl, .inl ⟨?_, h.skip hn⟩⟩
  rw [Lexed.ofTag, Lexed.ofTag, h.rest.take_eq hn, h.index, h.line]

theorem lexElement_blanked (h : c.Blanked d) (hlength : 2 ≤ c.rest.length) (braces : List Bool) :
    ElementsAlike (lexElement braces c) (lexElement braces d) := by
  obtain ⟨a, t, v, hc, hd, hv⟩ := h.rest.exists_cons hlength
  have htag (kind : Token.Kind) {n : Nat} (hn : n < c.rest.length) :=
    ElementsAlike.ofTag h braces kind hn
  have hstring : ElementsAlike (.ok (.ofTag braces c .string (t.length + 1)))
      (.ok (.ofTag braces d .string (v.length + 1))) := by
    rintro _ ⟨⟩
    refine ⟨_, rfl, rfl, .inr ⟨rfl, rfl, ?_⟩⟩
    rw [Lexed.ofTag, Cursor.skip, hc]
    exact List.drop_length
  simp only [Lexed.ofTag, hc, hd] at htag hstring
  have hlex := lex_blanked h hlength braces
  have hlength' : c.rest.length = t.length + 1 := congrArg List.length hc
  unfold lexElement
  simp only [hc, hd]
  split
  · exact htag .punctuator (Nat.succ_lt_succ (by omega))
  split
  · next hquote =>
    have hclose : a ≠ ')' := by
      rintro rfl
      exact absurd hquote (by decide)
    have hblank : a ≠ ' ' := by
      rintro rfl
      exact absurd hquote (by decide)
    rcases hv.inside hclose hblank with ⟨hlt, heq⟩ | ⟨heq, heq'⟩
    · rw [heq]
      split
      · exact nofun
      · have hlt' : (t.takeWhile (· != a)).length < t.length := Nat.lt_of_succ_lt hlt
        rw [hv.length_eq, if_pos hlt']
        exact htag .string (Nat.succ_lt_succ hlt)
    · rw [heq, heq', hv.stop_eq]
      split
      · exact nofun
      · rw [if_neg (Nat.lt_irrefl _), if_neg (Nat.lt_irrefl _)]
        exact hstring
  split
  · obtain ⟨hstarts, hlt⟩ := hv.isPrefixOf_eq (w := ['.', '.']) (by decide) (by decide)
    rw [hstarts]
    refine htag .punctuator ?_
    split
    · next htwo =>
      have := hlt htwo
      simp only [List.length_cons, List.length_nil] at this ⊢
      omega
    · simp only [List.length_cons]
      omega
  split
  · exact htag .template (by simp)
  split
  · obtain ⟨heq, hlt⟩ := hv.takeWhile_eq
      (p := fun e => (isNamePart e && e != '\\') || e == '-') (by decide) (by decide)
    rw [heq]
    exact htag .elementName (Nat.succ_lt_succ hlt)
  · exact .of_lexesAlike hlex

end SmartQuotes.Script
