import SmartQuotes.Proofs.Quote.Interpolation
import SmartQuotes.Proofs.Text.Slice

/-!
# The reader of embedded expressions on any text

A text need not be a template: strings, comments, braces and templates in it may be left open, it
may end in a backslash, and it may start anywhere. Whatever it is, each reader stops at a position
of the text that is not in front of the one at which it was called (`Skipped.position_spec`). A span
that is found starts with a dollar sign and a brace and ends behind a brace or with the text.
Outside the spans no such start is left (`spans_leave_no_opening`).
-/

namespace SmartQuotes

namespace Interpolation

/-! ## Where the readers stop -/

/-- What the readers skip, each from behind its opening on. -/
inductive Skipped
  | line
  | block
  | string (quote : Char)
  | expression (depth : Nat)
  | template
deriving DecidableEq, Repr

namespace Skipped

/-- The rest of a text behind what is skipped. -/
def rest (x : Skipped) (t : Text) : Text :=
  match x with
  | line => afterLine t
  | block => afterBlock t
  | string quote => afterString quote t
  | expression depth => (afterExpression depth t).val
  | template => (afterTemplate t).val

/-- The position at which a reader stops that is called at position `i` of a text. -/
def position (x : Skipped) (t : Text) (i : Nat) : Nat := t.length - (x.rest (t.drop i)).length

end Skipped

theorem Takes.suffix {read : Text → Text} {t : Text} (h : Takes read t) : read t <:+ t := by
  obtain ⟨front, ht, -⟩ := h
  exact ⟨front, ht.symm⟩

theorem suffix_afterString (quote : Char) (t : Text) : afterString quote t <:+ t := by
  fun_induction afterString quote t with
  | case1 => exact List.suffix_rfl
  | case2 c t ih => exact (ih.trans (List.suffix_cons c t)).trans (List.suffix_cons '\\' _)
  | case3 c t => exact List.suffix_cons c t
  | case4 c t _ _ ih => exact ih.trans (List.suffix_cons c t)

namespace Skipped

theorem suffix_rest (x : Skipped) (t : Text) : x.rest t <:+ t := by
  cases x with
  | line => exact (takes_afterLine t).suffix
  | block => exact (takes_afterBlock t).suffix
  | string quote => exact suffix_afterString quote t
  | expression depth => exact (takes_after.1 depth t).suffix
  | template => exact (takes_after.2 t).suffix

/-- A reader that is called within a text stops within it, and not in front of its start. What it
leaves is the text from there on. -/
theorem position_spec (x : Skipped) {t : Text} {i : Nat} (h : i ≤ t.length) :
    i ≤ x.position t i ∧ x.position t i ≤ t.length ∧
      x.rest (t.drop i) = t.drop (x.position t i) := by
  have hsuffix := x.suffix_rest (t.drop i)
  have hlength := hsuffix.length_le
  rw [List.length_drop] at hlength
  refine ⟨?_, Nat.sub_le _ _, ?_⟩
  · rw [position]
    omega
  · exact List.suffix_iff_eq_drop.mp (hsuffix.trans (List.drop_suffix i t))

end Skipped

/-! ## How an expression ends -/

/-- The text ends, or the rest stands behind a closing brace in it. -/
def IsClosed (t rest : Text) : Prop := rest ≠ [] → ∃ front, t = front ++ '\x7d' :: rest

theorem IsClosed.append {t u rest : Text} (h : IsClosed u rest) (lead : Text) (hu : u <:+ t) :
    IsClosed (lead ++ t) rest := by
  intro hne
  obtain ⟨front, rfl⟩ := h hne
  obtain ⟨skipped, rfl⟩ := hu
  exact ⟨lead ++ (skipped ++ front), by simp only [List.append_assoc]⟩

/-- An expression ends with a closing brace, unless it reaches to the end of the text. -/
theorem isClosed_afterExpression (depth : Nat) (t : Text) :
    IsClosed t (afterExpression depth t).val := by
  refine (afterExpression.mutual_induct
    (fun depth t => IsClosed t (afterExpression depth t).val) (fun _ => True)
    ?nil ?single ?double ?template ?line ?block ?opening ?last ?closing ?other
    ?_ ?_ ?_ ?_ ?_).1 depth t
  case nil => exact fun depth h => absurd val_afterExpression_nil h
  case single =>
    intro depth t _ _ _ _ ih
    rw [val_afterExpression_quote (c := '\x27') (.inl rfl)]
    exact ih.append ['\x27'] (suffix_afterString _ t)
  case double =>
    intro depth t _ _ _ _ ih
    rw [val_afterExpression_quote (c := '\x22') (.inr rfl)]
    exact ih.append ['\x22'] (suffix_afterString _ t)
  case template =>
    intro depth t inner _ hinner _ _ _ _ ih
    have hval : inner = (afterTemplate t).val := by rw [hinner]
    rw [val_afterExpression_backquote, ← hval]
    exact ih.append ['\x60'] (hval ▸ (takes_after.2 t).suffix)
  case line =>
    intro depth t _ _ _ _ ih
    rw [val_afterExpression_line]
    exact ih.append ['/', '/'] (takes_afterLine t).suffix
  case block =>
    intro depth t _ _ _ _ ih
    rw [val_afterExpression_block]
    exact ih.append ['/', '*'] (takes_afterBlock t).suffix
  case opening =>
    intro depth t _ _ _ ih
    rw [val_afterExpression_opening]
    exact ih.append ['\x7b'] List.suffix_rfl
  case last =>
    intro t _
    exact ⟨[], by rw [val_afterExpression_last, List.nil_append]⟩
  case closing =>
    intro t depth _ _ _ ih
    rw [val_afterExpression_closing]
    exact ih.append ['\x7d'] List.suffix_rfl
  case other =>
    intro depth c t hsingle hdouble hback hline hblock hopening hclosing _ _ _ ih
    rw [val_afterExpression_other (fun h => h.elim hsingle hdouble) hback hopening hclosing
      (head?_ne_of_slash hline hblock)]
    exact ih.append [c] List.suffix_rfl
  all_goals intros; trivial

/-! ## The spans -/

/-- A span that is found starts with a dollar sign and a brace; it ends behind a brace, unless it
reaches to the end of the text. -/
theorem delimited_of_mem_spansFrom {u : Text} {i : Nat} {t : Text} (ht : u.drop i = t) {s : Span}
    (hs : s ∈ spansFrom i t) :
    u.slice s.start (s.start + 2) = ['$', '\x7b'] ∧
      (s.stop ≠ u.length → u.slice (s.stop - 1) s.stop = ['\x7d']) := by
  induction i, t using reading_induction with
  | nil i => cases spansFrom_nil ▸ hs
  | escape i c t ih =>
    rw [spansFrom_escape] at hs
    exact ih (Text.extract_of_drop_eq_append (a := ['\\', c]) ht (List.cons_ne_nil _ _)).2.2 hs
  | other i c t hescape hdollar ih =>
    rw [spansFrom_other hescape hdollar] at hs
    exact ih (Text.extract_of_drop_eq_append (a := [c]) ht (List.cons_ne_nil _ _)).2.2 hs
  | segment i front rest hrest ih =>
    rw [spansFrom_opening hrest] at hs
    obtain ⟨hle, hopening, hbehind⟩ :=
      Text.extract_of_drop_eq_append (a := ['$', '\x7b']) ht (List.cons_ne_nil _ _)
    replace hbehind : u.drop (i + 2) = front ++ rest := hbehind
    have hlast : u.drop (i + 2 + front.length) = rest := by
      rw [← List.drop_drop, hbehind, List.drop_left]
    rcases List.mem_cons.mp hs with rfl | hs
    · refine ⟨(Text.slice_natCast i (i + 2)).trans hopening, fun hstop => ?_⟩
      have hne : rest ≠ [] := by
        intro hnil
        have hlength := congrArg List.length hbehind
        rw [hnil, List.append_nil, List.length_drop] at hlength
        replace hle : i + 2 ≤ u.length := hle
        exact hstop (by simp only; omega)
      obtain ⟨inner, hinner⟩ := isClosed_afterExpression 0 (front ++ rest) (hrest.symm ▸ hne)
      rw [hrest, List.append_cons] at hinner
      obtain rfl := List.append_cancel_right hinner
      have hbrace : u.drop (i + 2 + inner.length) = ['\x7d'] ++ rest := by
        rw [← List.drop_drop, hbehind, List.append_assoc, List.drop_left]
      have hslice := (Text.extract_of_drop_eq_append hbrace (List.cons_ne_nil _ _)).2.1
      rw [← Text.slice_natCast] at hslice
      simp only [List.length_append, List.length_singleton, Nat.cast_add, Nat.cast_one] at hslice ⊢
      rw [← hslice]
      congr 1
      omega
    · exact ih hlast hs

/-- Starts of expressions that are read outside of the spans, by a reader that goes through the text
from position `i` on. A backslash takes the character behind it. -/
def openingsFrom (spans : List Span) (escaped : Bool) (i : Nat) : Text → List Nat
  | [] => []
  | c :: t =>
    if Span.covered spans i || escaped then openingsFrom spans false (i + 1) t
    else if c = '\\' then openingsFrom spans true (i + 1) t
    else if c = '$' && t.head? == some '\x7b' then i :: openingsFrom spans false (i + 1) t
    else openingsFrom spans false (i + 1) t

/-- Starts of expressions outside of the spans, from behind an opening backquote on. -/
def openings (spans : List Span) : Text → List Nat
  | '\x60' :: t => openingsFrom spans false 1 t
  | t => openingsFrom spans false 0 t

theorem openingsFrom_append {spans : List Span} {i : Nat} {front rest : Text}
    (h : ∀ j < front.length, Span.covered spans (i + j : Nat) = true) :
    openingsFrom spans false i (front ++ rest) =
      openingsFrom spans false (i + front.length) rest := by
  induction front generalizing i with
  | nil => rfl
  | cons c front ih =>
    have hfirst : Span.covered spans i = true := h 0 (Nat.zero_lt_succ _)
    rw [List.cons_append, openingsFrom, hfirst, Bool.true_or, if_pos rfl, ih fun j hj => ?_,
      List.length_cons, Nat.add_right_comm, Nat.add_assoc]
    rw [Nat.add_right_comm, Nat.add_assoc]
    exact h (j + 1) (Nat.succ_lt_succ hj)

theorem not_covered_spansFrom {i k : Nat} (h : i < k) (t : Text) :
    Span.covered (spansFrom k t) i = false := by
  rw [← Bool.not_eq_true, Span.covered_iff]
  rintro ⟨s, hs, hstart, -⟩
  have := (bounds_of_mem_spansFrom hs).1
  omega

/-- The spans that are found leave no start of an expression, also with others in front of them. -/
theorem openingsFrom_spansFrom {spans : List Span} {i : Nat} {t : Text}
    (h : ∀ j : Nat, i ≤ j → Span.covered spans j = Span.covered (spansFrom i t) j) :
    openingsFrom spans false i t = [] := by
  induction i, t using reading_induction with
  | nil i => rfl
  | escape i c t ih =>
    rw [spansFrom_escape] at h
    have hfirst : Span.covered spans i = false := by
      rw [h i (Nat.le_refl i), not_covered_spansFrom (by omega)]
    simp only [openingsFrom, hfirst, Bool.or_self, Bool.false_eq_true, if_false, if_true,
      Bool.or_true]
    exact ih fun j hj => h j (by omega)
  | segment i front rest hrest ih =>
    rw [spansFrom_opening hrest] at h
    have hstop : i + ('$' :: '\x7b' :: front).length = i + 2 + front.length := by
      rw [List.length_cons, List.length_cons]
      omega
    have hskip : openingsFrom spans false i (('$' :: '\x7b' :: front) ++ rest) =
        openingsFrom spans false (i + 2 + front.length) rest := by
      rw [openingsFrom_append fun j hj => ?_, hstop]
      rw [h (i + j) (Nat.le_add_right i j), Span.covered_cons, Bool.or_eq_true, Span.covers_iff]
      exact Or.inl (by simp only; omega)
    refine hskip.trans (ih fun j hj => ?_)
    have houter : (⟨i, (i + 2 + front.length : Nat)⟩ : Span).covers j = false := by
      rw [← Bool.not_eq_true, Span.covers_iff]
      simp only
      omega
    rw [h j (by omega), Span.covered_cons, houter, Bool.false_or]
  | other i c t hescape hdollar ih =>
    rw [spansFrom_other hescape hdollar] at h
    have hfirst : Span.covered spans i = false := by
      rw [h i (Nat.le_refl i), not_covered_spansFrom (Nat.lt_succ_self i)]
    rw [openingsFrom, hfirst, Bool.or_self, if_neg Bool.false_ne_true]
    split
    · next hc =>
      rw [hescape hc]
      rfl
    · rw [if_neg ?_]
      · exact ih fun j hj => h j (by omega)
      · rw [Bool.and_eq_true, decide_eq_true_eq, beq_iff_eq]
        exact fun hc => hdollar hc.1 hc.2

theorem openings_spans (t : Text) : openings (spans t) t = [] := by
  by_cases h : t.head? = some '\x60'
  · obtain ⟨u, rfl⟩ := List.head?_eq_some_iff.mp h
    exact openingsFrom_spansFrom fun _ _ => rfl
  · have hopenings : openings (spans t) t = openingsFrom (spans t) false 0 t := by
      unfold openings
      split
      · exact absurd rfl h
      · rfl
    rw [hopenings, spans_of_head h]
    exact openingsFrom_spansFrom fun _ _ => rfl

theorem delimited_of_mem_spans {t : Text} {s : Span} (h : s ∈ spans t) :
    t.slice s.start (s.start + 2) = ['$', '\x7b'] ∧
      (s.stop ≠ t.length → t.slice (s.stop - 1) s.stop = ['\x7d']) := by
  by_cases hhead : t.head? = some '\x60'
  · obtain ⟨u, rfl⟩ := List.head?_eq_some_iff.mp hhead
    exact delimited_of_mem_spansFrom (i := 1) rfl h
  · rw [spans_of_head hhead] at h
    exact delimited_of_mem_spansFrom (i := 0) rfl h

theorem pairwise_spans (t : Text) : (spans t).Pairwise fun a b => a.stop ≤ b.start := by
  obtain ⟨i, u, hspans, -⟩ := exists_spans_eq t
  rw [hspans]
  exact pairwise_spansFrom i u

/-- Whatever the text is, each reader that is called within it stops within it and not in front of
its start. The spans that are found lie in the text, one behind the other; each starts with a dollar
sign and a brace, and ends behind a brace or with the text. They are merged as they are, and outside
of them no start of an expression is read. -/
theorem spans_leave_no_opening (t : Text) :
    (∀ (x : Skipped) (i : Nat), i ≤ t.length →
      i ≤ x.position t i ∧ x.position t i ≤ t.length ∧
        x.rest (t.drop i) = t.drop (x.position t i)) ∧
    (∀ s ∈ spans t, 0 ≤ s.start ∧ s.start < s.stop ∧ s.stop ≤ t.length ∧
      t.slice s.start (s.start + 2) = ['$', '\x7b'] ∧
      (s.stop ≠ t.length → t.slice (s.stop - 1) s.stop = ['\x7d'])) ∧
    ((spans t).Pairwise fun a b => a.stop ≤ b.start) ∧
    openings (spans t) t = [] ∧
    Span.merge (spans t) = spans t := by
  refine ⟨fun x i h => x.position_spec h, fun s hs => ?_, pairwise_spans t, openings_spans t,
    excluded_eq_spans t⟩
  have hbounds := bounds_of_mem_spans hs
  exact ⟨hbounds.1, by omega, hbounds.2.2, delimited_of_mem_spans hs⟩

/-- No template: an expression with a string that a line feed ends, one without its brace, with a
template in it that is left open, and a backslash at the end. The template is skipped up to the end
of the text. Without its span the second expression is read as a start. -/
theorem spans_leave_no_opening_of_open :
    let t := text "$$\x7b'a\n\x7d\\$\x7bb $\x7b \x60c \\"
    16 ≤ t.length ∧ 16 ≤ Skipped.template.position t 16 ∧
      Skipped.template.position t 16 ≤ t.length ∧
      spans t = [⟨1, 7⟩, ⟨12, 19⟩] ∧ t.slice 1 (1 + 2) = ['$', '\x7b'] ∧
      (7 : Int) ≠ t.length ∧ t.slice (7 - 1) 7 = ['\x7d'] ∧
      openings (spans t) t = [] ∧ openings [⟨1, 7⟩] t = [12] := by
  intro t
  have hlength : 16 ≤ t.length := by decide
  have hne : (7 : Int) ≠ t.length := by decide
  have hspans : spans t = [⟨1, 7⟩, ⟨12, 19⟩] := by decide +kernel
  obtain ⟨hreaders, hbounds, -, hopenings, -⟩ := spans_leave_no_opening t
  obtain ⟨hle, hstop, -⟩ := hreaders .template 16 hlength
  obtain ⟨-, -, -, hopening, hclosing⟩ := hbounds ⟨1, 7⟩ (hspans ▸ List.mem_cons_self)
  exact ⟨hlength, hle, hstop, hspans, hopening, hne, hclosing hne, hopenings, by decide⟩

end Interpolation

end SmartQuotes
