import SmartQuotes.Proofs.Quote.Rewrite

/-!
# What the reader of embedded expressions takes

Each reader takes a stretch from the front of a text, and this stretch settles by itself where it
ends: unless the text ends with it, the reader takes the same stretch whatever follows (`Takes`).
Hence an embedded expression is found again in any text that holds it at a place where the reader
looks for one. The spans that are found follow one another in the text, so that they are excluded as
they are found (`excluded_eq_spans`).
-/

namespace SmartQuotes

namespace Interpolation

/-! ## Steps of the readers -/

section

variable {c : Char} {depth : Nat} {t : Text}

@[simp] theorem val_afterExpression_nil : (afterExpression depth []).val = [] := by
  rw [afterExpression]

theorem val_afterExpression_quote (hc : IsStraight c) :
    (afterExpression depth (c :: t)).val = (afterExpression depth (afterString c t)).val := by
  rcases hc with rfl | rfl
  · rw [singleQuote, afterExpression]
  · rw [doubleQuote, afterExpression]

@[simp] theorem val_afterExpression_backquote :
    (afterExpression depth ('\x60' :: t)).val =
      (afterExpression depth (afterTemplate t).val).val := by
  rw [afterExpression]

@[simp] theorem val_afterExpression_line :
    (afterExpression depth ('/' :: '/' :: t)).val = (afterExpression depth (afterLine t)).val := by
  rw [afterExpression]

@[simp] theorem val_afterExpression_block :
    (afterExpression depth ('/' :: '*' :: t)).val = (afterExpression depth (afterBlock t)).val := by
  rw [afterExpression]

@[simp] theorem val_afterExpression_opening :
    (afterExpression depth ('\x7b' :: t)).val = (afterExpression (depth + 1) t).val := by
  rw [afterExpression]

@[simp] theorem val_afterExpression_last : (afterExpression 0 ('\x7d' :: t)).val = t := by
  rw [afterExpression]

@[simp] theorem val_afterExpression_closing :
    (afterExpression (depth + 1) ('\x7d' :: t)).val = (afterExpression depth t).val := by
  rw [afterExpression]

/-- Behind a slash that starts no comment there is neither a slash nor a star. -/
theorem head?_ne_of_slash (hline : ∀ u, c = '/' → t = '/' :: u → False)
    (hblock : ∀ u, c = '/' → t = '*' :: u → False) (hc : c = '/') :
    t.head? ≠ some '/' ∧ t.head? ≠ some '*' := by
  rw [Ne, List.head?_eq_some_iff, Ne, List.head?_eq_some_iff]
  exact ⟨fun ⟨u, hu⟩ => hline u hc hu, fun ⟨u, hu⟩ => hblock u hc hu⟩

theorem val_afterExpression_other (hquote : ¬ IsStraight c) (hback : c ≠ '\x60')
    (hopening : c ≠ '\x7b') (hclosing : c ≠ '\x7d')
    (hslash : c = '/' → t.head? ≠ some '/' ∧ t.head? ≠ some '*') :
    (afterExpression depth (c :: t)).val = (afterExpression depth t).val := by
  rw [afterExpression]
  · exact fun h => hquote (.inl h)
  · exact fun h => hquote (.inr h)
  · exact hback
  · rintro u h rfl
    exact (hslash h).1 rfl
  · rintro u h rfl
    exact (hslash h).2 rfl
  · exact hopening
  · exact hclosing

@[simp] theorem val_afterTemplate_nil : (afterTemplate []).val = [] := by rw [afterTemplate]

@[simp] theorem val_afterTemplate_escape :
    (afterTemplate ('\\' :: c :: t)).val = (afterTemplate t).val := by rw [afterTemplate]

@[simp] theorem val_afterTemplate_backquote : (afterTemplate ('\x60' :: t)).val = t := by
  rw [afterTemplate]

@[simp] theorem val_afterTemplate_opening :
    (afterTemplate ('$' :: '\x7b' :: t)).val = (afterTemplate (afterExpression 0 t).val).val := by
  rw [afterTemplate]

theorem val_afterTemplate_other (hescape : c = '\\' → t = []) (hback : c ≠ '\x60')
    (hdollar : c = '$' → t.head? ≠ some '\x7b') :
    (afterTemplate (c :: t)).val = (afterTemplate t).val := by
  rw [afterTemplate]
  · rintro a u h rfl
    cases hescape h
  · exact hback
  · rintro u h rfl
    exact hdollar h rfl

end

/-! ## Stretches that settle where they end -/

/-- The reader takes a stretch from the front of the text, which is empty only if the text is. If
something is left, the same stretch is taken from any text that starts with it. -/
def Takes (read : Text → Text) (t : Text) : Prop :=
  ∃ front, t = front ++ read t ∧ (t ≠ [] → front ≠ []) ∧
    (read t ≠ [] → ∀ rest, read (front ++ rest) = rest)

namespace Takes

variable {read next : Text → Text} {t : Text}

theorem nil (h : read [] = []) : Takes read [] :=
  ⟨[], h.symm, id, fun hne => absurd h hne⟩

theorem exactly (lead : Text) (hlead : lead ≠ []) (h : ∀ u, read (lead ++ u) = u) :
    Takes read (lead ++ t) :=
  ⟨lead, by rw [h], fun _ => hlead, fun _ => h⟩

/-- A reader that goes on with another one behind a first stretch. It may look at the character
behind this stretch. -/
theorem append (lead : Text) (hlead : lead ≠ [])
    (hread : ∀ u, u.head? = t.head? → read (lead ++ u) = next u) (h : Takes next t) :
    Takes read (lead ++ t) := by
  obtain ⟨front, ht, hne, hfront⟩ := h
  refine ⟨lead ++ front, ?_, fun _ => List.append_ne_nil_of_left_ne_nil hlead _, ?_⟩
  · rw [hread t rfl, List.append_assoc, ← ht]
  · rw [hread t rfl]
    intro hleft rest
    have htne : t ≠ [] := by
      rintro rfl
      exact hleft (List.append_eq_nil_iff.mp ht.symm).2
    have hhead : (front ++ rest).head? = t.head? := by
      rw [ht, List.head?_append_of_ne_nil _ (hne htne), List.head?_append_of_ne_nil _ (hne htne)]
    rw [List.append_assoc, hread _ hhead, hfront hleft]

/-- One reader behind another. -/
theorem comp (h : Takes read t) (h' : Takes next (read t)) : Takes (fun u => next (read u)) t := by
  obtain ⟨a, ha, hane, hread⟩ := h
  obtain ⟨b, hb, -, hnext⟩ := h'
  refine ⟨a ++ b, ?_, fun ht => List.append_ne_nil_of_left_ne_nil (hane ht) _, ?_⟩
  · rw [List.append_assoc, ← hb, ← ha]
  · dsimp only
    intro hleft rest
    have hne : read t ≠ [] := by
      intro hnil
      rw [hnil] at hb hleft
      exact hleft (List.append_eq_nil_iff.mp hb.symm).2
    rw [List.append_assoc, hread hne, hnext hleft]

end Takes

theorem takes_afterLine (t : Text) : Takes afterLine t := by
  fun_induction afterLine t with
  | case1 => exact .nil rfl
  | case2 t => exact .exactly ['\n'] (List.cons_ne_nil _ _) fun u => rfl
  | case3 c t hc ih =>
    exact .append [c] (List.cons_ne_nil _ _) (fun u _ => by simp [afterLine, hc]) ih

theorem takes_afterBlock (t : Text) : Takes afterBlock t := by
  fun_induction afterBlock t with
  | case1 => exact .nil rfl
  | case2 t => exact .exactly ['*', '/'] (List.cons_ne_nil _ _) fun u => rfl
  | case3 c t hend ih =>
    refine .append [c] (List.cons_ne_nil _ _) (fun u hu => ?_) ih
    rw [List.singleton_append, afterBlock]
    rintro v rfl rfl
    obtain ⟨w, rfl⟩ := List.head?_eq_some_iff.mp hu.symm
    exact hend w rfl rfl

theorem takes_afterString {q : Char} (hq : q ≠ '\\') (t : Text) : Takes (afterString q) t := by
  fun_induction afterString q t with
  | case1 => exact .nil rfl
  | case2 c t ih => exact .append ['\\', c] (List.cons_ne_nil _ _) (fun u _ => rfl) ih
  | case3 c t hescape hend =>
    refine .exactly [c] (List.cons_ne_nil _ _) fun u => ?_
    have hc : c ≠ '\\' := by
      rintro rfl
      simp [hq.symm] at hend
    rw [List.singleton_append, afterString, if_pos hend]
    exact fun _ _ h => absurd h hc
  | case4 c t hescape hend ih =>
    refine .append [c] (List.cons_ne_nil _ _) (fun u hu => ?_) ih
    rw [List.singleton_append, afterString, if_neg hend]
    rintro a v h rfl
    obtain ⟨w, rfl⟩ := List.head?_eq_some_iff.mp hu.symm
    exact hescape a w h rfl

/-- What is read of an expression, and what of a template, settles where it ends. -/
theorem takes_after :
    (∀ depth t, Takes (fun u => (afterExpression depth u).val) t) ∧
      ∀ t, Takes (fun u => (afterTemplate u).val) t := by
  -- along the two readings at once, since each of them calls the other one
  refine afterExpression.mutual_induct
    (fun depth t => Takes (fun u => (afterExpression depth u).val) t)
    (fun t => Takes (fun u => (afterTemplate u).val) t)
    ?nil ?single ?double ?template ?line ?block ?opening ?last ?closing ?other
    ?templateNil ?escape ?backquote ?segment ?templateOther
  case nil => exact fun depth => .nil val_afterExpression_nil
  case single =>
    intro depth t _ _ _ _ ih
    exact .append ['\x27'] (List.cons_ne_nil _ _)
      (fun u _ => val_afterExpression_quote (.inl rfl)) ((takes_afterString (by decide) t).comp ih)
  case double =>
    intro depth t _ _ _ _ ih
    exact .append ['\x22'] (List.cons_ne_nil _ _)
      (fun u _ => val_afterExpression_quote (.inr rfl)) ((takes_afterString (by decide) t).comp ih)
  case template =>
    intro depth t inner _ hinner _ _ _ ihTemplate ih
    have hval : inner = (afterTemplate t).val := by rw [hinner]
    rw [hval] at ih
    exact .append ['\x60'] (List.cons_ne_nil _ _)
      (fun u _ => val_afterExpression_backquote) (ihTemplate.comp ih)
  case line =>
    intro depth t _ _ _ _ ih
    exact .append ['/', '/'] (List.cons_ne_nil _ _)
      (fun u _ => val_afterExpression_line) ((takes_afterLine t).comp ih)
  case block =>
    intro depth t _ _ _ _ ih
    exact .append ['/', '*'] (List.cons_ne_nil _ _)
      (fun u _ => val_afterExpression_block) ((takes_afterBlock t).comp ih)
  case opening =>
    intro depth t _ _ _ ih
    exact .append ['\x7b'] (List.cons_ne_nil _ _)
      (fun u _ => val_afterExpression_opening) ih
  case last =>
    intro t
    exact .exactly ['\x7d'] (List.cons_ne_nil _ _) fun u => val_afterExpression_last
  case closing =>
    intro t depth _ _ _ ih
    exact .append ['\x7d'] (List.cons_ne_nil _ _)
      (fun u _ => val_afterExpression_closing) ih
  case other =>
    intro depth c t hsingle hdouble hback hline hblock hopening hclosing _ _ _ ih
    refine .append [c] (List.cons_ne_nil _ _) (fun u hu => ?_) ih
    have hslash : c = '/' → u.head? ≠ some '/' ∧ u.head? ≠ some '*' := by
      rw [hu]
      exact head?_ne_of_slash hline hblock
    exact val_afterExpression_other (fun h => h.elim hsingle hdouble) hback hopening hclosing hslash
  case templateNil => exact .nil val_afterTemplate_nil
  case escape =>
    intro c t _ _ _ ih
    exact .append ['\\', c] (List.cons_ne_nil _ _)
      (fun u _ => val_afterTemplate_escape) ih
  case backquote =>
    intro t
    exact .exactly ['\x60'] (List.cons_ne_nil _ _) fun u => val_afterTemplate_backquote
  case segment =>
    intro t inner _ hinner _ _ _ ihExpression ih
    have hval : inner = (afterExpression 0 t).val := by rw [hinner]
    rw [hval] at ih
    exact .append ['$', '\x7b'] (List.cons_ne_nil _ _)
      (fun u _ => val_afterTemplate_opening) (ihExpression.comp ih)
  case templateOther =>
    intro c t hescape hback hdollar _ _ _ ih
    refine .append [c] (List.cons_ne_nil _ _) (fun u hu => ?_) ih
    have hend : c = '\\' → u = [] := by
      intro hc
      cases t with
      | nil => exact List.head?_eq_none_iff.mp hu
      | cons a t => exact absurd rfl (hescape a t hc)
    have hbrace : c = '$' → u.head? ≠ some '\x7b' := by
      intro hc
      rw [hu, Ne, List.head?_eq_some_iff]
      exact fun ⟨v, hv⟩ => hdollar v hc hv
    exact val_afterTemplate_other hend hback hbrace

/-- An expression behind which something is left is read in the same way whatever this is. -/
theorem val_afterExpression_append {front rest : Text}
    (h : (afterExpression 0 (front ++ rest)).val = rest) (hne : rest ≠ []) (u : Text) :
    (afterExpression 0 (front ++ u)).val = u := by
  obtain ⟨taken, htaken, -, hsettles⟩ := takes_after.1 0 (front ++ rest)
  dsimp only at htaken hsettles
  rw [h] at htaken hsettles
  rw [List.append_cancel_right htaken]
  exact hsettles hne u

/-! ## The spans that are found -/

section

variable {c : Char} {i : Nat} {t front rest : Text}

@[simp] theorem spansFrom_nil : spansFrom i [] = [] := by rw [spansFrom]

@[simp] theorem spansFrom_escape : spansFrom i ('\\' :: c :: t) = spansFrom (i + 2) t := by
  rw [spansFrom]

theorem spansFrom_opening (h : (afterExpression 0 (front ++ rest)).val = rest) :
    spansFrom i ('$' :: '\x7b' :: (front ++ rest)) =
      ⟨i, (i + 2 + front.length : Nat)⟩ :: spansFrom (i + 2 + front.length) rest := by
  rw [spansFrom]
  generalize afterExpression 0 (front ++ rest) = found at h
  obtain ⟨r, hr⟩ := found
  obtain rfl : r = rest := h
  simp only [List.length_append, Nat.add_sub_cancel]

theorem spansFrom_other (hescape : c = '\\' → t = []) (hdollar : c = '$' → t.head? ≠ some '\x7b') :
    spansFrom i (c :: t) = spansFrom (i + 1) t := by
  rw [spansFrom]
  · rintro a u h rfl
    cases hescape h
  · rintro u h rfl
    exact hdollar h rfl

/-- Induction along the reading of a text: escaped characters, embedded expressions up to where
their reader has come, and other characters. -/
@[elab_as_elim]
theorem reading_induction {motive : Nat → Text → Prop} (nil : ∀ i, motive i [])
    (escape : ∀ i c t, motive (i + 2) t → motive i ('\\' :: c :: t))
    (segment : ∀ i front rest, (afterExpression 0 (front ++ rest)).val = rest →
      motive (i + 2 + front.length) rest → motive i ('$' :: '\x7b' :: (front ++ rest)))
    (other : ∀ i c t, (c = '\\' → t = []) → (c = '$' → t.head? ≠ some '\x7b') →
      motive (i + 1) t → motive i (c :: t)) (i : Nat) (t : Text) : motive i t := by
  fun_induction spansFrom i t with
  | case1 i => exact nil i
  | case2 i c t ih => exact escape i c t ih
  | case3 i t rest hle hrest stop ih =>
    obtain ⟨front, ht, -, -⟩ := takes_after.1 0 t
    dsimp only at ht
    have hval : (afterExpression 0 t).val = rest := by rw [hrest]
    have hstop : stop = i + 2 + front.length := by
      have hlength := congrArg List.length ht
      rw [hval, List.length_append] at hlength
      simp only [stop]
      omega
    rw [hval] at ht
    subst ht
    rw [hstop] at ih
    exact segment i front rest hval ih
  | case4 i c t hescape hdollar ih =>
    refine other i c t (fun hc => ?_) (fun hc => ?_) ih
    · cases t with
      | nil => rfl
      | cons a t => exact absurd rfl (hescape a t hc)
    · rw [Ne, List.head?_eq_some_iff]
      exact fun ⟨u, hu⟩ => hdollar u hc hu

/-- A span that is found lies in the text that is read; it is that of a dollar sign, a brace and an
expression. -/
theorem bounds_of_mem_spansFrom {s : Span} (h : s ∈ spansFrom i t) :
    (i : Int) ≤ s.start ∧ s.start + 2 ≤ s.stop ∧ s.stop ≤ (i + t.length : Nat) := by
  induction i, t using reading_induction with
  | nil i => cases spansFrom_nil ▸ h
  | escape i c t ih =>
    rw [spansFrom_escape] at h
    have := ih h
    simp only [List.length_cons]
    omega
  | segment i front rest hrest ih =>
    rw [spansFrom_opening hrest] at h
    simp only [List.length_cons, List.length_append]
    rcases List.mem_cons.mp h with rfl | h
    · simp only
      omega
    · have := ih h
      omega
  | other i c t hescape hdollar ih =>
    rw [spansFrom_other hescape hdollar] at h
    have := ih h
    simp only [List.length_cons]
    omega

/-- The spans that are found follow one another. -/
theorem pairwise_spansFrom (i : Nat) (t : Text) :
    (spansFrom i t).Pairwise fun a b => a.stop ≤ b.start := by
  induction i, t using reading_induction with
  | nil i =>
    rw [spansFrom_nil]
    exact .nil
  | escape i c t ih =>
    rw [spansFrom_escape]
    exact ih
  | segment i front rest hrest ih =>
    rw [spansFrom_opening hrest]
    exact List.pairwise_cons.mpr ⟨fun s hs => (bounds_of_mem_spansFrom hs).1, ih⟩
  | other i c t hescape hdollar ih =>
    rw [spansFrom_other hescape hdollar]
    exact ih

end

theorem spans_backquote (t : Text) : spans ('\x60' :: t) = spansFrom 1 t := rfl

theorem spans_of_head {t : Text} (h : t.head? ≠ some '\x60') : spans t = spansFrom 0 t := by
  unfold spans
  split
  · exact absurd rfl h
  · rfl

/-- A text is read from its start on or from behind its opening backquote. -/
theorem exists_spans_eq (t : Text) : ∃ i u, spans t = spansFrom i u ∧ i + u.length = t.length := by
  by_cases h : t.head? = some '\x60'
  · obtain ⟨u, rfl⟩ := List.head?_eq_some_iff.mp h
    exact ⟨1, u, spans_backquote u, Nat.add_comm _ _⟩
  · exact ⟨0, t, spans_of_head h, Nat.zero_add _⟩

theorem bounds_of_mem_spans {t : Text} {s : Span} (h : s ∈ spans t) :
    0 ≤ s.start ∧ s.start + 2 ≤ s.stop ∧ s.stop ≤ t.length := by
  obtain ⟨i, u, hspans, hlength⟩ := exists_spans_eq t
  rw [hspans] at h
  have := bounds_of_mem_spansFrom h
  omega

/-- The spans that are found are excluded as they are. -/
theorem excluded_eq_spans (t : Text) : excluded t .templateLiteral none = spans t := by
  refine Span.merge_eq_self (fun s hs => ?_) ?_
  · have := bounds_of_mem_spans hs
    omega
  · obtain ⟨i, u, hspans, -⟩ := exists_spans_eq t
    rw [Option.getD_none, hspans]
    exact pairwise_spansFrom i u

end Interpolation

end SmartQuotes
