import SmartQuotes.Proofs.Quote.ByPosition
import SmartQuotes.Proofs.Quote.Interpolation
import SmartQuotes.Proofs.Quote.Narrow

/-!
# Reading a correction again

A corrected text is read anew: its embedded expressions are looked for again. With marks that are
not empty and hold nothing that the reader of expressions stops at, it takes for every position of
the text what has been put in its place in one go, so that it finds the expressions where they have
been moved to (`excluded_convert`). What is in scope of the converted text is a mark or was in scope
before (`mem_inScope_convert`). Hence a correction leaves nothing to report and is its own
correction.
-/

namespace SmartQuotes

namespace Span

/-- The second span lies in the second text, is as long as the first one and holds what the first
one holds in the first text. -/
def Copies (t : Text) (s : Span) (u : Text) (s' : Span) : Prop :=
  s'.IsWithin u ∧ s'.stop - s'.start = s.stop - s.start ∧
    u.slice s'.start s'.stop = t.slice s.start s.stop

instance (t : Text) (s : Span) (u : Text) (s' : Span) : Decidable (Copies t s u s') :=
  inferInstanceAs (Decidable (s'.IsWithin u ∧ s'.stop - s'.start = s.stop - s.start ∧
    u.slice s'.start s'.stop = t.slice s.start s.stop))

theorem Copies.trans {t u v : Text} {s s' s'' : Span} (h : Copies t s u s')
    (h' : Copies u s' v s'') : Copies t s v s'' :=
  ⟨h'.1, h'.2.1.trans h.2.1, h'.2.2.trans h.2.2⟩

end Span

namespace Family

/-- The quote is one of the straight ones; no mark is empty or holds a backslash, a dollar sign or
an opening brace. -/
structure Inert (f : Family) (q : Char) : Prop where
  quote_eq : f.quote = [q]
  isStraight : IsStraight q
  ne_nil : ∀ mark ∈ [f.opening, f.closing], mark ≠ []
  inert : ∀ mark ∈ [f.opening, f.closing], ∀ c ∈ mark, c ≠ '\\' ∧ c ≠ '$' ∧ c ≠ '\x7b'

variable {f : Family} {q : Char} {t : Text} {trim : Int} {excluded : List Span} {k : Nat}

/-! ## What is put in the place of one position -/

theorem kth_mem (f : Family) (n : Nat) : f.kth n ∈ [f.opening, f.closing] := by
  rw [kth]
  split <;> simp

theorem output_mem_of_convertsAt (h : f.convertsAt t trim excluded k = true) :
    f.output t trim excluded k ∈ [f.opening, f.closing] := by
  rw [output, if_pos h]
  exact f.kth_mem _

theorem output_eq_of_not_convertsAt (hk : k < t.length)
    (h : f.convertsAt t trim excluded k = false) : f.output t trim excluded k = [t[k]] := by
  rw [output, if_neg (by simp [h]), List.getElem?_eq_getElem hk, Option.toList_some]

/-- What a text becomes from position `k` on. -/
def curlFrom (f : Family) (t : Text) (trim : Int) (excluded : List Span) (k : Nat) : Text :=
  (f.curl true (t.scope trim excluded)).drop (f.place (t.scope trim excluded) k)

@[simp] theorem curlFrom_zero (f : Family) (t : Text) (trim : Int) (excluded : List Span) :
    f.curlFrom t trim excluded 0 = f.curl true (t.scope trim excluded) := rfl

theorem curlFrom_of_length_le (f : Family) (trim : Int) (excluded : List Span)
    (hk : t.length ≤ k) : f.curlFrom t trim excluded k = [] := by
  rw [curlFrom, place, List.take_of_length_le (by rwa [Text.length_scope]), List.drop_length]

section

variable (h : Span.Ascending excluded)

include h

theorem place_succ (f : Family) (trim : Int) (hk : k < t.length) :
    f.place (t.scope trim excluded) (k + 1) =
      f.place (t.scope trim excluded) k + (f.output t trim excluded k).length := by
  rw [place, curl_take_succ h hk, List.length_append, ← place]

theorem curlFrom_eq_append (f : Family) (trim : Int) (hk : k < t.length) :
    f.curlFrom t trim excluded k =
      f.output t trim excluded k ++ f.curlFrom t trim excluded (k + 1) := by
  have hcut : ∀ n, f.curl true (t.scope trim excluded) =
      f.curl true ((t.scope trim excluded).take n) ++
        f.curl (f.turn true ((t.scope trim excluded).take n)) ((t.scope trim excluded).drop n) := by
    intro n
    rw [← curl_append, List.take_append_drop]
  have hsucc : ∀ u, (f.curl true ((t.scope trim excluded).take (k + 1)) ++ u).drop
      (f.place (t.scope trim excluded) k) = f.output t trim excluded k ++ u := by
    intro u
    rw [curl_take_succ h hk, List.append_assoc, place, List.drop_left]
  rw [curlFrom, curlFrom, hcut (k + 1), hsucc, place, List.drop_left]

/-- A span is moved to the places of its bounds and copied in one piece. -/
theorem curlFrom_of_mem (f : Family) (trim : Int) {a b : Nat}
    (hmem : (⟨a, b⟩ : Span) ∈ excluded) (hab : a ≤ b) (hb : b ≤ t.length) :
    f.moved (t.scope trim excluded) ⟨a, b⟩ =
        ⟨f.place (t.scope trim excluded) a, f.place (t.scope trim excluded) b⟩ ∧
      f.place (t.scope trim excluded) b = f.place (t.scope trim excluded) a + (b - a) ∧
      f.curlFrom t trim excluded a = t.extract a b ++ f.curlFrom t trim excluded b := by
  have hnone : ∀ (k : Nat) (hk : k < (t.scope trim excluded).length),
      Span.covered excluded k = true → f.converts (t.scope trim excluded)[k] = false :=
    fun k hk => not_converts_of_covered h hk
  have hb' : b ≤ (t.scope trim excluded).length := by rwa [Text.length_scope]
  have hmoved := moved_eq_place hnone hmem hab hb'
  have hcopy := extract_curl hnone hmem hab
  rw [Text.map_snd_scope] at hcopy
  refine ⟨hmoved, ?_, ?_⟩
  · simp only [moved, Span.mk.injEq] at hmoved
    omega
  · rw [curlFrom, curlFrom, ← hcopy, ← Text.slice_natCast,
      Text.slice_append_drop (f.place_mono hab hb')]

end

end Family

/-! ## The expressions of a converted text -/

namespace Interpolation

theorem exists_of_drop_eq_cons {t u : Text} {c : Char} {k : Nat} (h : t.drop k = c :: u) :
    ∃ hk : k < t.length, t[k] = c ∧ t.drop (k + 1) = u := by
  have hk : k < t.length := by
    rw [← Nat.not_le, ← List.drop_eq_nil_iff, h]
    exact List.cons_ne_nil _ _
  rw [List.drop_eq_getElem_cons hk, List.cons.injEq] at h
  exact ⟨hk, h⟩

theorem spansFrom_append {w : Text} (hw : ∀ c ∈ w, c ≠ '\\' ∧ c ≠ '$' ∧ c ≠ '\x7b') (i : Nat)
    (t : Text) : spansFrom i (w ++ t) = spansFrom (i + w.length) t := by
  induction w generalizing i with
  | nil => rfl
  | cons c w ih =>
    obtain ⟨hc, hw⟩ := List.forall_mem_cons.mp hw
    rw [List.cons_append, spansFrom_other (fun h => absurd h hc.1) (fun h => absurd h hc.2.1),
      ih hw, List.length_cons, Nat.add_right_comm, Nat.add_assoc]

end Interpolation

namespace Family

open Interpolation

variable {f : Family} {q : Char} {t : Text} {trim : Int} {excluded : List Span} {k : Nat}

theorem Inert.not_convertsAt_of_ne (hf : f.Inert q) (hk : k < t.length)
    (hne : ¬ IsStraight t[k]) : f.convertsAt t trim excluded k = false := by
  have hq : t[k] ≠ q := fun heq => hne (heq ▸ hf.isStraight)
  simp [convertsAt, hf.quote_eq, hk, hq]

/-- An opening brace stands at the front of what a text becomes only where one has stood. -/
theorem Inert.head?_curlFrom (hf : f.Inert q) (h : Span.Ascending excluded)
    (hbrace : (f.curlFrom t trim excluded k).head? = some '\x7b') :
    (t.drop k).head? = some '\x7b' := by
  rcases Nat.lt_or_ge k t.length with hk | hk
  · rw [curlFrom_eq_append h f trim hk] at hbrace
    cases hat : f.convertsAt t trim excluded k with
    | true =>
      have hmem := output_mem_of_convertsAt hat
      rw [List.head?_append_of_ne_nil _ (hf.ne_nil _ hmem)] at hbrace
      exact absurd rfl (hf.inert _ hmem _ (List.mem_of_head? hbrace)).2.2
    | false =>
      rw [output_eq_of_not_convertsAt hk hat] at hbrace
      rw [List.drop_eq_getElem_cons hk]
      exact hbrace
  · rw [curlFrom_of_length_le f trim excluded hk] at hbrace
    cases hbrace

/-- One character at least is put in the place of a position, and the reader steps over all further
ones. -/
theorem Inert.exists_output_eq (hf : f.Inert q) (trim : Int) (excluded : List Span)
    (hk : k < t.length) :
    ∃ a w, f.output t trim excluded k = a :: w ∧ ∀ c ∈ w, c ≠ '\\' ∧ c ≠ '$' ∧ c ≠ '\x7b' := by
  cases hat : f.convertsAt t trim excluded k with
  | true =>
    have hmem := output_mem_of_convertsAt hat
    obtain ⟨a, w, hw⟩ := List.exists_cons_of_ne_nil (hf.ne_nil _ hmem)
    exact ⟨a, w, hw, fun c hc => hf.inert _ hmem c (hw ▸ List.mem_cons_of_mem a hc)⟩
  | false => exact ⟨t[k], [], output_eq_of_not_convertsAt hk hat, nofun⟩

/-- The reader takes for the positions of the text what has been put in their places: it finds the
same expressions, at their places. -/
theorem Inert.spansFrom_curlFrom (hf : f.Inert q) (trim : Int) (h : Span.Ascending excluded)
    (hsub : ∀ s ∈ spansFrom k (t.drop k), s ∈ excluded) :
    spansFrom (f.place (t.scope trim excluded) k) (f.curlFrom t trim excluded k) =
      (spansFrom k (t.drop k)).map (f.moved (t.scope trim excluded)) := by
  generalize hu : t.drop k = u at hsub
  induction k, u using reading_induction with
  | nil i =>
    rw [curlFrom_of_length_le f trim excluded (List.drop_eq_nil_iff.mp hu), spansFrom_nil,
      spansFrom_nil, List.map_nil]
  | escape i c u ih =>
    rw [spansFrom_escape] at hsub ⊢
    obtain ⟨hi, hescape, hu⟩ := exists_of_drop_eq_cons hu
    obtain ⟨hi', -, hu⟩ := exists_of_drop_eq_cons hu
    have houtput : f.output t trim excluded i = [t[i]] :=
      output_eq_of_not_convertsAt hi (hf.not_convertsAt_of_ne hi (hescape ▸ by decide))
    -- the character that is escaped may be a quote; then the first one of its mark is escaped
    obtain ⟨a, w, hw, hinert⟩ := hf.exists_output_eq trim excluded hi'
    have hplace : f.place (t.scope trim excluded) (i + 2) =
        f.place (t.scope trim excluded) i + 2 + w.length := by
      rw [place_succ h f trim hi', place_succ h f trim hi, hw, houtput, List.length_singleton,
        List.length_cons]
      omega
    rw [curlFrom_eq_append h f trim hi, curlFrom_eq_append h f trim hi', hw, houtput, hescape,
      List.singleton_append, List.cons_append, spansFrom_escape, spansFrom_append hinert, ← hplace,
      ih hu hsub]
  | segment i front rest hrest ih =>
    rw [spansFrom_opening hrest] at hsub ⊢
    obtain ⟨hmem, hsub⟩ := List.forall_mem_cons.mp hsub
    have hstop : i + 2 + front.length = i + ('$' :: '\x7b' :: front).length := by
      rw [List.length_cons, List.length_cons]
      omega
    obtain ⟨hlength, htake, hdrop⟩ := Text.extract_of_drop_eq_append
      (a := '$' :: '\x7b' :: front) (b := rest) hu (List.cons_ne_nil _ _)
    rw [← hstop] at hlength htake hdrop
    obtain ⟨hmoved, hplace, hcopy⟩ := curlFrom_of_mem h f trim hmem (by omega) hlength
    -- behind an expression that ends with the text nothing is left
    have hread : (afterExpression 0 (front ++
        f.curlFrom t trim excluded (i + 2 + front.length))).val =
          f.curlFrom t trim excluded (i + 2 + front.length) := by
      by_cases hnil : rest = []
      · rw [curlFrom_of_length_le f trim excluded (List.drop_eq_nil_iff.mp (hdrop.trans hnil))]
        rwa [hnil] at hrest
      · exact val_afterExpression_append hrest hnil _
    have hplace' : f.place (t.scope trim excluded) i + 2 + front.length =
        f.place (t.scope trim excluded) (i + 2 + front.length) := by omega
    rw [hcopy, htake, List.cons_append, List.cons_append, spansFrom_opening hread, hplace',
      ih hdrop hsub, List.map_cons, hmoved]
  | other i c u hescape hdollar ih =>
    rw [spansFrom_other hescape hdollar] at hsub ⊢
    obtain ⟨hi, hc, hu⟩ := exists_of_drop_eq_cons hu
    have next := ih hu hsub
    rw [place_succ h f trim hi] at next
    rw [curlFrom_eq_append h f trim hi]
    cases hat : f.convertsAt t trim excluded i with
    | true => rw [spansFrom_append (hf.inert _ (output_mem_of_convertsAt hat)), next]
    | false =>
      rw [output_eq_of_not_convertsAt hi hat, List.length_singleton] at next
      have hescape' : c = '\\' → f.curlFrom t trim excluded (i + 1) = [] := fun hc =>
        curlFrom_of_length_le f trim excluded (List.drop_eq_nil_iff.mp (hu.trans (hescape hc)))
      have hdollar' : c = '$' → (f.curlFrom t trim excluded (i + 1)).head? ≠ some '\x7b' :=
        fun hc hbrace => hdollar hc (hu ▸ hf.head?_curlFrom h hbrace)
      rw [output_eq_of_not_convertsAt hi hat, hc, List.singleton_append,
        spansFrom_other hescape' hdollar', next]

/-- A margin keeps the first character where it is. -/
theorem curlFrom_cons (f : Family) {c : Char} (h : Span.Ascending excluded) (htrim : 0 < trim) :
    f.place (Text.scope (c :: t) trim excluded) 1 = 1 ∧
      f.curlFrom (c :: t) trim excluded 0 = c :: f.curlFrom (c :: t) trim excluded 1 := by
  have hat : f.convertsAt (c :: t) trim excluded 0 = false := by
    rw [convertsAt, Text.inScopeAt, decide_eq_false (by simpa using htrim)]
    simp
  have houtput := output_eq_of_not_convertsAt (Nat.succ_pos t.length) hat
  rw [place_succ h f trim (Nat.succ_pos _), curlFrom_eq_append h f trim (Nat.succ_pos _), houtput]
  exact ⟨rfl, rfl⟩

/-- Whether the opening backquote is there or not, the whole converted text is read as the text. -/
theorem Inert.spans_curlFrom (hf : f.Inert q) (h : Span.Ascending (spans t)) (htrim : 0 < trim) :
    spans (f.curlFrom t trim (spans t) 0) =
      (spans t).map (f.moved (t.scope trim (spans t))) := by
  cases t with
  | nil =>
    have hnil : f.curlFrom [] trim (spans []) 0 = [] :=
      curlFrom_of_length_le f trim _ (Nat.le_refl _)
    have hspans : spans [] = [] := by
      rw [spans_of_head (by simp), spansFrom_nil]
    rw [hnil, hspans, List.map_nil]
  | cons c t =>
    obtain ⟨hplace, hcons⟩ := f.curlFrom_cons (c := c) (t := t) h htrim
    by_cases hback : c = '\x60'
    · subst hback
      have hread := hf.spansFrom_curlFrom (t := '\x60' :: t) (k := 1) trim h
        fun s hs => hs
      rw [hplace, List.drop_one, List.tail_cons] at hread
      rw [hcons, spans_backquote, hread, ← spans_backquote]
    · have hhead : ∀ u : Text, (c :: u).head? ≠ some '\x60' := fun u hu =>
        hback (Option.some.inj hu)
      have hread := hf.spansFrom_curlFrom (t := c :: t) (k := 0) trim h fun s hs => by
        rwa [spans_of_head (hhead t)]
      rw [List.drop_zero, ← spans_of_head (hhead t)] at hread
      rw [← hread, hcons, spans_of_head (hhead _)]
      rfl

theorem ascending_excluded (t : Text) (kind : Kind) :
    Span.Ascending (Interpolation.excluded t kind none) := by
  cases kind with
  | templateLiteral => exact (Span.ordered_merge _).ascending
  | _ => exact List.Pairwise.nil

/-- The expressions of a converted text are those of the text where they have been moved to. -/
theorem Inert.excluded_convert (hf : f.Inert q) (t : Text) (kind : Kind) :
    Interpolation.excluded
        (f.convert t kind.trimWidth (Interpolation.excluded t kind none)) kind none =
      f.shift t kind.trimWidth (Interpolation.excluded t kind none) := by
  have h := ascending_excluded t kind
  rw [shift_eq_map hf.quote_eq h, convert_eq_curl hf.quote_eq, ← curlFrom_zero]
  cases kind with
  | templateLiteral =>
    rw [excluded_eq_spans] at h ⊢
    rw [excluded_eq_spans]
    exact hf.spans_curlFrom h Int.one_pos
  | _ => rfl

/-- A conversion copies the excluded spans to where it moves them. -/
theorem copies_moved (hq : f.quote = [q]) (trim : Int) (h : Span.Ascending excluded) {s : Span}
    (hmem : s ∈ excluded) (hs : s.IsWithin t) :
    Span.Copies t s (f.convert t trim excluded) (f.moved (t.scope trim excluded) s) := by
  have hs' : s.IsWithin ((t.scope trim excluded).map (·.2)) := by rwa [Text.map_snd_scope]
  obtain ⟨hwithin, hslice⟩ :=
    slice_moved (f := f) (fun k hk => not_converts_of_covered h hk) hmem hs'
  rw [Text.map_snd_scope] at hslice
  rw [convert_eq_curl hq]
  refine ⟨hwithin, ?_, hslice⟩
  simp only [moved]
  omega

/-! ## What is in scope of a converted text -/

theorem exists_place_le (l : List (Bool × Char)) {n p : Nat} (hp : p < f.place l n) :
    ∃ k < n, f.place l k ≤ p ∧ p < f.place l (k + 1) := by
  induction n with
  | zero => cases hp
  | succ n ih =>
    by_cases hlt : p < f.place l n
    · obtain ⟨k, hk, hplaces⟩ := ih hlt
      exact ⟨k, Nat.lt_succ_of_lt hk, hplaces⟩
    · exact ⟨n, Nat.lt_succ_self n, Nat.le_of_not_lt hlt, hp⟩

theorem not_convertsAt_of_not_inScopeAt
    (h : Text.inScopeAt t.length trim excluded k = false) :
    f.convertsAt t trim excluded k = false := by
  rw [convertsAt, h, Bool.false_and]

/-- A character that is copied is in scope of the converted text if it has been in scope before. -/
theorem inScopeAt_of_place (h : Span.Ascending excluded) (w : Nat) (hk : k < t.length)
    (hat : f.convertsAt t w excluded k = false) :
    Text.inScopeAt (f.curl true (t.scope w excluded)).length w
        (excluded.map (f.moved (t.scope w excluded))) (f.place (t.scope w excluded) k) =
      Text.inScopeAt t.length w excluded k := by
  have hk' : k < (t.scope w excluded).length := by rwa [Text.length_scope]
  have hkeep : f.converts (t.scope w excluded)[k] = false := by rwa [converts_getElem_scope h]
  have hmargin : ∀ (j : Nat) (hj : j < (t.scope w excluded).length),
      j < w ∨ (t.scope w excluded).length ≤ j + w →
        f.converts (t.scope w excluded)[j] = false := by
    intro j hj hout
    rw [converts_getElem_scope h]
    refine not_convertsAt_of_not_inScopeAt ?_
    rw [Text.length_scope] at hout
    simp only [Text.inScopeAt, Bool.and_eq_false_iff, decide_eq_false_iff_not]
    omega
  have hplace := place_succ_of_not_converts hk' hkeep
  have hcovered := covered_map_moved (fun j hj => not_converts_of_covered (f := f) h hj) hk'
    (Nat.le_refl _) (hplace ▸ Nat.lt_succ_self _)
  have hlow := le_place_iff (f := f) (w := w) hk' fun j hj hjw => hmargin j hj (.inl hjw)
  have hhigh := place_add_lt_iff (f := f) (w := w) hk' hkeep
    fun j hj hjw => hmargin j hj (.inr hjw)
  rw [Text.length_scope] at hhigh
  rw [Text.inScopeAt, Text.inScopeAt, hcovered]
  congr 1
  · congr 1
    rw [decide_eq_decide]
    omega
  · rw [decide_eq_decide]
    omega

/-- What is in scope of a converted text is a mark, or it has been in scope before and is not a
quote. -/
theorem mem_inScope_convert (hq : f.quote = [q]) (h : Span.Ascending excluded) (w : Nat) {c : Char}
    (hc : c ∈ (f.convert t w excluded).inScope w (f.shift t w excluded)) :
    (∃ mark ∈ [f.opening, f.closing], c ∈ mark) ∨ (c ∈ t.inScope w excluded ∧ c ≠ q) := by
  have hmoved : Span.Ascending (excluded.map (f.moved (t.scope w excluded))) := by
    rw [Span.Ascending, List.pairwise_map]
    exact h.imp fun hab => f.add_gainTo_mono _ hab
  rw [shift_eq_map hq h, convert_eq_curl hq, Text.mem_inScope_iff hmoved] at hc
  obtain ⟨p, hp, hscope⟩ := hc
  have hlt : p < f.place (t.scope w excluded) t.length := by
    rw [place, List.take_of_length_le (by rw [Text.length_scope])]
    exact (List.getElem?_eq_some_iff.mp hp).choose
  obtain ⟨k, hk, hlow, hhigh⟩ := exists_place_le _ hlt
  -- the position is one of those that the output of `k` takes
  have hout : (f.output t w excluded k)[p - f.place (t.scope w excluded) k]? = some c := by
    rw [place_succ h f w hk] at hhigh
    have hlength : p - f.place (t.scope w excluded) k < (f.output t w excluded k).length := by omega
    rw [← List.getElem?_append_left hlength,
      ← curlFrom_eq_append h f w hk, curlFrom, List.getElem?_drop, Nat.add_sub_cancel' hlow, hp]
  cases hat : f.convertsAt t w excluded k with
  | true => exact .inl ⟨_, output_mem_of_convertsAt hat, List.mem_of_getElem? hout⟩
  | false =>
    rw [output_eq_of_not_convertsAt hk hat] at hout
    rw [place_succ h f w hk, output_eq_of_not_convertsAt hk hat, List.length_singleton] at hhigh
    obtain rfl : p = f.place (t.scope w excluded) k := by omega
    rw [Nat.sub_self, List.getElem?_cons_zero, Option.some.injEq] at hout
    rw [inScopeAt_of_place h w hk hat] at hscope
    refine .inr ⟨(Text.mem_inScope_iff h).mpr ⟨k, ?_, hscope⟩, ?_⟩
    · rw [List.getElem?_eq_getElem hk, hout]
    · rintro rfl
      rw [convertsAt, hscope, List.getElem?_eq_getElem hk, hout, hq] at hat
      simp at hat

end Family

/-! ## Corrections -/

namespace Marks

/-- No mark is empty or holds a straight quote, a backslash, a dollar sign or an opening brace. -/
def Inert (m : Marks) : Prop :=
  ∀ mark ∈ [m.singleOpening, m.singleClosing, m.doubleOpening, m.doubleClosing],
    mark ≠ [] ∧ ∀ c ∈ mark, ¬ IsStraight c ∧ c ≠ '\\' ∧ c ≠ '$' ∧ c ≠ '\x7b'

instance (m : Marks) : Decidable m.Inert :=
  @List.decidableBAll _ _ (fun mark => @instDecidableAnd _ _ _ (List.decidableBAll
    (fun c => ¬ IsStraight c ∧ c ≠ '\\' ∧ c ≠ '$' ∧ c ≠ '\x7b') mark)) _

namespace Inert

variable {m : Marks} (hm : m.Inert)

include hm

theorem quoteFree : m.QuoteFree := fun mark hmark c hc => ((hm mark hmark).2 c hc).1

theorem single : m.single.Inert singleQuote where
  quote_eq := rfl
  isStraight := .inl rfl
  ne_nil mark hmark := (hm mark (List.mem_append_left [m.doubleOpening, m.doubleClosing] hmark)).1
  inert mark hmark c hc :=
    ((hm mark (List.mem_append_left [m.doubleOpening, m.doubleClosing] hmark)).2 c hc).2

theorem double : m.double.Inert doubleQuote where
  quote_eq := rfl
  isStraight := .inr rfl
  ne_nil mark hmark := (hm mark (List.mem_append_right [m.singleOpening, m.singleClosing] hmark)).1
  inert mark hmark c hc :=
    ((hm mark (List.mem_append_right [m.singleOpening, m.singleClosing] hmark)).2 c hc).2

theorem aligned (f : Fragment) : m.Aligned f := by
  refine aligned_of_not_cancels ?_
  have hopening : m.single.opening.length ≠ 0 := by
    rw [Ne, List.length_eq_zero_iff]
    exact hm.single.ne_nil _ (by simp)
  have hclosing : m.single.closing.length ≠ 0 := by
    rw [Ne, List.length_eq_zero_iff]
    exact hm.single.ne_nil _ (by simp)
  rw [Family.Cancels]
  omega

theorem correct_eq_curled (f : Fragment) : m.correct f = m.curled f :=
  correct_eq_curled_of_aligned hm.quoteFree.double_not_mem.1 hm.quoteFree.double_not_mem.2
    (hm.aligned f)

theorem excludedAfter_eq (f : Fragment) :
    m.excludedAfter f = m.single.shift f.text f.kind.trimWidth f.excluded := by
  rw [excludedAfter_of_aligned (hm.aligned f), shift_excluded]

end Inert

variable {m : Marks} {f : Fragment}

/-- The fragment with its text corrected. -/
def corrected (m : Marks) (f : Fragment) : Fragment := { f with text := m.correct f }

/-- A corrected text is read with the spans of its source, moved by both steps. -/
theorem Inert.excluded_corrected (hm : m.Inert) (hf : f.interpolations = none) :
    (m.corrected f).excluded =
      m.double.shift (m.once f) f.kind.trimWidth
        (m.single.shift f.text f.kind.trimWidth f.excluded) := by
  have honce : Interpolation.excluded (m.once f) f.kind none = m.excludedAfter f := by
    rw [hm.excludedAfter_eq, once, Fragment.excluded, hf]
    exact hm.single.excluded_convert f.text f.kind
  rw [← hm.excludedAfter_eq, Fragment.excluded, ← honce]
  simp only [corrected, hf]
  rw [correct_eq_convert, ← honce]
  exact hm.double.excluded_convert (m.once f) f.kind

/-- No straight quote is in scope of a corrected text. -/
theorem Inert.not_isStraight_of_mem_prose (hm : m.Inert) (hf : f.interpolations = none) {c : Char}
    (hc : c ∈ (m.corrected f).prose) : ¬ IsStraight c := by
  rw [Fragment.prose, hm.excluded_corrected hf, ← hm.excludedAfter_eq] at hc
  rcases Family.mem_inScope_convert (double_quote m) (m.ordered_excludedAfter f).ascending _ hc with
    ⟨mark, hmark, hc⟩ | ⟨hc, hdouble⟩
  · exact hm.quoteFree mark (List.mem_append_right [m.singleOpening, m.singleClosing] hmark) c hc
  rw [hm.excludedAfter_eq] at hc
  rcases Family.mem_inScope_convert (single_quote m) f.ordered_excluded.ascending _ hc with
    ⟨mark, hmark, hc⟩ | ⟨-, hsingle⟩
  · exact hm.quoteFree mark (List.mem_append_left [m.doubleOpening, m.doubleClosing] hmark) c hc
  · exact fun hstraight => hstraight.elim hsingle hdouble

end Marks

theorem Fragment.isWithin_of_mem_excluded {f : Fragment} (hf : f.interpolations = none) {s : Span}
    (hs : s ∈ f.excluded) : s.IsWithin f.text := by
  rw [excluded, hf] at hs
  generalize f.kind = kind at hs
  cases kind with
  | templateLiteral =>
    rw [Interpolation.excluded_eq_spans] at hs
    have := Interpolation.bounds_of_mem_spans hs
    exact ⟨this.1, by omega, this.2.2⟩
  | _ => cases hs

namespace Marks

variable {m : Marks} {f : Fragment}

/-- A fragment whose text has been corrected is read as its source has been: the expressions that
are found again are those of the source, moved by both steps, and hold what they have held. Nothing
is left to report, and a further correction changes nothing. -/
theorem Inert.corrected_settled (hm : m.Inert) (hf : f.interpolations = none) :
    (m.corrected f).excluded = m.double.shift (m.once f) f.kind.trimWidth
        (m.single.shift f.text f.kind.trimWidth f.excluded) ∧
      List.Forall₂ (fun s s' => Span.Copies f.text s (m.correct f) s') f.excluded
        (m.corrected f).excluded ∧
      Finding.ofFragment? m (m.corrected f) = none ∧
      m.correct (m.corrected f) = m.correct f := by
  have hexcluded := hm.excluded_corrected hf
  have hholds : (m.corrected f).holdsStraightQuote = false := by
    rw [Fragment.holdsStraightQuote, Bool.or_eq_false_iff, ← Bool.not_eq_true, ← Bool.not_eq_true,
      List.contains_iff_mem, List.contains_iff_mem]
    exact ⟨fun h => hm.not_isStraight_of_mem_prose hf h (.inl rfl),
      fun h => hm.not_isStraight_of_mem_prose hf h (.inr rfl)⟩
  refine ⟨hexcluded, ?_, ?_, ?_⟩
  · have hafter : m.excludedAfter f = f.excluded.map (m.single.moved f.scope) :=
      excludedAfter_of_aligned (hm.aligned f)
    have hordered := (m.ordered_excludedAfter f).ascending
    rw [hexcluded, ← hm.excludedAfter_eq, Family.shift_eq_map (double_quote m) hordered, hafter,
      List.map_map, List.forall₂_map_right_iff, List.forall₂_same]
    intro s hs
    have hsingle : Span.Copies f.text s (m.once f) (m.single.moved f.scope s) :=
      Family.copies_moved (single_quote m) _ f.ordered_excluded.ascending hs
        (Fragment.isWithin_of_mem_excluded hf hs)
    have hmem : m.single.moved f.scope s ∈ m.excludedAfter f := hafter ▸ List.mem_map_of_mem hs
    have hdouble := Family.copies_moved (double_quote m) f.kind.trimWidth hordered hmem hsingle.1
    rw [← correct_eq_convert, hafter] at hdouble
    exact hsingle.trans hdouble
  · rw [Finding.ofFragment?, if_neg (by simp [hholds])]
  · rw [hm.correct_eq_curled, curled_eq_of_not_holds hholds]
    rfl

/-- Marks of several characters, one of them behind a backslash and one between a dollar sign and a
brace; in the expression a quoted brace. -/
theorem corrected_settled_of_references :
    let m : Marks := ⟨text "&lsquo;", text "&rsquo;", text "&ldquo;", text "&rdquo;"⟩
    let f : Fragment :=
      ⟨.templateLiteral, 0, 13, text "\x60\\'$'\x7b$\x7b'\x7d'\x7d\x60", .script, none⟩
    (m.Inert ∧ f.interpolations = none ∧ f.excluded = [⟨6, 12⟩] ∧
        m.correct f = text "\x60\\&lsquo;$&rsquo;\x7b$\x7b'\x7d'\x7d\x60") ∧
      List.Forall₂ (fun s s' => Span.Copies f.text s (m.correct f) s') f.excluded
        (m.corrected f).excluded ∧
      Finding.ofFragment? m (m.corrected f) = none ∧ m.correct (m.corrected f) = m.correct f := by
  intro m f
  have hm : m.Inert := by decide
  have hexcluded : f.excluded = [⟨6, 12⟩] := by cbv
  have hcorrect : m.correct f = text "\x60\\&lsquo;$&rsquo;\x7b$\x7b'\x7d'\x7d\x60" := by
    rw [correct, hexcluded]
    decide
  exact ⟨⟨hm, rfl, hexcluded, hcorrect⟩, (hm.corrected_settled (f := f) rfl).2⟩

end Marks

end SmartQuotes
