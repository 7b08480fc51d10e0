import SmartQuotes.Proofs.Quote.Alignment
import SmartQuotes.Script.Record

/-!
# Rewriting straight quotes

A correction rewrites some of the straight quotes of a text to marks of their own family and leaves
everything else as it is, in order. `Marks.Rewrites` says so of two texts and the positions that are
rewritten. With marks that hold no straight quotes two rewritings in a row are one, and each position
that is rewritten takes a straight quote away.
-/

namespace SmartQuotes

/-- A single or a double quote. -/
def IsStraight (c : Char) : Prop := c = singleQuote ∨ c = doubleQuote

instance : DecidablePred IsStraight := fun _ => instDecidableOr

namespace Marks

/-- None of the marks holds a straight quote. -/
def QuoteFree (m : Marks) : Prop :=
  ∀ mark ∈ [m.singleOpening, m.singleClosing, m.doubleOpening, m.doubleClosing],
    ∀ c ∈ mark, ¬ IsStraight c

instance (m : Marks) : Decidable m.QuoteFree :=
  @List.decidableBAll _ _ (fun mark => List.decidableBAll (fun c => ¬ IsStraight c) mark) _

/-- None of the marks holds a carriage return. -/
def ReturnFree (m : Marks) : Prop :=
  ∀ mark ∈ [m.singleOpening, m.singleClosing, m.doubleOpening, m.doubleClosing], '\r' ∉ mark

instance (m : Marks) : Decidable m.ReturnFree :=
  List.decidableBAll (fun mark => '\r' ∉ mark) _

/-- The text is the opening or the closing mark of the family of the quote. -/
def Replaces (m : Marks) (q : Char) (mark : Text) : Prop :=
  q = singleQuote ∧ (mark = m.singleOpening ∨ mark = m.singleClosing) ∨
    q = doubleQuote ∧ (mark = m.doubleOpening ∨ mark = m.doubleClosing)

/-- The second text is the first one, read from position `i` on, with the straight quotes at the
given positions replaced by marks of their own family. -/
inductive Rewrites (m : Marks) : Nat → List Nat → Text → Text → Prop
  | nil (i : Nat) : Rewrites m i [] [] []
  | keep {i : Nat} {S : List Nat} {t u : Text} (c : Char) :
    Rewrites m (i + 1) S t u → Rewrites m i S (c :: t) (c :: u)
  | curl {i : Nat} {S : List Nat} {t u : Text} {q : Char} {mark : Text} :
    m.Replaces q mark → Rewrites m (i + 1) S t u → Rewrites m i (i :: S) (q :: t) (mark ++ u)

variable {m : Marks}

theorem Replaces.isStraight {q : Char} {mark : Text} (h : m.Replaces q mark) : IsStraight q :=
  h.imp And.left And.left

theorem Replaces.not_isStraight {q : Char} {mark : Text} (h : m.Replaces q mark)
    (hm : m.QuoteFree) {c : Char} (hc : c ∈ mark) : ¬ IsStraight c := by
  rcases h with ⟨-, rfl | rfl⟩ | ⟨-, rfl | rfl⟩ <;> exact hm _ (by simp) c hc

theorem Replaces.return_not_mem {q : Char} {mark : Text} (h : m.Replaces q mark)
    (hm : m.ReturnFree) : '\r' ∉ mark := by
  rcases h with ⟨-, rfl | rfl⟩ | ⟨-, rfl | rfl⟩ <;> exact hm _ (by simp)

namespace Rewrites

variable {i : Nat} {S : List Nat} {t u : Text}

theorem refl (m : Marks) (i : Nat) (t : Text) : m.Rewrites i [] t t := by
  induction t generalizing i with
  | nil => exact .nil i
  | cons c t ih => exact .keep c (ih (i + 1))

theorem eq_of_nil (h : m.Rewrites i [] t u) : u = t := by
  generalize hS : ([] : List Nat) = S at h
  induction h with
  | nil => rfl
  | keep c _ ih => rw [ih hS]
  | curl => cases hS

theorem append {S' : List Nat} {t' u' : Text} (h : m.Rewrites i S t u)
    (h' : m.Rewrites (i + t.length) S' t' u') : m.Rewrites i (S ++ S') (t ++ t') (u ++ u') := by
  induction h with
  | nil i => exact h'
  | keep c _ ih =>
    rw [List.length_cons, Nat.add_comm _ 1, ← Nat.add_assoc] at h'
    exact .keep c (ih h')
  | curl hmark _ ih =>
    rw [List.length_cons, Nat.add_comm _ 1, ← Nat.add_assoc] at h'
    rw [List.append_assoc]
    exact .curl hmark (ih h')

/-- The positions are those of straight quotes in the text. -/
theorem isStraight_of_mem (h : m.Rewrites i S t u) {k : Nat} (hk : k ∈ S) :
    i ≤ k ∧ ∃ q, t[k - i]? = some q ∧ IsStraight q := by
  induction h with
  | nil => cases hk
  | @keep i S t u c _ ih =>
    obtain ⟨hle, q, hq, hstraight⟩ := ih hk
    refine ⟨by omega, q, ?_, hstraight⟩
    rwa [show k - i = k - (i + 1) + 1 by omega, List.getElem?_cons_succ]
  | @curl i S t u q mark hmark _ ih =>
    rcases List.mem_cons.mp hk with rfl | hk
    · exact ⟨Nat.le_refl _, q, by rw [Nat.sub_self]; rfl, hmark.isStraight⟩
    · obtain ⟨hle, q', hq, hstraight⟩ := ih hk
      refine ⟨by omega, q', ?_, hstraight⟩
      rwa [show k - i = k - (i + 1) + 1 by omega, List.getElem?_cons_succ]

/-- The positions are increasing, so that there are as many of them as rewritten quotes. -/
theorem pairwise (h : m.Rewrites i S t u) : S.Pairwise (· < ·) := by
  induction h with
  | nil => exact .nil
  | keep c _ ih => exact ih
  | curl _ h ih =>
    refine List.pairwise_cons.mpr ⟨fun k hk => ?_, ih⟩
    exact Nat.lt_of_succ_le (h.isStraight_of_mem hk).1

theorem shift (h : m.Rewrites i S t u) (n : Nat) :
    m.Rewrites (i + n) (S.map (· + n)) t u := by
  induction h with
  | nil => exact .nil _
  | keep c _ ih =>
    rw [Nat.add_right_comm] at ih
    exact .keep c ih
  | curl hmark _ ih =>
    rw [Nat.add_right_comm] at ih
    exact .curl hmark ih

/-- Every position takes a straight quote away. -/
theorem countP_add_length (hm : m.QuoteFree) (h : m.Rewrites i S t u) :
    u.countP (fun c => decide (IsStraight c)) + S.length =
      t.countP fun c => decide (IsStraight c) := by
  induction h with
  | nil => rfl
  | keep c _ ih =>
    rw [List.countP_cons, List.countP_cons, ← ih]
    omega
  | @curl i S t u q mark hmark _ ih =>
    have hzero : mark.countP (fun c => decide (IsStraight c)) = 0 := by
      rw [List.countP_eq_zero]
      intro c hc
      simpa using hmark.not_isStraight hm hc
    rw [List.countP_append, hzero, List.countP_cons_of_pos (by simpa using hmark.isStraight), ← ih,
      List.length_cons]
    omega

theorem eq_iff (hm : m.QuoteFree) (h : m.Rewrites i S t u) : u = t ↔ S = [] := by
  constructor
  · rintro rfl
    have hcount := h.countP_add_length hm
    exact List.length_eq_zero_iff.mp (by omega)
  · rintro rfl
    exact h.eq_of_nil

/-- Nothing is rewritten in a mark without straight quotes. -/
theorem of_append {mark v : Text} (hmark : ∀ c ∈ mark, ¬ IsStraight c)
    (h : m.Rewrites i S (mark ++ u) v) :
    ∃ w, v = mark ++ w ∧ m.Rewrites (i + mark.length) S u w := by
  induction mark generalizing i v with
  | nil => exact ⟨v, rfl, h⟩
  | cons a mark ih =>
    rw [List.cons_append] at h
    cases h with
    | keep _ h =>
      obtain ⟨w, rfl, hw⟩ := ih (fun c hc => hmark c (List.mem_cons_of_mem _ hc)) h
      refine ⟨w, rfl, ?_⟩
      rwa [List.length_cons, Nat.add_comm _ 1, ← Nat.add_assoc]
    | curl hreplaces h => exact absurd hreplaces.isStraight (hmark a List.mem_cons_self)

/-- Rewriting with marks without carriage returns neither adds one nor takes one away. -/
theorem return_mem_iff (hm : m.ReturnFree) (h : m.Rewrites i S t u) : '\r' ∈ u ↔ '\r' ∈ t := by
  induction h with
  | nil => exact Iff.rfl
  | keep c _ ih => rw [List.mem_cons, List.mem_cons, ih]
  | @curl i S t u q mark hmark _ ih =>
    have hq : '\r' ≠ q := by
      rintro rfl
      exact absurd hmark.isStraight (by decide)
    rw [List.mem_append, List.mem_cons, ih, or_iff_right (hmark.return_not_mem hm),
      or_iff_right hq]

/-- Two rewritings in a row are one, of as many positions. -/
theorem trans (hm : m.QuoteFree) {j : Nat} {S' : List Nat} {v : Text} (h : m.Rewrites i S t u)
    (h' : m.Rewrites j S' u v) :
    ∃ T, m.Rewrites i T t v ∧ T.length = S.length + S'.length := by
  induction h generalizing j S' v with
  | nil i =>
    cases h'
    exact ⟨[], .nil i, rfl⟩
  | keep c _ ih =>
    cases h' with
    | keep _ h' =>
      obtain ⟨T, hT, hlength⟩ := ih h'
      exact ⟨T, .keep c hT, hlength⟩
    | curl hmark h' =>
      obtain ⟨T, hT, hlength⟩ := ih h'
      refine ⟨_, .curl hmark hT, ?_⟩
      rw [List.length_cons, List.length_cons, hlength, Nat.add_assoc]
  | curl hmark _ ih =>
    obtain ⟨w, rfl, hw⟩ := h'.of_append fun c hc => hmark.not_isStraight hm hc
    obtain ⟨T, hT, hlength⟩ := ih hw
    refine ⟨_, .curl hmark hT, ?_⟩
    rw [List.length_cons, List.length_cons, hlength, Nat.add_right_comm]

end Rewrites

/-! ## Corrections -/

theorem replaces_kth_single (m : Marks) (n : Nat) : m.Replaces singleQuote (m.single.kth n) := by
  refine Or.inl ⟨rfl, ?_⟩
  rw [Family.kth]
  split
  · exact Or.inl rfl
  · exact Or.inr rfl

theorem replaces_kth_double (m : Marks) (n : Nat) : m.Replaces doubleQuote (m.double.kth n) := by
  refine Or.inr ⟨rfl, ?_⟩
  rw [Family.kth]
  split
  · exact Or.inl rfl
  · exact Or.inr rfl

/-- Whether a reading that keeps such quotes rewrites the character at a position. -/
def RewritesAt (ks kd : Nat → Bool) (k : Nat) (c : Char) : Prop :=
  c = singleQuote ∧ ks k = false ∨ c = doubleQuote ∧ kd k = false

theorem at_cons_iff {P : Nat → Char → Prop} {i k : Nat} {c : Char} {t : Text} :
    (i ≤ k ∧ ∃ a, (c :: t)[k - i]? = some a ∧ P k a) ↔
      (k = i ∧ P i c) ∨ (i + 1 ≤ k ∧ ∃ a, t[k - (i + 1)]? = some a ∧ P k a) := by
  rcases Nat.lt_trichotomy k i with h | rfl | h
  · exact ⟨fun h' => by omega, fun h' => by omega⟩
  · rw [Nat.sub_self, List.getElem?_cons_zero]
    constructor
    · rintro ⟨-, a, ha, hP⟩
      cases ha
      exact Or.inl ⟨rfl, hP⟩
    · rintro (⟨-, hP⟩ | ⟨h, -⟩)
      · exact ⟨Nat.le_refl _, c, rfl, hP⟩
      · omega
  · rw [show k - i = k - (i + 1) + 1 by omega, List.getElem?_cons_succ]
    constructor
    · rintro ⟨-, hex⟩
      exact Or.inr ⟨h, hex⟩
    · rintro (⟨rfl, -⟩ | ⟨-, hex⟩)
      · omega
      · exact ⟨by omega, hex⟩

/-- A reading rewrites the quotes that their family does not keep. -/
theorem exists_rewrites_scanFrom (m : Marks) (ks kd : Nat → Bool) (i s d : Nat) (t : Text) :
    ∃ S, m.Rewrites i S t (m.scanFrom ks kd i s d t) ∧
      ∀ k, k ∈ S ↔ i ≤ k ∧ ∃ c, t[k - i]? = some c ∧ RewritesAt ks kd k c := by
  induction t generalizing i s d with
  | nil => exact ⟨[], .nil i, by simp⟩
  | cons c t ih =>
    simp only [at_cons_iff, scanFrom]
    split
    · next hc =>
      simp only [Bool.and_eq_true, decide_eq_true_eq, Bool.not_eq_true'] at hc
      obtain ⟨S, hS, hmem⟩ := ih (i + 1) (s + 1) d
      have hat : RewritesAt ks kd i c := Or.inl hc
      refine ⟨i :: S, .curl (hc.1 ▸ m.replaces_kth_single _) hS, fun k => ?_⟩
      rw [List.mem_cons, hmem, and_iff_left hat]
    · next hc =>
      split
      · next hc' =>
        simp only [Bool.and_eq_true, decide_eq_true_eq, Bool.not_eq_true'] at hc'
        obtain ⟨S, hS, hmem⟩ := ih (i + 1) s (d + 1)
        have hat : RewritesAt ks kd i c := Or.inr hc'
        refine ⟨i :: S, .curl (hc'.1 ▸ m.replaces_kth_double _) hS, fun k => ?_⟩
        rw [List.mem_cons, hmem, and_iff_left hat]
      · next hc' =>
        obtain ⟨S, hS, hmem⟩ := ih (i + 1) s d
        refine ⟨S, .keep c hS, fun k => ?_⟩
        rw [hmem, iff_or_self]
        rintro ⟨-, h | h⟩
        · simp [h] at hc
        · simp [h] at hc'

end Marks

namespace Fragment

variable {f : Fragment}

theorem mem_prose_iff {c : Char} :
    c ∈ f.prose ↔ ∃ k, f.text[k]? = some c ∧ f.keeps k = false := by
  have hscope : f.prose = (f.scope.filter (·.1)).map (·.2) := rfl
  rw [hscope, scope_eq_map]
  simp only [List.mem_map, List.mem_filter, Prod.exists, List.mem_zipIdx_iff_getElem?]
  constructor
  · rintro ⟨_, _, ⟨⟨a, k, ha, heq⟩, hkeeps⟩, rfl⟩
    cases heq
    exact ⟨k, ha, by simpa using hkeeps⟩
  · rintro ⟨k, hk, hkeeps⟩
    exact ⟨_, _, ⟨⟨c, k, hk, rfl⟩, by simpa using hkeeps⟩, rfl⟩

/-- A fragment is reported exactly if one of its straight quotes is in scope. -/
theorem holdsStraightQuote_iff : f.holdsStraightQuote = true ↔
    ∃ k c, f.text[k]? = some c ∧ IsStraight c ∧ f.keeps k = false := by
  rw [holdsStraightQuote, Bool.or_eq_true, List.contains_iff_mem, List.contains_iff_mem,
    mem_prose_iff, mem_prose_iff]
  constructor
  · rintro (⟨k, hk, hkeeps⟩ | ⟨k, hk, hkeeps⟩)
    · exact ⟨k, _, hk, Or.inl rfl, hkeeps⟩
    · exact ⟨k, _, hk, Or.inr rfl, hkeeps⟩
  · rintro ⟨k, _, hk, rfl | rfl, hkeeps⟩
    · exact Or.inl ⟨k, hk, hkeeps⟩
    · exact Or.inr ⟨k, hk, hkeeps⟩

/-- An excluded span of a delimited fragment starts with a dollar sign and does not end with a
straight quote. -/
theorem Delimited.bounds_of_mem_excluded (hf : f.Delimited) {s : Span}
    (hs : s ∈ f.excluded) :
    (0 ≤ s.start ∧ f.text[s.start.toNat]? = some '$') ∧
      (1 ≤ s.stop ∧ f.text[(s.stop - 1).toNat]? ≠ some doubleQuote) := by
  rw [excluded_eq_merge] at hs
  have hembeds : ∀ s ∈ f.embedded, s.Embeds f.text := by
    intro s hs
    unfold embedded at hs
    split at hs
    · next hkind =>
      obtain ⟨spans, hspans⟩ := Option.isSome_iff_exists.mp (hf.isSome_iff.mpr hkind)
      rw [hspans] at hs
      exact hf.embeds spans hspans s hs
    · cases hs
  refine Span.bounds_of_mem_merge
    (P := fun x => 0 ≤ x ∧ f.text[x.toNat]? = some '$')
    (Q := fun x => 1 ≤ x ∧ f.text[(x - 1).toNat]? ≠ some doubleQuote) ?_ ?_ s hs
  · intro s hs
    exact ⟨(hembeds s hs).start_nonneg, (hembeds s hs).dollar⟩
  · intro s hs
    have hs := hembeds s hs
    refine ⟨by have := hs.start_nonneg; have := hs.start_lt; omega, ?_⟩
    rcases hs.last with hlast | hlast
    · rw [hlast]
      decide
    · rw [hlast]
      decide

end Fragment

namespace Marks

variable {m : Marks} {f : Fragment}

theorem QuoteFree.double_not_mem (hm : m.QuoteFree) :
    doubleQuote ∉ m.singleOpening ∧ doubleQuote ∉ m.singleClosing :=
  ⟨fun h => hm _ (by simp) _ h (Or.inr rfl), fun h => hm _ (by simp) _ h (Or.inr rfl)⟩

/-- The spans stand where they have stood if no single quote is converted. -/
theorem aligned_of_no_single
    (h : ∀ k, f.text[k]? = some singleQuote → f.keeps k = true) : m.Aligned f := by
  have hnone : ∀ x ∈ f.scope, m.single.converts x = false := by
    intro x hx
    obtain ⟨k, hk, rfl⟩ := List.mem_iff_getElem.mp hx
    rw [← Bool.not_eq_true, Fragment.converts_getElem_scope f (single_quote m)]
    rintro ⟨hkeeps, hq⟩
    rw [h k hq] at hkeeps
    cases hkeeps
  refine Or.inr ?_
  rw [shift_excluded, List.map_congr_left fun s _ => Family.moved_of_none hnone s, List.map_id']

/-- A correction rewrites quotes of the fragment; at least one if one is in scope. -/
theorem exists_rewrites_correct (hm : m.QuoteFree) (f : Fragment) :
    ∃ S, m.Rewrites 0 S f.text (m.correct f) ∧
      (∀ k ∈ S, ∃ c, f.text[k]? = some c ∧ RewritesAt f.keeps (m.keepsAfter f) k c) ∧
      (f.holdsStraightQuote = true → S ≠ []) := by
  obtain ⟨ho, hc⟩ := hm.double_not_mem
  obtain ⟨S, hS, hmem⟩ := m.exists_rewrites_scanFrom f.keeps (m.keepsAfter f) 0 0 0 f.text
  simp only [Nat.zero_le, true_and, Nat.sub_zero] at hmem
  refine ⟨S, ?_, fun k hk => (hmem k).mp hk, fun hholds => ?_⟩
  · rw [correct_eq_scan f ho hc]
    exact hS
  · by_cases hsingle : ∃ k, f.text[k]? = some singleQuote ∧ f.keeps k = false
    · obtain ⟨k, hk, hkeeps⟩ := hsingle
      exact List.ne_nil_of_mem ((hmem k).mpr ⟨_, hk, Or.inl ⟨rfl, hkeeps⟩⟩)
    · -- no single quote is in scope, so that the second step reads the text as it was
      have haligned : m.Aligned f := aligned_of_no_single fun k hk => by
        by_contra hkeeps
        exact hsingle ⟨k, hk, by simpa using hkeeps⟩
      obtain ⟨k, c, hk, rfl | rfl, hkeeps⟩ := Fragment.holdsStraightQuote_iff.mp hholds
      · exact absurd ⟨k, hk, hkeeps⟩ hsingle
      · obtain ⟨hlt, hq⟩ := List.getElem?_eq_some_iff.mp hk
        rw [← keepsAfter_of_aligned haligned hlt hq] at hkeeps
        exact List.ne_nil_of_mem ((hmem k).mpr ⟨_, hk, Or.inr ⟨rfl, hkeeps⟩⟩)

/-! ## Delimited fragments -/

/-- What the second step rewrites in a delimited fragment is in scope, even if the spans were not
shifted although they have moved: they have moved by one place at most, and neither of their ends is
a quote. -/
theorem keeps_eq_false_of_keepsAfter (hf : f.Delimited) {k : Nat}
    (hq : f.text[k]? = some doubleQuote) (h : m.keepsAfter f k = false) : f.keeps k = false := by
  obtain ⟨hk, hq'⟩ := List.getElem?_eq_some_iff.mp hq
  by_cases haligned : m.Aligned f
  · rwa [← keepsAfter_of_aligned haligned hk hq']
  rw [Aligned, not_or, not_not] at haligned
  have hscope : k ≤ f.scope.length := by
    rw [Fragment.length_scope]
    exact Nat.le_of_lt hk
  have hgain : -1 ≤ m.single.gainTo f.scope k ∧ m.single.gainTo f.scope k ≤ 1 := by
    rw [gainTo_eq_gainOf]
    rcases Family.gainOf_of_gainOf_eq_zero m.single (gainOf_eq_zero_of_length haligned.1)
      (countP_take_le (k : Int)) with hzero | ⟨-, hgain⟩
    · rw [hzero]
      decide
    · exact hgain
  have hplace := m.single.place_eq hscope
  rw [keepsAfter_of_double hk hq', excludedAfter, if_pos haligned.1, Bool.or_assoc,
    Bool.or_eq_false_iff] at h
  rw [Fragment.keeps, Bool.or_assoc, Bool.or_eq_false_iff]
  refine ⟨?_, h.2⟩
  rw [← Bool.not_eq_true, ← Fragment.covered_excluded, Span.covered_iff]
  rintro ⟨s, hs, hstart, hstop⟩
  obtain ⟨⟨hnonneg, hdollar⟩, hpos, hlast⟩ := hf.bounds_of_mem_excluded hs
  have hne : s.start ≠ k := by
    intro heq
    rw [heq, Int.toNat_natCast, hq] at hdollar
    exact absurd hdollar (by decide)
  have hne' : s.stop - 1 ≠ k := by
    intro heq
    rw [heq, Int.toNat_natCast] at hlast
    exact hlast hq
  have hcovered : Span.covered f.excluded (m.single.place f.scope k) = true :=
    Span.covered_iff.mpr ⟨s, hs, by omega, by omega⟩
  rw [hcovered] at h
  cases h.1

/-- A correction of a delimited fragment rewrites nothing but straight quotes in scope. -/
theorem exists_rewrites_correct_of_delimited (hm : m.QuoteFree) (hf : f.Delimited) :
    ∃ S, m.Rewrites 0 S f.text (m.correct f) ∧
      (∀ k ∈ S, k < f.text.length ∧ f.keeps k = false) ∧
      (f.holdsStraightQuote = true → S ≠ []) := by
  obtain ⟨S, hS, hmem, hne⟩ := exists_rewrites_correct hm f
  refine ⟨S, hS, fun k hk => ?_, hne⟩
  obtain ⟨c, hc, hat⟩ := hmem k hk
  refine ⟨(List.getElem?_eq_some_iff.mp hc).choose, ?_⟩
  rcases hat with ⟨-, hkeeps⟩ | ⟨rfl, hkeeps⟩
  · exact hkeeps
  · exact keeps_eq_false_of_keepsAfter hf hc hkeeps

/-- With marks that hold no straight quotes every reported fragment is changed. -/
theorem correct_ne_of_holds (hm : m.QuoteFree) (h : f.holdsStraightQuote = true) :
    m.correct f ≠ f.text := by
  obtain ⟨S, hS, -, hne⟩ := exists_rewrites_correct hm f
  rw [Ne, hS.eq_iff hm]
  exact hne h

end Marks

end SmartQuotes
