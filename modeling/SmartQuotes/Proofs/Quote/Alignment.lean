import SmartQuotes.Proofs.Quote.Scan

/-!
# When the two steps agree with one reading

The excluded spans are shifted between the two steps only if the first one has changed the length of
the text. Marks of which an opening and a closing one together are as long as two quotes, but not
each of them, can move a span without changing the length; the second step then takes the wrong
characters for embedded ones (`correct_ne_curled_after_opening`). `correct_eq_curled_iff` tells
exactly for which marks this never happens, and that a fragment is curled as in one reading whenever
its spans were shifted or need not be.
-/

namespace SmartQuotes

namespace Marks

variable (m : Marks) (f : Fragment)

/-- The text of a fragment with both families curled in one reading: what the fragment keeps is
copied, and of each family the odd quotes become opening and the even ones closing marks. -/
def curled : Text := m.scan f.keeps f.keeps f.text

/-- The spans were shifted between the two steps, or they stand where they have stood. -/
def Aligned : Prop :=
  (m.once f).length ≠ f.text.length ∨
    m.single.shift f.text f.kind.trimWidth f.excluded = f.excluded

variable {m f}

theorem excludedAfter_of_aligned (h : m.Aligned f) :
    m.excludedAfter f = f.excluded.map (m.single.moved f.scope) := by
  rw [excludedAfter, ← shift_excluded]
  split
  · next hlen => exact (h.resolve_left (not_not_intro hlen)).symm
  · rfl

theorem not_converts_of_double {k : Nat} (hk : k < f.scope.length)
    (hq : f.text[k]? = some doubleQuote) : m.single.converts f.scope[k] = false := by
  rw [← Bool.not_eq_true, Fragment.converts_getElem_scope f (single_quote m), hq]
  rintro ⟨-, h⟩
  exact absurd (Option.some.inj h) (by decide)

theorem not_converts_of_margin {k : Nat} (hk : k < f.scope.length)
    (h : k < f.kind.trimWidth ∨ f.scope.length ≤ k + f.kind.trimWidth) :
    m.single.converts f.scope[k] = false := by
  rw [← Bool.not_eq_true, Fragment.converts_getElem_scope f (single_quote m), Fragment.keeps]
  rintro ⟨h', -⟩
  simp only [Bool.or_eq_false_iff, decide_eq_false_iff_not] at h'
  rw [Fragment.length_scope] at h
  omega

/-- The second step trims the same characters as the first. -/
theorem keepsAfter_of_double {k : Nat} (hk : k < f.text.length) (hq : f.text[k] = doubleQuote) :
    m.keepsAfter f k = (Span.covered (m.excludedAfter f) (m.single.place f.scope k) ||
      (k : Int) < f.kind.trimWidth || (f.text.length : Int) - f.kind.trimWidth ≤ k) := by
  have hk' : k < f.scope.length := by simpa using hk
  have hkeep := not_converts_of_double (m := m) hk' (List.getElem?_eq_some_iff.mpr ⟨hk, hq⟩)
  have hlow := Family.le_place_iff (f := m.single) (w := f.kind.trimWidth) hk'
    fun j hj hjt => not_converts_of_margin hj (Or.inl hjt)
  have hhigh := Family.place_add_lt_iff (f := m.single) (w := f.kind.trimWidth) hk' hkeep
    fun j hj hjt => not_converts_of_margin hj (Or.inr hjt)
  rw [← once_eq_curl, Fragment.length_scope] at hhigh
  rw [keepsAfter, Text.inScopeAt, Bool.not_and, Bool.not_and, Bool.not_not, Bool.eq_iff_iff]
  simp only [Bool.or_eq_true, Bool.not_eq_true', decide_eq_true_eq, decide_eq_false_iff_not,
    or_assoc]
  refine or_congr_right ?_
  omega

theorem keepsAfter_of_aligned (h : m.Aligned f) {k : Nat} (hk : k < f.text.length)
    (hq : f.text[k] = doubleQuote) : m.keepsAfter f k = f.keeps k := by
  have hk' : k < f.scope.length := by simpa using hk
  have hkeep := not_converts_of_double (m := m) hk' (List.getElem?_eq_some_iff.mpr ⟨hk, hq⟩)
  have hplace := Family.place_succ_of_not_converts hk' hkeep
  rw [keepsAfter_of_double hk hq, excludedAfter_of_aligned h,
    Family.covered_map_moved (fun j hj => not_converts_of_covered m f hj) hk' (Nat.le_refl _)
      (by omega), Fragment.covered_excluded, Fragment.keeps]

theorem correct_eq_curled_of_aligned (ho : doubleQuote ∉ m.singleOpening)
    (hc : doubleQuote ∉ m.singleClosing) (h : m.Aligned f) : m.correct f = m.curled f := by
  rw [correct_eq_scan f ho hc, curled, scan, scan]
  refine scanFrom_congr m 0 0 0 (fun k _ _ => rfl) fun k hk hq => ?_
  rw [Nat.zero_add]
  exact keepsAfter_of_aligned h hk hq

/-! ## Marks that never move a span unnoticed -/

theorem gainTo_eq_gainOf (x : Int) :
    m.single.gainTo f.scope x = m.single.gainOf ((f.scope.take x.toNat).countP m.single.converts) :=
  (m.single.gain_eq _).1

theorem gainOf_eq_zero_of_length (h : (m.once f).length = f.text.length) :
    m.single.gainOf (f.scope.countP m.single.converts) = 0 := by
  rw [← (m.single.gain_eq _).1, Family.gain, ← once_eq_curl, Fragment.length_scope]
  omega

theorem countP_take_le (x : Int) :
    (f.scope.take x.toNat).countP m.single.converts ≤ f.scope.countP m.single.converts :=
  (List.take_sublist _ _).countP_le

theorem aligned_of_not_cancels (h : ¬ m.single.Cancels) : m.Aligned f := by
  by_cases hlen : (m.once f).length = f.text.length
  · refine Or.inr ?_
    rw [shift_excluded]
    refine (List.map_congr_left fun s _ => ?_).trans (List.map_id _)
    have hgain : m.single.gainTo f.scope s.start = 0 := by
      rw [gainTo_eq_gainOf]
      rcases Family.gainOf_of_gainOf_eq_zero m.single (gainOf_eq_zero_of_length hlen)
        (countP_take_le s.start) with h0 | ⟨hcancels, -⟩
      · exact h0
      · exact absurd hcancels h
    rw [Family.moved, hgain, Int.add_zero, Int.add_zero]
    rfl
  · exact Or.inl hlen

/-- The marks of double quotes are double quotes. -/
def KeepsDoubles (m : Marks) : Prop :=
  m.doubleOpening = [doubleQuote] ∧ m.doubleClosing = [doubleQuote]

theorem scanFrom_of_keepsDoubles (h : m.KeepsDoubles) {ks kd kd' : Nat → Bool} (i s d d' : Nat)
    (t : Text) : m.scanFrom ks kd i s d t = m.scanFrom ks kd' i s d' t := by
  have hkth : ∀ n, m.double.kth n = [doubleQuote] := by
    intro n
    simp only [Family.kth, double, h.1, h.2, ite_self]
  induction t generalizing i s d d' with
  | nil => rfl
  | cons c t ih =>
    simp only [scanFrom, hkth]
    split
    · rw [ih]
    · split
      · next hc =>
        simp only [Bool.and_eq_true, decide_eq_true_eq] at hc
        split
        · rw [List.singleton_append, List.singleton_append, ih]
        · rw [List.singleton_append, hc.1, ih]
      · split
        · next hc =>
          simp only [Bool.and_eq_true, decide_eq_true_eq] at hc
          rw [List.singleton_append, hc.1, ih]
        · rw [ih]

/-! ## Marks that do -/

end Marks

namespace Fragment

/-- The given interpolations are stretches of the text. -/
def InBounds (f : Fragment) : Prop :=
  ∀ spans, f.interpolations = some spans →
    ∀ s ∈ spans, 0 ≤ s.start ∧ s.start < s.stop ∧ s.stop ≤ f.text.length

/-- A template literal that embeds the name `x` between two stretches of prose. -/
def aroundName (front back : Text) : Fragment :=
  { kind := .templateLiteral, start := 0, stop := front.length + back.length + 6
    text := '\x60' :: front ++ ['$', '\x7b', 'x', '\x7d'] ++ back ++ ['\x60'], region := .script
    interpolations := some [⟨front.length + 1, front.length + 5⟩] }

theorem inBounds_aroundName (front back : Text) : (aroundName front back).InBounds := by
  intro spans h s hs
  cases h
  rw [List.mem_singleton.mp hs]
  simp only [aroundName, List.length_append, List.length_cons, List.length_nil]
  omega

end Fragment

namespace Marks

open Fragment (aroundName inBounds_aroundName)

variable {m : Marks}

theorem ne_of_append {f : Fragment} {a b mark : Text}
    (h : m.correct f = a ++ ([doubleQuote] ++ b)) (h' : m.curled f = a ++ (mark ++ b))
    (hmark : mark ≠ [doubleQuote]) : m.correct f ≠ m.curled f := by
  rw [h, h']
  intro heq
  exact hmark (List.append_cancel_right (List.append_cancel_left heq)).symm

/-- For marks that cancel out some fragment is not curled as in one reading. -/
theorem exists_ne_of_cancels (ho : doubleQuote ∉ m.singleOpening)
    (hc : doubleQuote ∉ m.singleClosing) (hcancels : m.single.Cancels) (hd : ¬ m.KeepsDoubles) :
    ∃ f : Fragment, f.InBounds ∧ m.correct f ≠ m.curled f := by
  obtain ⟨so, sc, o, c⟩ := m
  -- the second quote in scope is the one that shows the difference if the first mark hides it
  by_cases hopen : o = [doubleQuote]
  · have hclose : c ≠ [doubleQuote] := fun h => hd ⟨hopen, h⟩
    subst hopen
    rcases hcancels with ⟨h1, h2⟩ | ⟨h1, h2⟩ | ⟨h1, h2⟩
    · obtain ⟨x, y, rfl⟩ := List.length_eq_two.mp h1
      obtain rfl := List.length_eq_zero_iff.mp h2
      exact ⟨aroundName (text "\"'\"") (text "'"), inBounds_aroundName _ _,
        ne_of_append (a := ['\x60', '"', x, y]) ((correct_eq_scan _ ho hc).trans rfl) rfl hclose⟩
    · obtain rfl := List.length_eq_zero_iff.mp h1
      obtain ⟨x, y, rfl⟩ := List.length_eq_two.mp h2
      exact ⟨aroundName (text "\"'") (text "\"'"), inBounds_aroundName _ _,
        ne_of_append (a := text "\x60\"$\x7bx\x7d") ((correct_eq_scan _ ho hc).trans rfl) rfl
          hclose⟩
    · obtain rfl := List.length_eq_zero_iff.mp h1
      obtain ⟨x, y, z, rfl⟩ := List.length_eq_three.mp h2
      exact ⟨aroundName (text "\"'") (text "\"''"), inBounds_aroundName _ _,
        ne_of_append (a := text "\x60\"$\x7bx\x7d") ((correct_eq_scan _ ho hc).trans rfl) rfl
          hclose⟩
  · rcases hcancels with ⟨h1, h2⟩ | ⟨h1, h2⟩ | ⟨h1, h2⟩
    · obtain ⟨x, y, rfl⟩ := List.length_eq_two.mp h1
      obtain rfl := List.length_eq_zero_iff.mp h2
      exact ⟨aroundName (text "'\"") (text "'"), inBounds_aroundName _ _,
        ne_of_append (a := ['\x60', x, y]) ((correct_eq_scan _ ho hc).trans rfl) rfl hopen⟩
    · obtain rfl := List.length_eq_zero_iff.mp h1
      obtain ⟨x, y, rfl⟩ := List.length_eq_two.mp h2
      exact ⟨aroundName (text "'") (text "\"'"), inBounds_aroundName _ _,
        ne_of_append (a := text "\x60$\x7bx\x7d") ((correct_eq_scan _ ho hc).trans rfl) rfl
          hopen⟩
    · obtain rfl := List.length_eq_zero_iff.mp h1
      obtain ⟨x, y, z, rfl⟩ := List.length_eq_three.mp h2
      exact ⟨aroundName (text "'") (text "\"''"), inBounds_aroundName _ _,
        ne_of_append (a := text "\x60$\x7bx\x7d") ((correct_eq_scan _ ho hc).trans rfl) rfl
          hopen⟩

/-- Two steps and one reading agree on a fragment whose spans were shifted or need not be. They
agree on all fragments exactly for marks that never cancel out, and for those that keep the double
quotes. -/
theorem correct_eq_curled_iff (ho : doubleQuote ∉ m.singleOpening)
    (hc : doubleQuote ∉ m.singleClosing) :
    (∀ f, m.Aligned f → m.correct f = m.curled f) ∧
      ((∀ f : Fragment, f.InBounds → m.correct f = m.curled f) ↔
        ¬ m.single.Cancels ∨ m.KeepsDoubles) := by
  refine ⟨fun f => correct_eq_curled_of_aligned ho hc, fun h => ?_, ?_⟩
  · by_contra hno
    rw [not_or, not_not] at hno
    obtain ⟨f, hf, hne⟩ := exists_ne_of_cancels ho hc hno.1 hno.2
    exact hne (h f hf)
  · rintro (h | h) f -
    · exact correct_eq_curled_of_aligned ho hc (aligned_of_not_cancels h)
    · rw [correct_eq_scan f ho hc, curled]
      exact scanFrom_of_keepsDoubles h 0 0 0 0 f.text

/-- Marks that are written as references agree on a fragment with quotes around an expression. -/
theorem correct_eq_curled_of_references :
    let m : Marks := ⟨text "&lsquo;", text "&rsquo;", text "&ldquo;", text "&rdquo;"⟩
    let f := aroundName (text "'\"") (text "'\"")
    (doubleQuote ∉ m.singleOpening ∧ doubleQuote ∉ m.singleClosing ∧ m.Aligned f) ∧
      m.correct f = m.curled f :=
  ⟨⟨by decide, by decide, Or.inl (by decide)⟩,
    (correct_eq_curled_iff (by decide) (by decide)).1 _ (Or.inl (by decide))⟩

/-- The double quote in front of the expression is taken for a part of it: the opening mark has
moved the expression by one, and the closing mark has restored the length. -/
theorem correct_ne_curled_after_opening :
    let m : Marks := { singleOpening := text "ab", singleClosing := [] }
    let f := aroundName (text "'\"") (text "'")
    f.InBounds ∧ m.correct f = text "\x60ab\"$\x7bx\x7d\x60" ∧
      m.curled f = text "\x60ab“$\x7bx\x7d\x60" :=
  ⟨inBounds_aroundName _ _, by decide, by decide⟩

end Marks

end SmartQuotes
