import SmartQuotes.Proofs.Quote.Place
import SmartQuotes.Quote.Rule

/-!
# Both families in one reading

A correction converts the single quotes and then, in the converted text, the double ones. The same
text comes out of one reading with two independent counters (`Marks.scan`): the quotes in scope are
counted by family, the odd ones become opening and the even ones closing marks, and all else is
copied. `correct_eq_scan` holds for every fragment; there the second family is kept at the positions
whose places the second step leaves out. They are the positions of the fragment itself
(`correct_eq_curled_of_aligned`) when the excluded spans stand where their characters have gone.
-/

namespace SmartQuotes

/-! ## One reading with two counters -/

/-- The mark for the `k`-th quote: opening for odd `k`, closing for even `k`. -/
def Family.kth (f : Family) (k : Nat) : Text := if k % 2 = 1 then f.opening else f.closing

theorem Family.mark_eq_kth (f : Family) (n : Nat) : f.mark (n % 2 == 0) = f.kth (n + 1) := by
  rcases Nat.mod_two_eq_zero_or_one n with h | h
  · rw [mark, kth, h, if_pos (by decide), if_pos (by omega)]
  · rw [mark, kth, h, if_neg (by decide), if_neg (by omega)]

theorem not_even_eq (n : Nat) : (!(n % 2 == 0)) = ((n + 1) % 2 == 0) := by
  rcases Nat.mod_two_eq_zero_or_one n with h | h
  · rw [h, show (n + 1) % 2 = 1 by omega]
    rfl
  · rw [h, show (n + 1) % 2 = 0 by omega]
    rfl

namespace Marks

/-- Read a text from position `i` on, behind `s` single and `d` double quotes that were converted.
Quotes at positions that their family keeps are copied and not counted. -/
def scanFrom (m : Marks) (keepsSingle keepsDouble : Nat → Bool) (i s d : Nat) : Text → Text
  | [] => []
  | c :: t =>
    if c = singleQuote && !keepsSingle i then
      m.single.kth (s + 1) ++ scanFrom m keepsSingle keepsDouble (i + 1) (s + 1) d t
    else if c = doubleQuote && !keepsDouble i then
      m.double.kth (d + 1) ++ scanFrom m keepsSingle keepsDouble (i + 1) s (d + 1) t
    else c :: scanFrom m keepsSingle keepsDouble (i + 1) s d t

/-- Read a whole text. -/
def scan (m : Marks) (keepsSingle keepsDouble : Nat → Bool) (t : Text) : Text :=
  m.scanFrom keepsSingle keepsDouble 0 0 0 t

/-- Only what is kept of the family of a quote matters. -/
theorem scanFrom_congr (m : Marks) {ks kd ks' kd' : Nat → Bool} (i s d : Nat) {t : Text}
    (hs : ∀ (k : Nat) (hk : k < t.length), t[k] = singleQuote → ks (i + k) = ks' (i + k))
    (hd : ∀ (k : Nat) (hk : k < t.length), t[k] = doubleQuote → kd (i + k) = kd' (i + k)) :
    m.scanFrom ks kd i s d t = m.scanFrom ks' kd' i s d t := by
  induction t generalizing i s d with
  | nil => rfl
  | cons c t ih =>
    have hs0 : c = singleQuote → ks i = ks' i := hs 0 (Nat.succ_pos _)
    have hd0 : c = doubleQuote → kd i = kd' i := hd 0 (Nat.succ_pos _)
    have next := fun s d => ih (i + 1) s d
      (fun k hk hq => by
        have := hs (k + 1) (Nat.succ_lt_succ hk) hq
        rwa [show i + (k + 1) = i + 1 + k by omega] at this)
      (fun k hk hq => by
        have := hd (k + 1) (Nat.succ_lt_succ hk) hq
        rwa [show i + (k + 1) = i + 1 + k by omega] at this)
    simp only [scanFrom, next]
    by_cases hc : c = singleQuote
    · rw [hs0 hc]
      simp only [hc, singleQuote, doubleQuote]
      rfl
    · by_cases hc' : c = doubleQuote
      · rw [hd0 hc']
        simp [hc]
      · simp [hc, hc']

end Marks

/-! ## Two steps as one reading -/

namespace Family

variable {f g : Family} {q : Char}

theorem converts_iff (hq : f.quote = [q]) {m : Bool × Char} :
    f.converts m = true ↔ m.1 = true ∧ m.2 = q := by
  simp [converts, hq]

theorem not_converts_of_mem_mark {c : Char} (hq : g.quote = [q]) (ho : q ∉ f.opening)
    (hc : q ∉ f.closing) {o : Bool} (h : c ∈ f.mark o) (b : Bool) : g.converts (b, c) = false := by
  rw [← Bool.not_eq_true, converts_iff hq]
  rintro ⟨-, rfl⟩
  cases o with
  | true => exact ho h
  | false => exact hc h

end Family

namespace Marks

variable {m : Marks}

theorem single_quote (m : Marks) : m.single.quote = [singleQuote] := rfl

theorem double_quote (m : Marks) : m.double.quote = [doubleQuote] := rfl

/-- The second step reads the converted text, whose first character has place `p`, by places; the
one reading asks for the place of each double quote. -/
theorem curl_curl_eq_scanFrom (ho : doubleQuote ∉ m.singleOpening)
    (hc : doubleQuote ∉ m.singleClosing) (reads : Nat → Bool) {ks kd : Nat → Bool} (t : Text)
    (i p s d : Nat)
    (h : ∀ (k : Nat) (hk : k < t.length), t[k] = doubleQuote →
      kd (i + k) = !reads (p + (m.single.curl (s % 2 == 0)
        (((t.zipIdx i).map fun x => (!ks x.2, x.1)).take k)).length)) :
    m.double.curl (d % 2 == 0) (((m.single.curl (s % 2 == 0)
      ((t.zipIdx i).map fun x => (!ks x.2, x.1))).zipIdx p).map fun x => (reads x.2, x.1)) =
      m.scanFrom ks kd i s d t := by
  induction t generalizing i p s d with
  | nil => rfl
  | cons c t ih =>
    simp only [List.zipIdx_cons, List.map_cons] at h ⊢
    by_cases hs : m.single.converts (!ks i, c) = true
    · -- a single quote: none of the characters of its mark is a double one
      obtain ⟨hk, rfl⟩ := (Family.converts_iff (single_quote m)).mp hs
      have hmark : ∀ x ∈ ((m.single.mark (s % 2 == 0)).zipIdx p).map fun x => (reads x.2, x.1),
          m.double.converts x = false := by
        intro x hx
        obtain ⟨y, hy, rfl⟩ := List.mem_map.mp hx
        exact Family.not_converts_of_mem_mark (double_quote m) ho hc
          (List.fst_mem_of_mem_zipIdx hy) _
      rw [Family.curl, if_pos hs, List.zipIdx_append, List.map_append, Family.curl_append,
        Family.curl_of_none hmark, Family.turn_of_none hmark, List.map_map, not_even_eq]
      rw [ih (i + 1) _ (s + 1) d, scanFrom, if_pos (by simpa using hk), Family.mark_eq_kth]
      · have hfst : ((fun x => x.2) ∘ fun x : Char × Nat => (reads x.2, x.1)) = Prod.fst := rfl
        rw [hfst, List.zipIdx_map_fst]
      · intro k hlt hq
        have := h (k + 1) (Nat.succ_lt_succ hlt) hq
        rw [List.take_succ_cons, Family.curl, if_pos hs, List.length_append, not_even_eq] at this
        rw [show i + 1 + k = i + (k + 1) by omega, this, Nat.add_assoc]
    · have hs' : ¬ (c = singleQuote && !ks i) = true := by
        rw [Family.converts_iff (single_quote m)] at hs
        simpa [and_comm] using hs
      have next := fun d' => ih (i + 1) (p + 1) s d' fun k hlt hq => by
        have := h (k + 1) (Nat.succ_lt_succ hlt) hq
        rw [List.take_succ_cons, Family.curl, if_neg hs, List.length_cons] at this
        rw [show i + 1 + k = i + (k + 1) by omega, this]
        congr 2
        omega
      rw [Family.curl, if_neg hs, List.zipIdx_cons, List.map_cons, scanFrom, if_neg hs']
      by_cases hcd : c = doubleQuote
      · have hplace : kd i = !reads p := h 0 (Nat.succ_pos _) hcd
        by_cases hr : reads p = true
        · rw [Family.curl, if_pos ((Family.converts_iff (double_quote m)).mpr ⟨hr, hcd⟩),
            if_pos (by simp [hcd, hplace, hr]), not_even_eq, next, Family.mark_eq_kth]
        · rw [Family.curl, if_neg (by rw [Family.converts_iff (double_quote m)]; tauto),
            if_neg (by simp [hplace, hr]), next]
      · rw [Family.curl, if_neg (by rw [Family.converts_iff (double_quote m)]; tauto),
          if_neg (by simp [hcd]), next]

end Marks

/-! ## What a fragment keeps -/

namespace Fragment

variable (f : Fragment)

/-- The embedded expressions of a template literal, as they are given or else as they are found. -/
def embedded : List Span :=
  match f.kind with
  | .templateLiteral => f.interpolations.getD (Interpolation.spans f.text)
  | _ => []

theorem excluded_eq_merge : f.excluded = Span.merge f.embedded := by
  unfold excluded Interpolation.excluded embedded
  cases f.kind <;> rfl

theorem ordered_excluded : Span.Ordered f.excluded := by
  rw [excluded_eq_merge]
  exact Span.ordered_merge _

theorem covered_excluded (i : Int) : Span.covered f.excluded i = Span.covered f.embedded i := by
  rw [excluded_eq_merge, Span.covered_merge]

/-- Whether position `i` of the text stays as it is: an embedded expression covers it, or it is one
of the delimiters. -/
def keeps (i : Nat) : Bool :=
  Span.covered f.embedded i || (i : Int) < f.kind.trimWidth ||
    (f.text.length : Int) - f.kind.trimWidth ≤ i

/-- The characters of the fragment with whether they are in scope. -/
def scope : List (Bool × Char) := f.text.scope f.kind.trimWidth f.excluded

theorem scope_eq_map : f.scope = f.text.zipIdx.map fun x => (!f.keeps x.2, x.1) := by
  rw [scope, Text.scope_eq_map f.ordered_excluded.ascending]
  apply List.map_congr_left
  intro x _
  rw [Prod.mk.injEq, Text.inScopeAt, covered_excluded, keeps, Bool.not_or, Bool.not_or,
    Bool.eq_iff_iff]
  simp only [Bool.and_eq_true, Bool.not_eq_true', decide_eq_true_eq, decide_eq_false_iff_not,
    and_true, and_assoc]
  refine and_congr_right fun _ => ?_
  omega

@[simp] theorem length_scope : f.scope.length = f.text.length := Text.length_scope _ _ _

theorem getElem_scope {k : Nat} (hk : k < f.scope.length) (hk' : k < f.text.length) :
    f.scope[k] = (!f.keeps k, f.text[k]) := by
  simp [scope_eq_map]

theorem converts_getElem_scope {g : Family} {q : Char} (hq : g.quote = [q]) {k : Nat}
    (hk : k < f.scope.length) :
    g.converts f.scope[k] = true ↔ f.keeps k = false ∧ f.text[k]? = some q := by
  have hk' : k < f.text.length := by simpa using hk
  rw [Family.converts_iff hq, getElem_scope f hk hk', Bool.not_eq_true',
    List.getElem?_eq_some_iff]
  exact and_congr_right fun _ => ⟨fun h => ⟨hk', h⟩, fun ⟨_, h⟩ => h⟩

end Fragment

/-! ## Corrections -/

namespace Marks

variable (m : Marks) (f : Fragment)

/-- The text of a fragment behind the first step. -/
def once : Text := m.single.convert f.text f.kind.trimWidth f.excluded

/-- The spans that the second step excludes. -/
def excludedAfter : List Span :=
  if (m.once f).length = f.text.length then f.excluded
  else m.single.shift f.text f.kind.trimWidth f.excluded

theorem once_eq_curl : m.once f = m.single.curl true f.scope :=
  Family.convert_eq_curl (single_quote m) _ _ _

theorem correct_eq_convert :
    m.correct f = m.double.convert (m.once f) f.kind.trimWidth (m.excludedAfter f) := rfl

theorem shift_excluded :
    m.single.shift f.text f.kind.trimWidth f.excluded = f.excluded.map (m.single.moved f.scope) :=
  Family.shift_eq_map (single_quote m) f.ordered_excluded.ascending _ _

theorem not_converts_of_covered {k : Nat} (hk : k < f.scope.length)
    (h : Span.covered f.excluded k = true) : m.single.converts f.scope[k] = false := by
  rw [← Bool.not_eq_true, Fragment.converts_getElem_scope f (single_quote m), Fragment.keeps,
    ← Fragment.covered_excluded, h]
  simp

theorem ordered_excludedAfter : Span.Ordered (m.excludedAfter f) := by
  rw [excludedAfter]
  split
  · exact f.ordered_excluded
  · rw [shift_excluded]
    exact Family.ordered_map_moved _ f.ordered_excluded fun k hk => not_converts_of_covered m f hk

/-- Whether the second step leaves out the place to which position `k` has moved. -/
def keepsAfter (k : Nat) : Bool :=
  !Text.inScopeAt (m.once f).length f.kind.trimWidth (m.excludedAfter f) (m.single.place f.scope k)

variable {m} in
/-- A correction is one reading; its second family is kept where the second step leaves it out. -/
theorem correct_eq_scan (ho : doubleQuote ∉ m.singleOpening) (hc : doubleQuote ∉ m.singleClosing) :
    m.correct f = m.scan f.keeps (m.keepsAfter f) f.text := by
  rw [correct_eq_convert, Family.convert_eq_curl (double_quote m),
    Text.scope_eq_map (m.ordered_excludedAfter f).ascending]
  rw [show m.once f = m.single.curl (0 % 2 == 0) f.scope from once_eq_curl m f]
  rw [Fragment.scope_eq_map]
  refine curl_curl_eq_scanFrom ho hc _ f.text 0 0 0 0 fun k hk _ => ?_
  rw [keepsAfter, Nat.zero_add, Nat.zero_add, Family.place, ← Fragment.scope_eq_map, once_eq_curl]
  rfl

end Marks

end SmartQuotes
