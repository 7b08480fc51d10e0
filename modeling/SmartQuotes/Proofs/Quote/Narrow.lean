import SmartQuotes.Proofs.Quote.Rewrite

/-!
# Marks of one character

Marks of one character leave every character at its position. If none of them is a straight quote,
then a correction is one reading: what the fragment keeps is copied, what becomes of a quote in scope
depends on the characters in scope alone, and no straight quote stays in scope.
-/

namespace SmartQuotes.Marks

/-- Each of the marks is one character that is not a straight quote. -/
def Narrow (m : Marks) : Prop :=
  ∀ mark ∈ [m.singleOpening, m.singleClosing, m.doubleOpening, m.doubleClosing],
    mark.length = 1 ∧ ∀ c ∈ mark, ¬ IsStraight c

instance (m : Marks) : Decidable m.Narrow :=
  @List.decidableBAll _ _
    (fun mark => @instDecidableAnd _ _ _ (List.decidableBAll (fun c => ¬ IsStraight c) mark)) _

variable {m : Marks} {f g : Fragment}

theorem Narrow.quoteFree (hm : m.Narrow) : m.QuoteFree := fun mark hmark => (hm mark hmark).2

theorem Replaces.exists_eq_singleton {q : Char} {mark : Text} (h : m.Replaces q mark)
    (hm : m.Narrow) : ∃ c, mark = [c] ∧ ¬ IsStraight c := by
  have hlength : mark.length = 1 := by
    rcases h with ⟨-, rfl | rfl⟩ | ⟨-, rfl | rfl⟩ <;> exact (hm _ (by simp)).1
  obtain ⟨c, rfl⟩ := List.length_eq_one_iff.mp hlength
  exact ⟨c, rfl, h.not_isStraight hm.quoteFree (List.mem_singleton_self c)⟩

/-! ## Rewritings -/

namespace Rewrites

variable {i k : Nat} {S : List Nat} {t u : Text}

theorem length_eq (hm : m.Narrow) (h : m.Rewrites i S t u) : u.length = t.length := by
  induction h with
  | nil => rfl
  | keep c _ ih => rw [List.length_cons, List.length_cons, ih]
  | curl hmark _ ih =>
    obtain ⟨c, rfl, -⟩ := hmark.exists_eq_singleton hm
    rw [List.singleton_append, List.length_cons, List.length_cons, ih]

/-- What is not rewritten is copied. -/
theorem getElem?_eq_of_not_mem (hm : m.Narrow) (h : m.Rewrites i S t u) (hk : i + k ∉ S) :
    u[k]? = t[k]? := by
  induction h generalizing k with
  | nil => rfl
  | keep c _ ih =>
    cases k with
    | zero => rfl
    | succ k =>
      rw [List.getElem?_cons_succ, List.getElem?_cons_succ]
      exact ih (by rwa [Nat.add_right_comm])
  | curl hmark _ ih =>
    obtain ⟨c, rfl, -⟩ := hmark.exists_eq_singleton hm
    rw [List.mem_cons, not_or] at hk
    cases k with
    | zero => exact absurd rfl hk.1
    | succ k =>
      rw [List.singleton_append, List.getElem?_cons_succ, List.getElem?_cons_succ]
      exact ih (by rw [Nat.add_right_comm]; exact hk.2)

/-- What is rewritten is no longer a straight quote. -/
theorem not_isStraight_of_mem (hm : m.Narrow) (h : m.Rewrites i S t u) (hk : i + k ∈ S) {c : Char}
    (hc : u[k]? = some c) : ¬ IsStraight c := by
  induction h generalizing k with
  | nil => cases hk
  | keep a h ih =>
    cases k with
    | zero =>
      have := (h.isStraight_of_mem hk).1
      omega
    | succ k =>
      rw [List.getElem?_cons_succ] at hc
      exact ih (by rwa [Nat.add_right_comm]) hc
  | curl hmark h ih =>
    obtain ⟨a, rfl, ha⟩ := hmark.exists_eq_singleton hm
    cases k with
    | zero =>
      cases hc
      exact ha
    | succ k =>
      rw [List.singleton_append, List.getElem?_cons_succ] at hc
      refine ih ?_ hc
      rcases List.mem_cons.mp hk with hk | hk
      · omega
      · rwa [Nat.add_right_comm]

end Rewrites

/-! ## Readings -/

/-- What becomes of a character in scope depends on the characters in scope. -/
theorem getElem?_scanFrom_congr (hm : m.Narrow) {keeps : Nat → Bool} {i k : Nat} (s d : Nat)
    {t u : Text} (h : ∀ k, keeps (i + k) = false → t[k]? = u[k]?) (hlength : t.length = u.length)
    (hk : keeps (i + k) = false) :
    (m.scanFrom keeps keeps i s d t)[k]? = (m.scanFrom keeps keeps i s d u)[k]? := by
  induction t generalizing i k s d u with
  | nil =>
    rw [List.length_eq_zero_iff.mp hlength.symm]
  | cons a t ih =>
    cases u with
    | nil => cases hlength
    | cons b u =>
      have next : ∀ (s d k : Nat), keeps (i + (k + 1)) = false →
          (m.scanFrom keeps keeps (i + 1) s d t)[k]? =
            (m.scanFrom keeps keeps (i + 1) s d u)[k]? := by
        intro s d k hk
        refine ih s d (fun k hk => ?_) (Nat.succ.inj hlength) ?_
        · rw [Nat.add_right_comm] at hk
          exact h (k + 1) hk
        · rwa [Nat.add_right_comm]
      rw [scanFrom, scanFrom]
      by_cases hi : keeps i = true
      · -- both texts are copied here, and the position is a later one
        simp only [hi, Bool.not_true, Bool.and_false, Bool.false_eq_true, if_false]
        cases k with
        | zero => rw [Nat.add_zero, hi] at hk; cases hk
        | succ k => exact next s d k hk
      · obtain rfl : a = b := Option.some.inj (h 0 (by simpa using hi))
        obtain ⟨x, hx, -⟩ := (m.replaces_kth_single (s + 1)).exists_eq_singleton hm
        obtain ⟨y, hy, -⟩ := (m.replaces_kth_double (d + 1)).exists_eq_singleton hm
        rw [hx, hy, List.singleton_append, List.singleton_append, List.singleton_append,
          List.singleton_append]
        cases k with
        | zero => split <;> [rfl; split <;> rfl]
        | succ k =>
          split
          · exact next (s + 1) d k hk
          · split
            · exact next s (d + 1) k hk
            · exact next s d k hk

/-! ## Fragments -/

/-- One reading rewrites the straight quotes in scope. -/
theorem exists_rewrites_curled (m : Marks) (f : Fragment) :
    ∃ S, m.Rewrites 0 S f.text (m.curled f) ∧
      ∀ k, k ∈ S ↔ ∃ c, f.text[k]? = some c ∧ IsStraight c ∧ f.keeps k = false := by
  obtain ⟨S, hS, hmem⟩ := m.exists_rewrites_scanFrom f.keeps f.keeps 0 0 0 f.text
  refine ⟨S, hS, fun k => ?_⟩
  rw [hmem, Nat.sub_zero]
  simp only [Nat.zero_le, true_and, RewritesAt, ← or_and_right]
  rfl

theorem length_curled (hm : m.Narrow) : (m.curled f).length = f.text.length := by
  obtain ⟨S, hS, -⟩ := m.exists_rewrites_curled f
  exact hS.length_eq hm

theorem getElem?_curled_of_keeps (hm : m.Narrow) {k : Nat} (h : f.keeps k = true) :
    (m.curled f)[k]? = f.text[k]? := by
  obtain ⟨S, hS, hmem⟩ := m.exists_rewrites_curled f
  refine hS.getElem?_eq_of_not_mem hm ?_
  rw [Nat.zero_add, hmem]
  rintro ⟨c, -, -, hkeeps⟩
  rw [h] at hkeeps
  cases hkeeps

/-- No straight quote stays in scope. -/
theorem not_isStraight_of_getElem?_curled (hm : m.Narrow) {k : Nat} {c : Char}
    (h : f.keeps k = false) (hc : (m.curled f)[k]? = some c) : ¬ IsStraight c := by
  obtain ⟨S, hS, hmem⟩ := m.exists_rewrites_curled f
  by_cases hk : k ∈ S
  · refine hS.not_isStraight_of_mem hm ?_ hc
    rwa [Nat.zero_add]
  · rw [hS.getElem?_eq_of_not_mem hm (by rwa [Nat.zero_add])] at hc
    exact fun hstraight => hk ((hmem k).mpr ⟨c, hc, hstraight, h⟩)

theorem curled_eq_of_not_holds (h : f.holdsStraightQuote = false) : m.curled f = f.text := by
  obtain ⟨S, hS, hmem⟩ := m.exists_rewrites_curled f
  have hnil : S = [] := by
    rw [List.eq_nil_iff_forall_not_mem]
    intro k hk
    rw [Fragment.holdsStraightQuote_iff.mpr ⟨k, (hmem k).mp hk⟩] at h
    cases h
  subst hnil
  exact hS.eq_of_nil

theorem getElem?_curled_congr (hm : m.Narrow) (hkeeps : g.keeps = f.keeps)
    (hlength : g.text.length = f.text.length)
    (h : ∀ k, f.keeps k = false → g.text[k]? = f.text[k]?) {k : Nat} (hk : f.keeps k = false) :
    (m.curled g)[k]? = (m.curled f)[k]? := by
  rw [curled, curled, scan, scan, hkeeps]
  refine getElem?_scanFrom_congr hm 0 0 (fun k hk => h k ?_) hlength ?_
  · rwa [Nat.zero_add] at hk
  · rwa [Nat.zero_add]

/-- With marks of one character a correction is one reading. -/
theorem Narrow.correct_eq_curled (hm : m.Narrow) (f : Fragment) : m.correct f = m.curled f := by
  obtain ⟨ho, hc⟩ := hm.quoteFree.double_not_mem
  refine correct_eq_curled_of_aligned ho hc (aligned_of_not_cancels ?_)
  have hopening : m.single.opening.length = 1 := (hm m.singleOpening (by simp)).1
  have hclosing : m.single.closing.length = 1 := (hm m.singleClosing (by simp)).1
  rw [Family.Cancels, hopening, hclosing]
  decide

end SmartQuotes.Marks
