import SmartQuotes.Proofs.Text.Slice
import SmartQuotes.Text.Replacement

/-!
# Replacements that are applied

Of a list of replacements those are applied of which none starts in front of the place where the one
before it stops. Of a list that is not empty at least one is applied, and nothing is changed where
none is. If any two of them are apart or one in the other, then the outermost ones are applied.
-/

namespace SmartQuotes.Replacement

/-- No replacement starts in front of `last`, or in front of the stop of the one before it. -/
def Apart (last : Int) : List Replacement → Prop
  | [] => True
  | r :: rest => last ≤ r.start ∧ Apart r.stop rest

theorem apart_choose (last : Int) (l : List Replacement) : Apart last (choose last l) := by
  induction l generalizing last with
  | nil => trivial
  | cons r rest ih =>
    rw [choose]
    split
    · exact ih last
    · exact ⟨by omega, ih r.stop⟩

theorem choose_sublist (last : Int) (l : List Replacement) : (choose last l).Sublist l := by
  induction l generalizing last with
  | nil => exact .slnil
  | cons r rest ih =>
    rw [choose]
    split
    · exact .cons r (ih last)
    · exact .cons_cons r (ih r.stop)

/-- Of replacements in the text at least one is applied. -/
theorem eq_nil_of_choose_eq_nil {last : Int} {l : List Replacement}
    (hl : ∀ r ∈ l, last ≤ r.start) (h : choose last l = []) : l = [] := by
  cases l with
  | nil => rfl
  | cons r rest =>
    rw [choose, if_neg (by have := hl r List.mem_cons_self; omega)] at h
    cases h

theorem Apart.le_start {last : Int} {l : List Replacement} (h : Apart last l)
    (hle : ∀ r ∈ l, r.start ≤ r.stop) : ∀ r ∈ l, last ≤ r.start := by
  induction l generalizing last with
  | nil => exact nofun
  | cons r rest ih =>
    intro s hs
    rcases List.mem_cons.mp hs with rfl | hs
    · exact h.1
    · have hrest := ih h.2 (fun s hs => hle s (List.mem_cons_of_mem _ hs)) s hs
      have := hle r List.mem_cons_self
      have := h.1
      omega

/-- Of replacements that are apart or nested those are applied that stand in no other one. -/
theorem mem_choose_iff {last : Int} {l : List Replacement}
    (hsorted : l.Pairwise fun r s => r.start < s.start)
    (hnested : l.Pairwise fun r s => r.stop ≤ s.start ∨ s.stop ≤ r.stop)
    (hlast : ∀ r ∈ l, last ≤ r.start ∨ r.stop ≤ last) {r : Replacement} :
    r ∈ choose last l ↔
      r ∈ l ∧ last ≤ r.start ∧ ∀ s ∈ l, s.start < r.start → s.stop ≤ r.start := by
  induction l generalizing last with
  | nil => simp [choose]
  | cons x rest ih =>
    obtain ⟨hx, hsorted⟩ := List.pairwise_cons.mp hsorted
    obtain ⟨hxn, hnested⟩ := List.pairwise_cons.mp hnested
    obtain ⟨hxl, hrest⟩ := List.forall_mem_cons.mp hlast
    rw [choose, List.forall_mem_cons, List.mem_cons]
    by_cases hstart : x.start < last
    · -- the first one stands in the one that was applied before
      rw [if_pos hstart, ih hsorted hnested hrest]
      constructor
      · rintro ⟨hmem, hle, hout⟩
        exact ⟨Or.inr hmem, hle, fun _ => by omega, hout⟩
      · rintro ⟨rfl | hmem, hle, -, hout⟩
        · omega
        · exact ⟨hmem, hle, hout⟩
    · rw [if_neg hstart, List.mem_cons, ih hsorted hnested hxn]
      constructor
      · rintro (rfl | ⟨hmem, hle, hout⟩)
        · refine ⟨Or.inl rfl, by omega, fun h => by omega, fun s hs h => ?_⟩
          have := hx s hs
          omega
        · have := hx r hmem
          exact ⟨Or.inr hmem, by omega, fun _ => hle, hout⟩
      · rintro ⟨rfl | hmem, hle, hxr, hout⟩
        · exact Or.inl rfl
        · exact Or.inr ⟨hmem, hxr (hx r hmem), hout⟩

/-- The replaced text is known from the parts that are put in and from the characters outside. -/
theorem weave_eq_drop {t u : Text} {l : List Replacement} {last : Nat} (hapart : Apart last l)
    (hin : ∀ r ∈ l, r.start ≤ r.stop ∧ u.slice r.start r.stop = r.text)
    (hout : ∀ k : Nat, last ≤ k → (∀ r ∈ l, ¬ (r.start ≤ k ∧ k < r.stop)) → u[k]? = t[k]?) :
    weave t last l = u.drop last := by
  induction l generalizing last with
  | nil =>
    rw [weave, Text.slice_natCast]
    apply List.ext_getElem?
    intro j
    rw [Text.getElem?_extract, List.getElem?_drop, hout (last + j) (by omega) nofun]
    split
    · rfl
    · rw [List.getElem?_eq_none (by omega)]
  | cons r rest ih =>
    obtain ⟨⟨hle, htext⟩, hin⟩ := List.forall_mem_cons.mp hin
    obtain ⟨hstart, hrest⟩ := hapart
    obtain ⟨a, ha⟩ := Int.eq_ofNat_of_zero_le (a := r.start) (by omega)
    obtain ⟨b, hb⟩ := Int.eq_ofNat_of_zero_le (a := r.stop) (by omega)
    have hbehind := hrest.le_start fun s hs => (hin s hs).1
    rw [weave, ← htext]
    rw [ha, hb] at hle ⊢
    rw [ha] at hstart
    rw [hb] at hrest hbehind
    have hfront : t.slice last a = u.slice last a := by
      rw [Text.slice_natCast, Text.slice_natCast]
      apply List.ext_getElem?
      intro j
      rw [Text.getElem?_extract, Text.getElem?_extract]
      split
      · refine (hout (last + j) (by omega) ?_).symm
        rw [List.forall_mem_cons]
        refine ⟨by omega, fun s hs => ?_⟩
        have := hbehind s hs
        omega
      · rfl
    have hrest : weave t b rest = u.drop b := by
      refine ih hrest hin fun k hk hno => hout k (by omega) ?_
      rw [List.forall_mem_cons]
      exact ⟨by omega, hno⟩
    rw [hfront, hrest, List.append_assoc, Text.slice_append_drop (by omega),
      Text.slice_append_drop (by omega)]

theorem weave_nil (t : Text) : weave t 0 [] = t := by
  have hslice : t.slice 0 t.length = t.extract 0 t.length := Text.slice_natCast 0 t.length
  rw [weave, hslice, Text.extract, List.take_length, List.drop_zero]

end SmartQuotes.Replacement
