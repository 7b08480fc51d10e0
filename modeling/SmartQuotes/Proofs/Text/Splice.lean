import SmartQuotes.Proofs.Text.Order
import SmartQuotes.Proofs.Text.Replacement

/-!
# Replacing as splicing

The text is replaced in one pass from the left to the right. The result is that of splicing the
chosen replacements into the text one at a time, the last one first, so that the places of those
that are still to come hold good. No replacement that is left out could be chosen in addition: it
starts inside a chosen one. Those that do not overlap are all chosen.
-/

namespace SmartQuotes.Replacement

variable {t : Text} {l : List Replacement}

/-- The replacement lies in the text; it may replace nothing. -/
def IsWithin (t : Text) (r : Replacement) : Prop :=
  0 ≤ r.start ∧ r.start ≤ r.stop ∧ r.stop ≤ t.length

/-- The first replacement stops before the second one starts. -/
def Precedes (r s : Replacement) : Prop := r.stop ≤ s.start

instance (t : Text) (r : Replacement) : Decidable (r.IsWithin t) :=
  inferInstanceAs (Decidable (0 ≤ r.start ∧ r.start ≤ r.stop ∧ r.stop ≤ t.length))

instance (r s : Replacement) : Decidable (r.Precedes s) :=
  inferInstanceAs (Decidable (r.stop ≤ s.start))

/-! ## Those that are left out -/

/-- The members of a sorted list that start before the last chosen one stops. -/
def leftOut (last : Int) : List Replacement → List Replacement
  | [] => []
  | r :: rest => if r.start < last then r :: leftOut last rest else leftOut r.stop rest

/-- Each replacement is either chosen or left out. -/
theorem perm_choose_append_leftOut (last : Int) (l : List Replacement) :
    (choose last l ++ leftOut last l).Perm l := by
  induction l generalizing last with
  | nil => exact .nil
  | cons r rest ih =>
    rw [choose, leftOut]
    by_cases h : r.start < last
    · rw [if_pos h, if_pos h]
      exact List.perm_middle.trans ((ih last).cons r)
    · rw [if_neg h, if_neg h]
      exact (ih r.stop).cons r

theorem mem_of_mem_leftOut {last : Int} {r : Replacement} (h : r ∈ leftOut last l) : r ∈ l :=
  (perm_choose_append_leftOut last l).subset (List.mem_append_right _ h)

/-- What is left out starts inside something that was chosen before it. -/
theorem exists_of_mem_leftOut {last : Int} {r : Replacement}
    (hsorted : l.Pairwise fun r s => r.start < s.start ∨ (r.start = s.start ∧ r.stop ≤ s.stop))
    (h : r ∈ leftOut last l) :
    r.start < last ∨ ∃ c ∈ choose last l,
      (c.start < r.start ∨ (c.start = r.start ∧ c.stop ≤ r.stop)) ∧ r.start < c.stop := by
  induction l generalizing last with
  | nil => cases h
  | cons x rest ih =>
    obtain ⟨hx, hrest⟩ := List.pairwise_cons.mp hsorted
    rw [leftOut] at h
    rw [choose]
    by_cases hstart : x.start < last
    · rw [if_pos hstart] at h ⊢
      rcases List.mem_cons.mp h with rfl | h
      · exact Or.inl hstart
      · exact ih hrest h
    · rw [if_neg hstart] at h ⊢
      right
      rcases ih hrest h with hinside | ⟨c, hc, hcr⟩
      · exact ⟨x, List.mem_cons_self, hx r (mem_of_mem_leftOut h), hinside⟩
      · exact ⟨c, List.mem_cons_of_mem x hc, hcr⟩

/-! ## Replacements that precede one another -/

theorem Apart.pairwise {last : Int} (h : Apart last l) (hle : ∀ r ∈ l, r.start ≤ r.stop) :
    l.Pairwise Precedes := by
  induction l generalizing last with
  | nil => exact .nil
  | cons r rest ih =>
    have hrest : ∀ s ∈ rest, s.start ≤ s.stop := fun s hs => hle s (List.mem_cons_of_mem r hs)
    exact List.pairwise_cons.mpr ⟨h.2.le_start hrest, ih h.2 hrest⟩

/-- If each replacement precedes those behind it, then all of them are chosen. -/
theorem choose_eq_self {last : Int} (h : l.Pairwise Precedes) (hlast : ∀ r ∈ l, last ≤ r.start) :
    choose last l = l := by
  induction l generalizing last with
  | nil => rfl
  | cons r rest ih =>
    obtain ⟨hr, hrest⟩ := List.pairwise_cons.mp h
    have hstart := hlast r List.mem_cons_self
    rw [choose, if_neg (by omega), ih hrest hr]

/-- Of replacements in order that do not overlap each precedes those behind it. -/
theorem pairwise_precedes_of_sorted (hle : ∀ r ∈ l, r.start ≤ r.stop)
    (hsorted : l.Pairwise fun r s => r.start < s.start ∨ (r.start = s.start ∧ r.stop ≤ s.stop))
    (h : l.Pairwise fun r s => r.Precedes s ∨ s.Precedes r) : l.Pairwise Precedes := by
  refine (hsorted.and h).imp_of_mem ?_
  rintro r s - hs ⟨hrs, hprecedes | hprecedes⟩
  · exact hprecedes
  · -- the second one is empty, and the first one stops where it stands
    have hs := hle s hs
    rw [Precedes] at hprecedes ⊢
    omega

/-- A replacement that starts inside a chosen one cannot be chosen in addition. -/
theorem not_pairwise_of_perm {chosen rs : List Replacement} {r c : Replacement} (hc : c ∈ chosen)
    (hle : r.start ≤ r.stop)
    (hcr : c.start < r.start ∨ (c.start = r.start ∧ c.stop ≤ r.stop)) (hinside : r.start < c.stop)
    (hperm : rs.Perm (r :: chosen)) : ¬ rs.Pairwise Precedes := by
  intro h
  have heither : rs.Pairwise fun r s => r.Precedes s ∨ s.Precedes r := h.imp Or.inl
  have hr := (List.pairwise_cons.mp ((hperm.pairwise_iff Or.symm).mp heither)).1 c hc
  rw [Precedes, Precedes] at hr
  omega

/-! ## Splicing -/

/-- Put the replacement in its place and leave everything else as it is. -/
def splice (r : Replacement) (t : Text) : Text :=
  t.take r.start.toNat ++ r.text ++ t.drop r.stop.toNat

/-- The parts of the text, from `last` on, in front of, between and behind the replacements. -/
def gaps (t : Text) (last : Int) : List Replacement → List Text
  | [] => [t.slice last t.length]
  | r :: rest => t.slice last r.start :: gaps t r.stop rest

/-- The gaps with the given texts between them. -/
def fill : List Text → List Text → Text
  | gap :: gaps, part :: parts => gap ++ part ++ fill gaps parts
  | gaps, _ => gaps.flatten

@[simp] theorem fill_nil (gaps : List Text) : fill gaps [] = gaps.flatten := by
  cases gaps <;> rfl

theorem weave_eq_fill (t : Text) (last : Int) (l : List Replacement) :
    weave t last l = fill (gaps t last l) (l.map Replacement.text) := by
  induction l generalizing last with
  | nil => rw [weave, gaps, List.map_nil, fill_nil, List.flatten_singleton]
  | cons r rest ih => rw [weave, gaps, List.map_cons, fill, ih]

/-- The ends of a replacement in the text as offsets, and those behind a place that it starts behind. -/
theorem exists_ends {last : Nat} {r : Replacement} (hr : r.IsWithin t) (hlast : last ≤ r.start) :
    ∃ a b : Nat, r.start = a ∧ r.stop = b ∧ last ≤ a ∧ a ≤ b ∧ b ≤ t.length := by
  obtain ⟨hstart, hle, hstop⟩ := hr
  exact ⟨r.start.toNat, r.stop.toNat, by omega, by omega, by omega, by omega, by omega⟩

/-- A text consists of the gaps and of what stands in the places of the replacements. -/
theorem fill_gaps {last : Nat} (hapart : Apart last l) (hin : ∀ r ∈ l, r.IsWithin t) :
    fill (gaps t last l) (l.map fun r => t.slice r.start r.stop) = t.drop last := by
  induction l generalizing last with
  | nil =>
    rw [gaps, List.map_nil, fill_nil, List.flatten_singleton, Text.slice_natCast, Text.extract,
      List.take_length]
  | cons r rest ih =>
    obtain ⟨hr, hrest⟩ := List.forall_mem_cons.mp hin
    obtain ⟨a, b, ha, hb, hlast, hab, -⟩ := exists_ends hr hapart.1
    have hbehind := hapart.2
    rw [hb] at hbehind
    rw [gaps, List.map_cons, fill, ha, hb, ih hbehind hrest, List.append_assoc,
      Text.slice_append_drop hab, Text.slice_append_drop hlast]

/-- Splicing one after the other, from the last one to the first, gives the replaced text. -/
theorem foldr_splice_eq_weave {last : Nat} (hapart : Apart last l) (hin : ∀ r ∈ l, r.IsWithin t) :
    l.foldr splice t = t.take last ++ weave t last l := by
  induction l generalizing last with
  | nil =>
    rw [List.foldr_nil, weave, Text.slice_natCast, Text.extract, List.take_length,
      List.take_append_drop]
  | cons r rest ih =>
    obtain ⟨hr, hrest⟩ := List.forall_mem_cons.mp hin
    obtain ⟨a, b, ha, hb, hlast, hab, hstop⟩ := exists_ends hr hapart.1
    have hbehind := hapart.2
    rw [hb] at hbehind
    have hlength : (t.take b).length = b := by
      rw [List.length_take, Nat.min_eq_left hstop]
    -- behind the replacement nothing but its own place moves
    have hfront : (t.take b ++ weave t b rest).take a = t.take a := by
      rw [List.take_append_of_le_length (by omega), List.take_take, Nat.min_eq_left hab]
    have hback : (t.take b ++ weave t b rest).drop b = weave t b rest := by
      rw [List.drop_append_of_le_length (by omega), List.drop_eq_nil_of_le (by omega),
        List.nil_append]
    have hgap : t.take last ++ t.slice last a = t.take a := by
      have happend := List.take_append_drop last (t.take a)
      rwa [List.take_take, Nat.min_eq_left hlast, ← Text.extract, ← Text.slice_natCast] at happend
    rw [List.foldr_cons, ih hbehind hrest, splice, weave, ha, hb, Int.toNat_natCast,
      Int.toNat_natCast, hfront, hback, ← hgap]
    simp only [List.append_assoc]

/-! ## Replacing all at once -/

/-- Of replacements in the text, given in any order, some are chosen from the list that is sorted by
start and then by stop. Each chosen one precedes those behind it, and each one that is left out
starts inside a chosen one, so that it cannot be chosen in addition. The result is the text with the
chosen ones spliced in, the last one first: the gaps stay, and the parts between them are replaced.
At least one is chosen if there are any, and those that do not overlap are all chosen. If the spans
tell the replacements apart, then it makes no difference in which order they are given. -/
theorem applyAll_splices (t : Text) (l : List Replacement) (hin : ∀ r ∈ l, r.IsWithin t) :
    ∃ sorted chosen rest : List Replacement,
      InOrder Replacement.start Replacement.stop l sorted ∧ chosen.Sublist sorted ∧
      (chosen ++ rest).Perm l ∧ chosen.Pairwise Precedes ∧
      (∀ r ∈ rest, (∃ c ∈ chosen, c.start ≤ r.start ∧ r.start < c.stop) ∧
        ∀ rs : List Replacement, rs.Perm (r :: chosen) → ¬ rs.Pairwise Precedes) ∧
      (applyAll t l).1 = chosen.foldr splice t ∧
      t = fill (gaps t 0 chosen) (chosen.map fun r => t.slice r.start r.stop) ∧
      (applyAll t l).1 = fill (gaps t 0 chosen) (chosen.map Replacement.text) ∧
      (applyAll t l).2 = chosen.length ∧ (l ≠ [] → 1 ≤ (applyAll t l).2) ∧
      (l.Pairwise (fun r s => r.Precedes s ∨ s.Precedes r) →
        chosen = sorted ∧ (applyAll t l).2 = l.length) ∧
      ((∀ r ∈ l, ∀ s ∈ l, r.start = s.start → r.stop = s.stop → r = s) →
        ∀ l', l'.Perm l → applyAll t l' = applyAll t l) := by
  have horder : InOrder Replacement.start Replacement.stop l (sortBy le l) :=
    inOrder_sortBy (fun _ _ => rfl) l
  have hsorted : ∀ r ∈ sortBy le l, r.IsWithin t := fun r hr => hin r (mem_sortBy.mp hr)
  have hsublist := choose_sublist 0 (sortBy le l)
  have hchosen : ∀ r ∈ choose 0 (sortBy le l), r.IsWithin t := fun r hr =>
    hsorted r (hsublist.subset hr)
  have hapart : Apart (0 : Nat) (choose 0 (sortBy le l)) := apart_choose 0 (sortBy le l)
  refine ⟨sortBy le l, choose 0 (sortBy le l), leftOut 0 (sortBy le l), horder, hsublist,
    (perm_choose_append_leftOut 0 _).trans horder.perm, hapart.pairwise fun r hr => (hchosen r hr).2.1,
    fun r hr => ?_, ?_, ?_, weave_eq_fill t 0 _, rfl, fun hne => ?_, fun hprecede => ?_,
    fun hplace l' hperm => ?_⟩
  · have hr' := hsorted r (mem_of_mem_leftOut hr)
    rcases exists_of_mem_leftOut horder.pairwise hr with hneg | ⟨c, hc, hcr, hinside⟩
    · exact absurd hr'.1 (by omega)
    · exact ⟨⟨c, hc, by omega, hinside⟩, fun rs => not_pairwise_of_perm hc hr'.2.1 hcr hinside⟩
  · exact (foldr_splice_eq_weave hapart hchosen).symm
  · exact (fill_gaps hapart hchosen).symm
  · apply List.length_pos_of_ne_nil
    intro hnil
    have hempty := eq_nil_of_choose_eq_nil (fun r hr => (hsorted r hr).1) hnil
    exact hne (List.perm_nil.mp (hempty ▸ horder.perm.symm))
  · have hall := pairwise_precedes_of_sorted (fun r hr => (hsorted r hr).2.1) horder.pairwise
      ((horder.perm.pairwise_iff Or.symm).mpr hprecede)
    have hself := choose_eq_self hall fun r hr => (hsorted r hr).1
    refine ⟨hself, ?_⟩
    rw [applyAll, hself, length_sortBy]
  · have horder' : InOrder Replacement.start Replacement.stop l' (sortBy le l') :=
      inOrder_sortBy (fun _ _ => rfl) l'
    rw [applyAll, applyAll, horder.eq_of_perm horder' hperm hplace]

/-- Five replacements, two of them with one span, one that overlaps both of its neighbours and an
empty one: three are chosen. Without the two that are left out all are chosen, in any order. -/
theorem applyAll_splices_of_five :
    let t := SmartQuotes.text "abcdef"
    let left : Replacement := ⟨0, 2, SmartQuotes.text "L"⟩
    let again : Replacement := ⟨0, 2, SmartQuotes.text "A"⟩
    let across : Replacement := ⟨1, 4, SmartQuotes.text "X"⟩
    let empty : Replacement := ⟨2, 2, SmartQuotes.text "E"⟩
    let right : Replacement := ⟨3, 5, SmartQuotes.text "R"⟩
    let l := [right, left, across, empty, again]
    let l' := [empty, right, left]
    (∀ r ∈ l, r.IsWithin t) ∧ l ≠ [] ∧ applyAll t l = (SmartQuotes.text "LEcRf", 3) ∧
      (∃ chosen rest : List Replacement, (chosen ++ rest).Perm l ∧ chosen.Pairwise Precedes ∧
        (∀ r ∈ rest, ∃ c ∈ chosen, c.start ≤ r.start ∧ r.start < c.stop) ∧
        chosen.foldr splice t = SmartQuotes.text "LEcRf" ∧ chosen.length = 3) ∧
      l'.Pairwise (fun r s => r.Precedes s ∨ s.Precedes r) ∧
      (∀ r ∈ l', ∀ s ∈ l', r.start = s.start → r.stop = s.stop → r = s) ∧
      (applyAll t l').2 = l'.length ∧ applyAll t l'.reverse = applyAll t l' := by
  intro t left again across empty right l l'
  have hin : ∀ r ∈ l, r.IsWithin t := by decide
  have hin' : ∀ r ∈ l', r.IsWithin t := by decide
  have hvalue : applyAll t l = (SmartQuotes.text "LEcRf", 3) := by decide
  have hprecede : l'.Pairwise fun r s => r.Precedes s ∨ s.Precedes r := by decide
  have hplace : ∀ r ∈ l', ∀ s ∈ l', r.start = s.start → r.stop = s.stop → r = s := by decide
  obtain ⟨_, chosen, rest, -, -, hperm, hpairwise, hrest, hsplice, -, -, hcount, -⟩ :=
    applyAll_splices t l hin
  obtain ⟨_, _, _, -, -, -, -, -, -, -, -, -, -, hall, horders⟩ := applyAll_splices t l' hin'
  rw [hvalue] at hsplice hcount
  exact ⟨hin, List.cons_ne_nil _ _, hvalue,
    ⟨chosen, rest, hperm, hpairwise, fun r hr => (hrest r hr).1, hsplice.symm, hcount.symm⟩,
    hprecede, hplace, (hall hprecede).2, horders hplace _ l'.reverse_perm⟩

end SmartQuotes.Replacement
