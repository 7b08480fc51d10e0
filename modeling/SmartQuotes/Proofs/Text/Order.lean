import Mathlib.Data.List.Sort
import SmartQuotes.Text.Replacement
import SmartQuotes.Text.Span

/-!
# Lists put in order

`sortBy` orders a list by insertion. A sorted list holds what the given one holds, as often, and
for a total and transitive order it is increasing. The orders by start and then by stop are of that
kind. They keep members that have the same place as they follow one another, and there is one list
only that does so (`InOrder`).
-/

namespace SmartQuotes

/-! ## Sorting by insertion -/

theorem insertBy_eq_orderedInsert {α : Type} (le : α → α → Bool) (x : α) (l : List α) :
    insertBy le x l = l.orderedInsert (fun a b => le a b = true) x := by
  induction l with
  | nil => rfl
  | cons y ys ih => simp only [insertBy, List.orderedInsert_cons, ih]

theorem sortBy_eq_insertionSort {α : Type} (le : α → α → Bool) (l : List α) :
    sortBy le l = l.insertionSort (fun a b => le a b = true) := by
  induction l with
  | nil => rfl
  | cons x xs ih => rw [sortBy, insertBy_eq_orderedInsert, ih, List.insertionSort_cons]

theorem perm_sortBy {α : Type} (le : α → α → Bool) (l : List α) : (sortBy le l).Perm l := by
  rw [sortBy_eq_insertionSort]
  exact List.perm_insertionSort _ l

@[simp] theorem mem_sortBy {α : Type} {le : α → α → Bool} {x : α} {l : List α} :
    x ∈ sortBy le l ↔ x ∈ l := (perm_sortBy le l).mem_iff

@[simp] theorem length_sortBy {α : Type} (le : α → α → Bool) (l : List α) :
    (sortBy le l).length = l.length := (perm_sortBy le l).length_eq

/-- A list in order is left as it is. -/
theorem sortBy_eq_self {α : Type} {le : α → α → Bool} {l : List α}
    (h : l.Pairwise fun a b => le a b = true) : sortBy le l = l := by
  rw [sortBy_eq_insertionSort]
  exact h.insertionSort_eq

theorem pairwise_sortBy {α : Type} {le : α → α → Bool}
    (total : ∀ a b, le a b = true ∨ le b a = true)
    (trans : ∀ a b c, le a b = true → le b c = true → le a c = true) (l : List α) :
    (sortBy le l).Pairwise (fun a b => le a b = true) := by
  have : Std.Total (fun a b => le a b = true) := ⟨total⟩
  have : IsTrans α (fun a b => le a b = true) := ⟨trans⟩
  rw [sortBy_eq_insertionSort]
  exact List.pairwise_insertionSort _ l

/-! ## The order by start, then by stop -/

/-- A list sorted by start and then by stop is increasing in that order. -/
theorem pairwise_sortBy_of_place {α : Type} (start stop : α → Int) {le : α → α → Bool}
    (hle : ∀ a b, le a b = (start a < start b || (start a == start b && stop a ≤ stop b)))
    (l : List α) :
    (sortBy le l).Pairwise
      (fun a b => start a < start b ∨ (start a = start b ∧ stop a ≤ stop b)) := by
  have iff : ∀ a b, le a b = true ↔
      start a < start b ∨ (start a = start b ∧ stop a ≤ stop b) := by
    intro a b
    simp [hle]
  refine (pairwise_sortBy ?_ ?_ l).imp fun h => (iff _ _).mp h
  · intro a b
    simp only [iff]
    omega
  · intro a b c
    simp only [iff]
    omega

theorem Span.pairwise_start (spans : List Span) :
    (sortBy Span.le spans).Pairwise (fun a b => a.start ≤ b.start) :=
  (pairwise_sortBy_of_place Span.start Span.stop (fun _ _ => rfl) spans).imp (by omega)

theorem Replacement.pairwise_start (rs : List Replacement) :
    (sortBy Replacement.le rs).Pairwise (fun a b => a.start ≤ b.start) :=
  (pairwise_sortBy_of_place Replacement.start Replacement.stop (fun _ _ => rfl) rs).imp (by omega)

/-! ## Lists in the order of their places -/

section

variable {α β : Type} {start stop : α → Int} {l l' s s' : List α}

/-- The members of a list that have the place from `a` to `b`, as they follow one another. -/
def placedAt (start stop : α → Int) (a b : Int) (l : List α) : List α :=
  l.filter fun x => start x == a && stop x == b

/-- The list `s` holds the members of `l` by start and then by stop, and those of one place as they
follow one another in `l`. -/
structure InOrder (start stop : α → Int) (l s : List α) : Prop where
  perm : s.Perm l
  pairwise : s.Pairwise fun x y => start x < start y ∨ (start x = start y ∧ stop x ≤ stop y)
  placed : ∀ a b, placedAt start stop a b s = placedAt start stop a b l

theorem mem_placedAt {a b : Int} {x : α} :
    x ∈ placedAt start stop a b l ↔ x ∈ l ∧ start x = a ∧ stop x = b := by
  simp [placedAt]

theorem placedAt_cons {a b : Int} {x : α} :
    placedAt start stop a b (x :: l) =
      if start x = a ∧ stop x = b then x :: placedAt start stop a b l
      else placedAt start stop a b l := by
  simp [placedAt, List.filter_cons]

theorem placedAt_map {start stop : β → Int} {a b : Int} (g : α → β) :
    placedAt start stop a b (l.map g) =
      (placedAt (fun x => start (g x)) (fun x => stop (g x)) a b l).map g :=
  List.filter_map

/-- Sorting by start and then by stop keeps members of one place as they follow one another. -/
theorem inOrder_sortBy {le : α → α → Bool}
    (hle : ∀ x y, le x y = (start x < start y || (start x == start y && stop x ≤ stop y)))
    (l : List α) : InOrder start stop l (sortBy le l) where
  perm := perm_sortBy le l
  pairwise := pairwise_sortBy_of_place start stop hle l
  placed a b := by
    have htied : (placedAt start stop a b l).Pairwise fun x y => le x y = true := by
      apply List.pairwise_of_forall_mem_list
      intro x hx y hy
      obtain ⟨-, hxa, hxb⟩ := mem_placedAt.mp hx
      obtain ⟨-, hya, hyb⟩ := mem_placedAt.mp hy
      simp [hle, hxa, hxb, hya, hyb]
    have hsublist : (placedAt start stop a b l).Sublist (placedAt start stop a b (sortBy le l)) := by
      have h := (List.sublist_insertionSort htied List.filter_sublist).filter
        fun x => start x == a && stop x == b
      simpa only [← sortBy_eq_insertionSort, placedAt, List.filter_filter, Bool.and_self] using h
    exact (hsublist.eq_of_length ((perm_sortBy le l).filter _).length_eq.symm).symm

theorem mem_iff_of_placedAt_eq
    (h : ∀ a b, placedAt start stop a b s = placedAt start stop a b s') (x : α) :
    x ∈ s ↔ x ∈ s' := by
  have hx : x ∈ placedAt start stop (start x) (stop x) s ↔
      x ∈ placedAt start stop (start x) (stop x) s' := by rw [h]
  simpa only [mem_placedAt, and_true] using hx

/-- A list in order is known from its members at each place. -/
theorem eq_of_placedAt_eq
    (hs : s.Pairwise fun x y => start x < start y ∨ (start x = start y ∧ stop x ≤ stop y))
    (hs' : s'.Pairwise fun x y => start x < start y ∨ (start x = start y ∧ stop x ≤ stop y))
    (h : ∀ a b, placedAt start stop a b s = placedAt start stop a b s') : s = s' := by
  have hmem := mem_iff_of_placedAt_eq h
  induction s generalizing s' with
  | nil =>
    symm
    rw [List.eq_nil_iff_forall_not_mem]
    intro x hx
    exact List.not_mem_nil ((hmem x).mpr hx)
  | cons x xs ih =>
    cases s' with
    | nil => exact absurd ((hmem x).mp List.mem_cons_self) List.not_mem_nil
    | cons y ys =>
      rw [List.pairwise_cons] at hs hs'
      -- both heads have the first place of all
      have hplace : start y = start x ∧ stop y = stop x := by
        rcases List.mem_cons.mp ((hmem x).mp List.mem_cons_self) with rfl | hx
        · exact ⟨rfl, rfl⟩
        rcases List.mem_cons.mp ((hmem y).mpr List.mem_cons_self) with rfl | hy
        · exact ⟨rfl, rfl⟩
        have hxy := hs.1 y hy
        have hyx := hs'.1 x hx
        omega
      have hhead := h (start x) (stop x)
      rw [placedAt_cons, placedAt_cons, if_pos ⟨rfl, rfl⟩, if_pos hplace] at hhead
      obtain rfl := (List.cons.inj hhead).1
      have htail : ∀ a b, placedAt start stop a b xs = placedAt start stop a b ys := by
        intro a b
        have hab := h a b
        rw [placedAt_cons, placedAt_cons] at hab
        by_cases hx : start x = a ∧ stop x = b
        · rw [if_pos hx, if_pos hx] at hab
          exact (List.cons.inj hab).2
        · rwa [if_neg hx, if_neg hx] at hab
      rw [ih hs.2 hs'.2 htail (mem_iff_of_placedAt_eq htail)]

namespace InOrder

/-- There is one order only. -/
theorem unique (h : InOrder start stop l s) (h' : InOrder start stop l s') : s = s' :=
  eq_of_placedAt_eq h.pairwise h'.pairwise fun a b => (h.placed a b).trans (h'.placed a b).symm

theorem map {start stop : β → Int} (g : α → β)
    (h : InOrder (fun x => start (g x)) (fun x => stop (g x)) l s) :
    InOrder start stop (l.map g) (s.map g) where
  perm := h.perm.map g
  pairwise := List.pairwise_map.mpr h.pairwise
  placed a b := by rw [placedAt_map, placedAt_map, h.placed a b]

/-- If the members are permuted, then those stay in their order that have different places. -/
theorem map_place_eq (h : InOrder start stop l s) (h' : InOrder start stop l' s')
    (hperm : l'.Perm l) : s'.map (fun x => (start x, stop x)) = s.map fun x => (start x, stop x) := by
  have hperm' : s'.Perm s := h'.perm.trans (hperm.trans h.perm.symm)
  have hs : (s.map fun x => (start x, stop x)).Pairwise
      fun p q => p.1 < q.1 ∨ (p.1 = q.1 ∧ p.2 ≤ q.2) := List.pairwise_map.mpr h.pairwise
  have hs' : (s'.map fun x => (start x, stop x)).Pairwise
      fun p q => p.1 < q.1 ∨ (p.1 = q.1 ∧ p.2 ≤ q.2) := List.pairwise_map.mpr h'.pairwise
  refine List.Perm.eq_of_pairwise ?_ hs' hs (hperm'.map _)
  intro p q _ _ hpq hqp
  ext
  · omega
  · omega

/-- The order of members that are told apart by their places does not depend on how they follow one
another. -/
theorem eq_of_perm (h : InOrder start stop l s) (h' : InOrder start stop l' s')
    (hperm : l'.Perm l)
    (hplace : ∀ x ∈ l, ∀ y ∈ l, start x = start y → stop x = stop y → x = y) : s' = s := by
  have hperm' : s'.Perm s := h'.perm.trans (hperm.trans h.perm.symm)
  refine hperm'.eq_of_pairwise ?_ h'.pairwise h.pairwise
  intro x y hx hy hxy hyx
  have hx' := (h'.perm.trans hperm).mem_iff.mp hx
  exact hplace x hx' y (h.perm.mem_iff.mp hy) (by omega) (by omega)

end InOrder

end

end SmartQuotes
