import Mathlib.Data.List.Pairwise
import SmartQuotes.Proofs.Quote.Scan

/-!
# Merged spans as blocks

Two adjacent positions are linked by a span that covers both. Merging changes neither which positions
are covered nor which are linked, and merged spans are apart. This determines them: they are the
blocks, each a longest run of covered positions of which each is linked to the next one. So spans
that merely touch stay apart, and neither the order of the given spans nor how often one is given
makes a difference.
-/

namespace SmartQuotes.Span

/-- One of the spans covers position `i` and the next one. -/
def Linked (spans : List Span) (i : Int) : Prop := ∃ s ∈ spans, s.start ≤ i ∧ i + 1 < s.stop

/-- The span is a longest run of covered positions that are linked one to the next. -/
structure IsBlock (spans : List Span) (s : Span) : Prop where
  start_lt : s.start < s.stop
  covered : covered spans s.start = true
  linked : ∀ i, s.start ≤ i → i + 1 < s.stop → Linked spans i
  not_linked_before : ¬ Linked spans (s.start - 1)
  not_linked_last : ¬ Linked spans (s.stop - 1)

/-- The spans `out` are not empty and follow one another, and they cover and link the same positions
as the given ones. -/
structure IsMerged (spans out : List Span) : Prop where
  start_lt : ∀ s ∈ out, s.start < s.stop
  precedes : out.Pairwise fun a b => a.stop ≤ b.start
  covered : ∀ i, covered out i = covered spans i
  linked : ∀ i, Linked out i ↔ Linked spans i

variable {spans spans' out : List Span}

/-! ## What merging keeps -/

theorem linked_cons {s : Span} {i : Int} :
    Linked (s :: spans) i ↔ (s.start ≤ i ∧ i + 1 < s.stop) ∨ Linked spans i := by
  simp only [Linked, List.mem_cons, or_and_right, exists_or, exists_eq_left]

theorem linked_congr (h : ∀ s, s ∈ spans' ↔ s ∈ spans) (i : Int) :
    Linked spans' i ↔ Linked spans i := by
  simp only [Linked, h]

theorem covered_congr (h : ∀ s, s ∈ spans' ↔ s ∈ spans) (i : Int) :
    covered spans' i = covered spans i := by
  rw [Bool.eq_iff_iff, covered_iff, covered_iff]
  simp only [h]

/-- A span that is extended by one that starts inside it links what the two of them link. -/
theorem linked_fuse {current : Span} {rest : List Span} (i : Int)
    (h : (current :: rest).Pairwise fun a b => a.start ≤ b.start) :
    Linked (fuse current rest) i ↔ Linked (current :: rest) i := by
  fun_induction fuse current rest with
  | case1 current => rfl
  | case2 current s rest hs ih =>
    obtain ⟨hcurrent, hrest⟩ := List.pairwise_cons.mp h
    have hstart := hcurrent s List.mem_cons_self
    have htail := fun t ht => hcurrent t (List.mem_cons_of_mem s ht)
    rw [ih (List.pairwise_cons.mpr ⟨htail, hrest.of_cons⟩), linked_cons, linked_cons, linked_cons,
      ← or_assoc]
    refine or_congr_left ?_
    dsimp only
    omega
  | case3 current s rest hs ih =>
    rw [linked_cons, ih (List.pairwise_cons.mp h).2, linked_cons (s := current)]

theorem start_lt_of_mem_fuse {current : Span} {rest : List Span}
    (h : ∀ s ∈ current :: rest, s.start < s.stop) : ∀ s ∈ fuse current rest, s.start < s.stop := by
  fun_induction fuse current rest with
  | case1 current => exact h
  | case2 current s rest hs ih =>
    obtain ⟨hcurrent, hrest⟩ := List.forall_mem_cons.mp h
    refine ih (List.forall_mem_cons.mpr ⟨?_, (List.forall_mem_cons.mp hrest).2⟩)
    dsimp only
    omega
  | case3 current s rest hs ih =>
    obtain ⟨hcurrent, hrest⟩ := List.forall_mem_cons.mp h
    exact List.forall_mem_cons.mpr ⟨hcurrent, ih hrest⟩

theorem linked_merge (spans : List Span) (i : Int) : Linked (merge spans) i ↔ Linked spans i := by
  have hsorted := pairwise_start spans
  have hmem : ∀ s, s ∈ sortBy le spans ↔ s ∈ spans := fun s => mem_sortBy
  rw [← linked_congr hmem i]
  unfold merge
  split
  · next h => rw [h]
  · next s rest h =>
    rw [h] at hsorted ⊢
    exact linked_fuse i hsorted

theorem isMerged_merge (h : ∀ s ∈ spans, s.start < s.stop) : IsMerged spans (merge spans) where
  start_lt := by
    have hsorted : ∀ s ∈ sortBy le spans, s.start < s.stop := fun s hs => h s (mem_sortBy.mp hs)
    unfold merge
    split
    · exact nofun
    · next s rest hs =>
      rw [hs] at hsorted
      exact start_lt_of_mem_fuse hsorted
  precedes := (ordered_merge spans).imp fun hab => hab.2
  covered := covered_merge spans
  linked := linked_merge spans

/-! ## What determines merged spans -/

/-- A block is known from any position in it. -/
theorem IsBlock.eq_of_covers {s t : Span} (hs : IsBlock spans s) (ht : IsBlock spans t)
    (hstart : t.start ≤ s.start) (hstop : s.start < t.stop) : s = t := by
  have hpos := hs.start_lt
  have hfirst : s.start = t.start := by
    by_contra hne
    exact hs.not_linked_before (ht.linked _ (by omega) (by omega))
  have hlast : s.stop = t.stop := by
    by_contra hne
    rcases Int.lt_or_gt_of_ne hne with hlt | hgt
    · exact hs.not_linked_last (ht.linked _ (by omega) (by omega))
    · exact ht.not_linked_last (hs.linked _ (by omega) (by omega))
  obtain ⟨a, b⟩ := s
  obtain ⟨c, d⟩ := t
  cases hfirst
  cases hlast
  rfl

namespace IsMerged

variable (h : IsMerged spans out)

include h

theorem eq_of_overlap {s t : Span} (hs : s ∈ out) (ht : t ∈ out) (hst : s.start < t.stop)
    (hts : t.start < s.stop) : s = t := by
  by_contra hne
  have heither : out.Pairwise fun a b => a.stop ≤ b.start ∨ b.stop ≤ a.start :=
    h.precedes.imp Or.inl
  have hsymm : Std.Symm fun a b : Span => a.stop ≤ b.start ∨ b.stop ≤ a.start :=
    ⟨fun _ _ => Or.symm⟩
  have hapart := heither.forall hs ht hne
  omega

/-- A merged span is a block. -/
theorem isBlock {s : Span} (hs : s ∈ out) : IsBlock spans s where
  start_lt := h.start_lt s hs
  covered := by
    rw [← h.covered, covered_iff]
    exact ⟨s, hs, Int.le_refl _, h.start_lt s hs⟩
  linked i hi hi' := (h.linked i).mp ⟨s, hs, hi, hi'⟩
  not_linked_before := by
    rw [← h.linked]
    rintro ⟨t, ht, hstart, hstop⟩
    have hpos := h.start_lt s hs
    have heq := h.eq_of_overlap hs ht (by omega) (by omega)
    rw [heq] at hstart
    omega
  not_linked_last := by
    rw [← h.linked]
    rintro ⟨t, ht, hstart, hstop⟩
    have hpos := h.start_lt s hs
    have heq := h.eq_of_overlap hs ht (by omega) (by omega)
    rw [heq] at hstop
    omega

/-- The merged spans are the blocks. -/
theorem mem_iff {s : Span} : s ∈ out ↔ IsBlock spans s := by
  constructor
  · exact h.isBlock
  · intro hs
    have hcovered := hs.covered
    rw [← h.covered, covered_iff] at hcovered
    obtain ⟨t, ht, hstart, hstop⟩ := hcovered
    rwa [hs.eq_of_covers (h.isBlock ht) hstart hstop]

theorem pairwise_start_lt : out.Pairwise fun a b => a.start < b.start := by
  refine h.precedes.imp_of_mem fun {a b} ha _ hab => ?_
  have hpos := h.start_lt a ha
  omega

theorem unique {out' : List Span} (h' : IsMerged spans out') : out = out' := by
  have hirrefl : Std.Irrefl fun a b : Span => a.start < b.start := ⟨fun a => Int.lt_irrefl _⟩
  exact h.pairwise_start_lt.eq_of_mem_iff h'.pairwise_start_lt fun s => h.mem_iff.trans h'.mem_iff.symm

/-- Whether spans are merged from others depends only on which these are. -/
theorem congr (hmem : ∀ s, s ∈ spans' ↔ s ∈ spans) : IsMerged spans' out where
  start_lt := h.start_lt
  precedes := h.precedes
  covered i := (h.covered i).trans (covered_congr hmem i).symm
  linked i := (h.linked i).trans (linked_congr hmem i).symm

end IsMerged

/-- Merging makes no difference between spans that are given in another order or more than once. -/
theorem merge_congr (h : ∀ s ∈ spans, s.start < s.stop) (hmem : ∀ s, s ∈ spans' ↔ s ∈ spans) :
    merge spans' = merge spans := by
  have h' : ∀ s ∈ spans', s.start < s.stop := fun s hs => h s ((hmem s).mp hs)
  exact (isMerged_merge h').unique ((isMerged_merge h).congr hmem)

theorem merge_merge (h : ∀ s ∈ spans, s.start < s.stop) : merge (merge spans) = merge spans :=
  merge_eq_self (isMerged_merge h).start_lt (isMerged_merge h).precedes

/-- The reader of a fragment marks exactly those characters that an embedded expression covers. -/
theorem coverage_excluded (f : Fragment) :
    Text.coverage f.excluded 0 f.text = f.text.zipIdx.map fun p => (covered f.embedded p.2, p.1) := by
  rw [Text.coverage_eq_map f.ordered_excluded.ascending]
  simp only [f.covered_excluded]

/-- For spans that are not empty, merging yields the one list of spans that are not empty, follow one
another, cover the same positions and link the same ones: two adjacent positions are in one merged
span exactly if one of the given spans holds both. So the order of the given spans and their repeats
do not count, and merging merged spans changes nothing. What is excluded in a fragment is merged, so
that the reader finds exactly the characters that are in none of the embedded expressions. -/
theorem merge_eq_iff_isMerged (spans : List Span) (h : ∀ s ∈ spans, s.start < s.stop) :
    (∀ out, IsMerged spans out ↔ out = merge spans) ∧
      (∀ spans', (∀ s, s ∈ spans' ↔ s ∈ spans) → merge spans' = merge spans) ∧
      merge (merge spans) = merge spans ∧
      ∀ f : Fragment, Ascending f.excluded ∧ Text.coverage f.excluded 0 f.text =
        f.text.zipIdx.map fun p => (covered f.embedded p.2, p.1) := by
  refine ⟨fun out => ⟨fun hout => hout.unique (isMerged_merge h), ?_⟩,
    fun spans' hmem => merge_congr h hmem, merge_merge h,
    fun f => ⟨f.ordered_excluded.ascending, coverage_excluded f⟩⟩
  rintro rfl
  exact isMerged_merge h

/-- Spans that overlap one after the other are joined; those that touch stay apart. -/
theorem merge_eq_iff_isMerged_of_chain :
    let spans : List Span := [⟨5, 9⟩, ⟨0, 3⟩, ⟨2, 5⟩, ⟨5, 6⟩, ⟨9, 10⟩]
    let out : List Span := [⟨0, 5⟩, ⟨5, 9⟩, ⟨9, 10⟩]
    (∀ s ∈ spans, s.start < s.stop) ∧ merge spans = out ∧ IsMerged spans out ∧
      merge (spans ++ spans.reverse) = out ∧ merge out = out := by
  intro spans out
  have h : ∀ s ∈ spans, s.start < s.stop := by decide
  have hout : merge spans = out := by decide
  obtain ⟨hiff, hmem, hagain, -⟩ := merge_eq_iff_isMerged spans h
  rw [hout] at hagain
  refine ⟨h, hout, (hiff out).mpr hout.symm, ?_, hagain⟩
  rw [hmem _ fun s => by simp, hout]

end SmartQuotes.Span
