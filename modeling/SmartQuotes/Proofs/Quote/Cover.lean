import SmartQuotes.Proofs.Text.Order
import SmartQuotes.Quote.Scope

/-!
# Covered positions

A position is covered when one of the spans covers it. Merging changes no covered position, whatever
the spans are, and leaves spans of which each starts where those before it have stopped. For spans in
the order of their starts the cursor that reads a text marks exactly the covered characters, so that
a character is in scope when its position is neither covered nor within the trimmed margins.
-/

namespace SmartQuotes

namespace Span

/-- Whether one of the spans covers position `i`. -/
def covered (spans : List Span) (i : Int) : Bool := spans.any (·.covers i)

theorem covers_iff {s : Span} {i : Int} : s.covers i = true ↔ s.start ≤ i ∧ i < s.stop := by
  simp [covers]

theorem covered_iff {spans : List Span} {i : Int} :
    covered spans i = true ↔ ∃ s ∈ spans, s.start ≤ i ∧ i < s.stop := by
  simp [covered, covers_iff]

@[simp] theorem covered_nil (i : Int) : covered [] i = false := rfl

@[simp] theorem covered_cons (s : Span) (spans : List Span) (i : Int) :
    covered (s :: spans) i = (s.covers i || covered spans i) := rfl

/-- Each span starts no earlier than those before it start; spans may overlap. -/
def Ascending (spans : List Span) : Prop := spans.Pairwise fun a b => a.start ≤ b.start

/-- Each span starts no earlier than those before it start and stop. -/
def Ordered (spans : List Span) : Prop :=
  spans.Pairwise fun a b => a.start ≤ b.start ∧ a.stop ≤ b.start

theorem Ordered.ascending {spans : List Span} (h : Ordered spans) : Ascending spans :=
  h.imp fun hab => hab.1

/-! ## Merging -/

theorem start_le_of_mem_fuse {current : Span} {rest : List Span}
    (h : (current :: rest).Pairwise fun a b => a.start ≤ b.start) :
    ∀ s ∈ fuse current rest, current.start ≤ s.start := by
  fun_induction fuse current rest with
  | case1 current => simp
  | case2 current s rest hs ih =>
    obtain ⟨hc, hrest⟩ := List.pairwise_cons.mp h
    refine ih (List.pairwise_cons.mpr ⟨fun t ht => hc t (by simp [ht]), hrest.of_cons⟩)
  | case3 current s rest hs ih =>
    obtain ⟨hc, hrest⟩ := List.pairwise_cons.mp h
    intro t ht
    rcases List.mem_cons.mp ht with rfl | ht
    · exact Int.le_refl _
    · exact Int.le_trans (hc s (by simp)) (ih hrest t ht)

theorem ordered_fuse {current : Span} {rest : List Span}
    (h : (current :: rest).Pairwise fun a b => a.start ≤ b.start) : Ordered (fuse current rest) := by
  fun_induction fuse current rest with
  | case1 current => exact List.pairwise_singleton _ _
  | case2 current s rest hs ih =>
    obtain ⟨hc, hrest⟩ := List.pairwise_cons.mp h
    exact ih (List.pairwise_cons.mpr ⟨fun t ht => hc t (by simp [ht]), hrest.of_cons⟩)
  | case3 current s rest hs ih =>
    obtain ⟨hc, hrest⟩ := List.pairwise_cons.mp h
    refine List.pairwise_cons.mpr ⟨fun t ht => ?_, ih hrest⟩
    have hst := start_le_of_mem_fuse hrest t ht
    have hcs := hc s (by simp)
    exact ⟨by omega, by omega⟩

theorem covered_fuse {current : Span} {rest : List Span} (i : Int)
    (h : (current :: rest).Pairwise fun a b => a.start ≤ b.start) :
    covered (fuse current rest) i = covered (current :: rest) i := by
  fun_induction fuse current rest with
  | case1 current => rfl
  | case2 current s rest hs ih =>
    obtain ⟨hc, hrest⟩ := List.pairwise_cons.mp h
    have hcs := hc s (by simp)
    rw [ih (List.pairwise_cons.mpr ⟨fun t ht => hc t (by simp [ht]), hrest.of_cons⟩)]
    -- the two spans share a position, so that nothing lies between them
    have hjoin : covers ⟨current.start, max current.stop s.stop⟩ i =
        (current.covers i || s.covers i) := by
      rw [Bool.eq_iff_iff, Bool.or_eq_true, covers_iff, covers_iff, covers_iff]
      dsimp only
      omega
    simp only [covered_cons, hjoin, Bool.or_assoc]
  | case3 current s rest hs ih =>
    rw [covered_cons, ih (List.pairwise_cons.mp h).2]
    rfl

theorem ordered_merge (spans : List Span) : Ordered (merge spans) := by
  have hsorted := pairwise_start spans
  unfold merge
  split
  · exact List.Pairwise.nil
  · next s rest h =>
    rw [h] at hsorted
    exact ordered_fuse hsorted

theorem covered_sortBy (spans : List Span) (i : Int) :
    covered (sortBy le spans) i = covered spans i := by
  rw [Bool.eq_iff_iff, covered_iff, covered_iff]
  simp only [mem_sortBy]

/-- Merging covers what the spans cover. -/
theorem covered_merge (spans : List Span) (i : Int) : covered (merge spans) i = covered spans i := by
  have hsorted := pairwise_start spans
  rw [← covered_sortBy spans i]
  unfold merge
  split
  · next h => rw [h]
  · next s rest h =>
    rw [h] at hsorted ⊢
    exact covered_fuse i hsorted

theorem fuse_eq_self {current : Span} {rest : List Span}
    (h : (current :: rest).Pairwise fun a b => a.stop ≤ b.start) :
    fuse current rest = current :: rest := by
  induction rest generalizing current with
  | nil => rfl
  | cons s rest ih =>
    obtain ⟨hs, hrest⟩ := List.pairwise_cons.mp h
    rw [fuse, if_neg (Int.not_lt.mpr (hs s List.mem_cons_self)), ih hrest]

/-- Spans that follow one another are left as they are. -/
theorem merge_eq_self {spans : List Span} (hne : ∀ s ∈ spans, s.start < s.stop)
    (h : spans.Pairwise fun a b => a.stop ≤ b.start) : merge spans = spans := by
  have hsorted : sortBy le spans = spans := by
    refine sortBy_eq_self (h.imp_of_mem fun {a b} ha _ hab => ?_)
    have := hne a ha
    simp only [le, Bool.or_eq_true, decide_eq_true_eq]
    omega
  rw [merge, hsorted]
  cases spans with
  | nil => rfl
  | cons s rest => exact fuse_eq_self h

/-- A start of a merged span is one of a given span, and so is a stop. -/
theorem bounds_of_mem_fuse {current : Span} {rest : List Span} {P Q : Int → Prop}
    (hP : ∀ s ∈ current :: rest, P s.start) (hQ : ∀ s ∈ current :: rest, Q s.stop) :
    ∀ s ∈ fuse current rest, P s.start ∧ Q s.stop := by
  fun_induction fuse current rest with
  | case1 current =>
    intro s hs
    rw [List.mem_singleton.mp hs]
    exact ⟨hP _ (by simp), hQ _ (by simp)⟩
  | case2 current s rest hs ih =>
    refine ih (fun t ht => ?_) (fun t ht => ?_)
    · rcases List.mem_cons.mp ht with rfl | ht
      · exact hP current (by simp)
      · exact hP t (by simp [ht])
    · rcases List.mem_cons.mp ht with rfl | ht
      · rcases Int.le_total s.stop current.stop with hm | hm
        · rw [Int.max_eq_left hm]
          exact hQ current (by simp)
        · rw [Int.max_eq_right hm]
          exact hQ s (by simp)
      · exact hQ t (by simp [ht])
  | case3 current s rest hs ih =>
    intro t ht
    rcases List.mem_cons.mp ht with rfl | ht
    · exact ⟨hP _ (by simp), hQ _ (by simp)⟩
    · exact ih (fun u hu => hP u (by simp [List.mem_cons.mp hu]))
        (fun u hu => hQ u (by simp [List.mem_cons.mp hu])) t ht

theorem bounds_of_mem_merge {spans : List Span} {P Q : Int → Prop}
    (hP : ∀ s ∈ spans, P s.start) (hQ : ∀ s ∈ spans, Q s.stop) :
    ∀ s ∈ merge spans, P s.start ∧ Q s.stop := by
  unfold merge
  split
  · nofun
  · next s rest h =>
    refine bounds_of_mem_fuse (fun t ht => hP t ?_) (fun t ht => hQ t ?_)
    · exact mem_sortBy.mp (h ▸ ht)
    · exact mem_sortBy.mp (h ▸ ht)

end Span

/-! ## Reading a text along its spans -/

namespace Text

open SmartQuotes.Span

theorem map_snd_coverage (spans : List Span) (i : Nat) (t : Text) :
    (coverage spans i t).map (·.2) = t := by
  induction t generalizing spans i with
  | nil => rfl
  | cons c t ih => rw [coverage, List.map_cons, ih]

theorem map_snd_trimCoverage (low high : Int) (i : Nat) (l : List (Bool × Char)) :
    (trimCoverage low high i l).map (·.2) = l.map (·.2) := by
  induction l generalizing i with
  | nil => rfl
  | cons m l ih => rw [trimCoverage, List.map_cons, List.map_cons, ih]

/-- A scope holds the characters of its text in their order. -/
theorem map_snd_scope (t : Text) (trim : Int) (excluded : List Span) :
    (scope t trim excluded).map (·.2) = t := by
  rw [scope, map_snd_trimCoverage, map_snd_coverage]

@[simp] theorem length_scope (t : Text) (trim : Int) (excluded : List Span) :
    (scope t trim excluded).length = t.length := by
  rw [← List.length_map (·.2), map_snd_scope]

theorem mem_of_mem_trimCoverage {low high : Int} {i : Nat} {l : List (Bool × Char)}
    {m : Bool × Char} (h : m ∈ trimCoverage low high i l) (hm : m.1 = true) : (false, m.2) ∈ l := by
  induction l generalizing i with
  | nil => cases h
  | cons p l ih =>
    rcases List.mem_cons.mp h with rfl | h
    · have hp : p.1 = false := by
        simp only [Bool.and_eq_true, Bool.not_eq_true'] at hm
        exact hm.1.1
      simp [← hp]
    · exact List.mem_cons_of_mem _ (ih h)

/-- A character in scope stands outside the excluded spans. -/
theorem mem_uncovered_of_mem_scope {t : Text} {trim : Int} {excluded : List Span}
    {m : Bool × Char} (h : m ∈ scope t trim excluded) (hm : m.1 = true) :
    m.2 ∈ uncovered t excluded := by
  refine List.mem_map.mpr ⟨(false, m.2), List.mem_filter.mpr ⟨?_, rfl⟩, rfl⟩
  exact mem_of_mem_trimCoverage h hm

theorem occursIn_singleton {q : Char} {t : Text} : occursIn [q] t = true ↔ q ∈ t := by
  induction t with
  | nil => simp [occursIn]
  | cons c t ih => simp [occursIn, ih, List.isPrefixOf]

theorem covered_dropWhile (spans : List Span) {i k : Int} (hik : i ≤ k) :
    covered (spans.dropWhile fun s => s.stop ≤ i) k = covered spans k := by
  induction spans with
  | nil => rfl
  | cons s spans ih =>
    rw [List.dropWhile_cons]
    split
    · next hs =>
      have hs' : s.covers k = false := by
        simp only [decide_eq_true_eq] at hs
        simp only [covers, Bool.and_eq_false_iff, decide_eq_false_iff_not]
        omega
      rw [ih, covered_cons, hs', Bool.false_or]
    · rfl

/-- The cursor stands in a span exactly where a span covers. -/
theorem begun_dropWhile {spans : List Span} (h : Ascending spans) (i : Int) :
    begun (spans.dropWhile fun s => s.stop ≤ i) i = covered spans i := by
  rw [← covered_dropWhile spans (Int.le_refl i)]
  have hd : Ascending (spans.dropWhile fun s => s.stop ≤ i) :=
    h.sublist (List.dropWhile_sublist _)
  cases hleft : spans.dropWhile fun s => s.stop ≤ i with
  | nil => rfl
  | cons s left =>
    rw [hleft] at hd
    have hs : ¬ s.stop ≤ i := by
      have := List.head_dropWhile_not (fun s : Span => decide (s.stop ≤ i)) (l := spans)
        (by rw [hleft]; simp)
      simpa [hleft] using this
    rw [Bool.eq_iff_iff, covered_iff]
    simp only [begun, decide_eq_true_eq]
    constructor
    · intro hstart
      exact ⟨s, by simp, hstart, by omega⟩
    · rintro ⟨t, ht, htstart, htstop⟩
      rcases List.mem_cons.mp ht with rfl | ht
      · exact htstart
      · have := (List.pairwise_cons.mp hd).1 t ht
        omega

theorem coverage_eq_map {spans : List Span} (h : Ascending spans) (i : Nat) (t : Text) :
    coverage spans i t = (t.zipIdx i).map fun p => (covered spans p.2, p.1) := by
  induction t generalizing spans i with
  | nil => rfl
  | cons c t ih =>
    have hd : Ascending (spans.dropWhile fun s => s.stop ≤ (i : Int)) :=
      h.sublist (List.dropWhile_sublist _)
    simp only [coverage, List.zipIdx_cons, List.map_cons]
    rw [begun_dropWhile h, ih hd]
    congr 1
    apply List.map_congr_left
    rintro ⟨d, k⟩ hk
    have hik : i + 1 ≤ k := (List.mem_zipIdx hk).1
    simp only [Prod.mk.injEq, and_true]
    exact covered_dropWhile spans (by omega)

/-- Whether position `i` of a text of length `n` is in scope. -/
def inScopeAt (n : Nat) (trim : Int) (excluded : List Span) (i : Nat) : Bool :=
  !covered excluded i && trim ≤ (i : Int) && (i : Int) < n - trim

theorem trimCoverage_eq_map (low high : Int) (i : Nat) (covers : Nat → Bool) (t : Text) :
    trimCoverage low high i ((t.zipIdx i).map fun p => (covers p.2, p.1)) =
      (t.zipIdx i).map fun p => (!covers p.2 && low ≤ (p.2 : Int) && (p.2 : Int) < high, p.1) := by
  induction t generalizing i with
  | nil => rfl
  | cons c t ih => simp only [List.zipIdx_cons, List.map_cons, trimCoverage, ih]

/-- A character is in scope by its position alone. -/
theorem scope_eq_map {excluded : List Span} (h : Ascending excluded) (t : Text) (trim : Int) :
    scope t trim excluded =
      (t.zipIdx).map fun p => (inScopeAt t.length trim excluded p.2, p.1) := by
  rw [scope, coverage_eq_map h, trimCoverage_eq_map _ _ _ (fun k => covered excluded k)]
  rfl

end Text

end SmartQuotes
