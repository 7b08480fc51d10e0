import SmartQuotes.Proofs.Quote.Nest

/-!
# How deep fragments are nested

The depth of a fragment is the number of fragments around it. Around a fragment there is an innermost
one, whose depth is smaller by one, so that every smaller depth occurs and a fragment is the last of
a chain in which each fragment stands inside all those before it. Once all fragments of smaller depth
are taken away those of a depth are the outermost ones.
-/

namespace SmartQuotes.Fragment

/-- Each fragment stands inside all those before it. -/
def IsChain (c : List Fragment) : Prop := c.Pairwise fun f g => g.IsInside f

/-- The fragments of a list inside of which a fragment stands. -/
def around (Q : List Fragment) (f : Fragment) : Finset Fragment :=
  Q.toFinset.filter fun g => f.IsInside g

/-- The number of fragments of a list inside of which a fragment stands. -/
def depth (Q : List Fragment) (f : Fragment) : Nat := (around Q f).card

variable {V Q : List Fragment} {f g h : Fragment} {k : Nat}

/-- A chain is no longer than a list of all its fragments. -/
theorem IsChain.length_le {c : List Fragment} (hc : IsChain c) (h : c ⊆ V) :
    c.length ≤ V.length := by
  have hnodup : c.Nodup := by
    refine hc.imp ?_
    rintro f _ hin rfl
    exact f.not_isInside_self hin
  exact (hnodup.subperm h).length_le

theorem mem_around_iff : g ∈ around Q f ↔ g ∈ Q ∧ f.IsInside g := by
  rw [around, Finset.mem_filter, List.mem_toFinset]

theorem depth_lt_of_isInside (hg : g ∈ Q) (h : f.IsInside g) : depth Q g < depth Q f := by
  refine Finset.card_lt_card (Finset.ssubset_iff_subset_ne.mpr ⟨fun x hx => ?_, fun heq => ?_⟩)
  · obtain ⟨hxQ, hx⟩ := mem_around_iff.mp hx
    exact mem_around_iff.mpr ⟨hxQ, h.trans hx⟩
  · have hmem : g ∈ around Q f := mem_around_iff.mpr ⟨hg, h⟩
    rw [← heq] at hmem
    exact g.not_isInside_self (mem_around_iff.mp hmem).2

/-- Of two fragments around the same characters one stands in the other. -/
theorem Nested.isInside_or (hV : Nested V) (hf : f.start < f.stop) (hg : g ∈ V) (hh : h ∈ V)
    (hfg : f.IsInside g) (hfh : f.IsInside h) : g = h ∨ g.IsInside h ∨ h.IsInside g := by
  obtain ⟨hstart, hstop, -⟩ := hfg
  obtain ⟨hstart', hstop', -⟩ := hfh
  rcases hV.nested g hg h hh with heq | happart | hin
  · exact Or.inl heq
  · rw [IsApart] at happart
    omega
  · exact Or.inr hin

section

variable (hV : Nested V) (hQ : Q ⊆ V)

include hV hQ

/-- Around a fragment that is not outermost there is an innermost one. -/
theorem Nested.exists_innermost (hf : f.start < f.stop) (hpos : 0 < depth Q f) :
    ∃ g ∈ Q, f.IsInside g ∧ depth Q f = depth Q g + 1 := by
  obtain ⟨g, hg, hmax⟩ := Finset.exists_max_image (around Q f) Fragment.start
    (Finset.card_pos.mp hpos)
  obtain ⟨hgQ, hin⟩ := mem_around_iff.mp hg
  refine ⟨g, hgQ, hin, ?_⟩
  have haround : around Q f = insert g (around Q g) := by
    ext x
    rw [Finset.mem_insert, mem_around_iff, mem_around_iff]
    constructor
    · rintro ⟨hx, hfx⟩
      have hle := hmax x (mem_around_iff.mpr ⟨hx, hfx⟩)
      rcases hV.isInside_or hf (hQ hx) (hQ hgQ) hfx hin with heq | hxg | hgx
      · exact Or.inl heq
      · have := hxg.1
        omega
      · exact Or.inr ⟨hx, hgx⟩
    · rintro (rfl | ⟨hx, hgx⟩)
      · exact ⟨hgQ, hin⟩
      · exact ⟨hx, hin.trans hgx⟩
  rw [depth, haround, Finset.card_insert_of_notMem fun hmem =>
    g.not_isInside_self (mem_around_iff.mp hmem).2]
  rfl

/-- The fragments of a depth are the outermost ones among those that are as deep or deeper. -/
theorem Nested.depth_eq_iff (hf : f.start < f.stop) :
    depth Q f = k ↔ k ≤ depth Q f ∧ ∀ g ∈ Q, k ≤ depth Q g → ¬ f.IsInside g := by
  constructor
  · rintro rfl
    refine ⟨Nat.le_refl _, fun g hg hle hin => ?_⟩
    exact absurd (depth_lt_of_isInside hg hin) (Nat.not_lt.mpr hle)
  · rintro ⟨hle, hout⟩
    by_contra hne
    obtain ⟨g, hg, hin, heq⟩ := hV.exists_innermost hQ hf (Q := Q) (by omega)
    exact hout g hg (by omega) hin

/-- Fragments of one depth do not stand in one another. -/
theorem Nested.eq_or_isApart_of_depth_eq (hf : f ∈ Q) (hg : g ∈ Q)
    (h : depth Q f = depth Q g) : f = g ∨ f.IsApart g := by
  rcases hV.nested f (hQ hf) g (hQ hg) with heq | happart | hin | hin
  · exact Or.inl heq
  · exact Or.inr happart
  · have := depth_lt_of_isInside hg hin
    omega
  · have := depth_lt_of_isInside hf hin
    omega

variable (hlong : ∀ f ∈ Q, f.start < f.stop) (hf : f ∈ Q)

include hlong hf

theorem Nested.exists_depth_eq (hk : k ≤ depth Q f) : ∃ g ∈ Q, depth Q g = k := by
  generalize hn : depth Q f = n at hk
  induction n generalizing f with
  | zero => exact ⟨f, hf, by omega⟩
  | succ n ih =>
    by_cases heq : k = n + 1
    · exact ⟨f, hf, by rw [hn, heq]⟩
    · obtain ⟨g, hg, -, hdepth⟩ := hV.exists_innermost hQ (hlong f hf) (Q := Q) (by omega)
      exact ih hg (by omega) (by omega)

/-- A fragment ends a chain that is longer than it is deep. -/
theorem Nested.exists_chain : ∃ c : List Fragment, c.length = depth Q f + 1 ∧ IsChain c ∧
    ∀ g ∈ c, g ∈ Q ∧ (g = f ∨ f.IsInside g) := by
  generalize hn : depth Q f = n
  induction n generalizing f with
  | zero =>
    refine ⟨[f], rfl, List.pairwise_singleton _ _, fun g hg => ?_⟩
    rw [List.mem_singleton.mp hg]
    exact ⟨hf, Or.inl rfl⟩
  | succ n ih =>
    obtain ⟨g, hg, hin, hdepth⟩ := hV.exists_innermost hQ (hlong f hf) (Q := Q) (by omega)
    obtain ⟨c, hlength, hchain, hmem⟩ := ih hg (by omega)
    have hinside : ∀ x ∈ c, x ∈ Q ∧ f.IsInside x := by
      intro x hx
      obtain ⟨hxQ, rfl | hgx⟩ := hmem x hx
      · exact ⟨hxQ, hin⟩
      · exact ⟨hxQ, hin.trans hgx⟩
    refine ⟨c ++ [f], by rw [List.length_append, hlength]; rfl, ?_, fun x hx => ?_⟩
    · refine List.pairwise_append.mpr ⟨hchain, List.pairwise_singleton _ _, fun x hx y hy => ?_⟩
      rw [List.mem_singleton.mp hy]
      exact (hinside x hx).2
    · rcases List.mem_append.mp hx with hx | hx
      · exact ⟨(hinside x hx).1, Or.inr (hinside x hx).2⟩
      · rw [List.mem_singleton.mp hx]
        exact ⟨hf, Or.inl rfl⟩

end

/-! ## Layers -/

/-- The fragments that hold straight quotes. -/
def quoted (V : List Fragment) : List Fragment := V.filter (·.holdsStraightQuote)

/-- Those of them that stand inside of fewer than `k` others. -/
def outer (V : List Fragment) (k : Nat) : List Fragment :=
  (quoted V).filter fun f => depth (quoted V) f < k

theorem mem_quoted_iff : f ∈ quoted V ↔ f ∈ V ∧ f.holdsStraightQuote = true := List.mem_filter

theorem mem_outer_iff : f ∈ outer V k ↔ f ∈ quoted V ∧ depth (quoted V) f < k := by
  rw [outer, List.mem_filter, decide_eq_true_iff]

theorem quoted_sublist (V : List Fragment) : (quoted V).Sublist V := List.filter_sublist

theorem outer_sublist (V : List Fragment) (k : Nat) : (outer V k).Sublist V :=
  List.filter_sublist.trans (quoted_sublist V)

theorem outer_zero (V : List Fragment) : outer V 0 = [] := by
  rw [List.eq_nil_iff_forall_not_mem]
  intro f hf
  exact absurd (mem_outer_iff.mp hf).2 (Nat.not_lt_zero _)

theorem outer_eq_quoted (h : ∀ f ∈ quoted V, depth (quoted V) f < k) : outer V k = quoted V := by
  rw [outer, List.filter_eq_self]
  simpa using h

theorem outer_subset_succ (V : List Fragment) (k : Nat) : outer V k ⊆ outer V (k + 1) := by
  intro f hf
  obtain ⟨hquoted, hlt⟩ := mem_outer_iff.mp hf
  exact mem_outer_iff.mpr ⟨hquoted, Nat.lt_succ_of_lt hlt⟩

/-- The fragments of a depth are those that are added to the shallower ones. -/
theorem mem_outer_succ_not_mem_iff :
    f ∈ outer V (k + 1) ∧ f ∉ outer V k ↔ f ∈ quoted V ∧ depth (quoted V) f = k := by
  rw [mem_outer_iff, mem_outer_iff, not_and, and_assoc]
  refine and_congr_right fun hf => ?_
  constructor
  · rintro ⟨hlt, hle⟩
    have := hle hf
    omega
  · rintro rfl
    exact ⟨Nat.lt_succ_self _, fun _ => Nat.lt_irrefl _⟩

theorem length_outer_succ (V : List Fragment) (k : Nat) :
    (outer V (k + 1)).length = (outer V k).length +
      ((quoted V).filter fun f => depth (quoted V) f = k).length := by
  simp only [outer, ← List.countP_eq_length_filter]
  generalize depth (quoted V) = d
  induction quoted V with
  | nil => rfl
  | cons f rest ih =>
    simp only [List.countP_cons, ih, decide_eq_true_eq]
    rcases Nat.lt_trichotomy (d f) k with h | h | h
    · rw [if_pos (by omega), if_pos h, if_neg (by omega)]
      omega
    · rw [if_pos (by omega), if_neg (by omega), if_pos h]
      omega
    · rw [if_neg (by omega), if_neg (by omega), if_neg (by omega)]
      omega

namespace Nest

variable {document : Text} {m : Marks} (hV : Nest document V)

include hV

theorem start_lt_stop (hf : f ∈ quoted V) : f.start < f.stop := by
  obtain ⟨hfV, hholds⟩ := mem_quoted_iff.mp hf
  exact (hV.lies f hfV).start_lt_stop hholds

/-- Where some fragment is as deep or deeper there are fragments of a depth. -/
theorem length_filter_depth_pos (hf : f ∈ quoted V) (hk : k ≤ depth (quoted V) f) :
    0 < ((quoted V).filter fun f => depth (quoted V) f = k).length := by
  obtain ⟨g, hg, hdepth⟩ := hV.exists_depth_eq (quoted_sublist V).subset
    (fun f hf => hV.start_lt_stop hf) hf hk
  refine List.length_pos_of_mem (a := g) (List.mem_filter.mpr ⟨hg, ?_⟩)
  rw [hdepth, decide_eq_true_iff]

/-- If no chain is longer than `k`, then no fragment is as deep as `k`. -/
theorem depth_lt_of_isChain (hf : f ∈ quoted V)
    (hchain : ∀ c, IsChain c → (∀ g ∈ c, g ∈ V ∧ g.holdsStraightQuote = true) → c.length ≤ k) :
    depth (quoted V) f < k := by
  obtain ⟨c, hlength, hc, hmem⟩ := hV.exists_chain (quoted_sublist V).subset
    (fun f hf => hV.start_lt_stop hf) hf
  have := hchain c hc fun g hg => mem_quoted_iff.mp (hmem g hg).1
  omega

/-- Nothing is curled in fragments without straight quotes. -/
theorem curlAll_quoted (hm : m.Narrow) :
    m.curlAll (quoted V) document = m.curlAll V document := by
  have hsubset := (quoted_sublist V).subset
  apply List.ext_getElem?
  intro k
  by_cases hown : ∃ f ∈ V, f.owns k = true
  · obtain ⟨f, hf, hk⟩ := hown
    rw [hV.getElem?_curlAll_of_owns hm (fun _ h => h) hf hk]
    by_cases hholds : f.holdsStraightQuote = true
    · rw [hV.getElem?_curlAll_of_owns hm hsubset (mem_quoted_iff.mpr ⟨hf, hholds⟩) hk]
    · have hlies := hV.lies f hf
      obtain ⟨hstart, hstop, -⟩ := owns_iff.mp hk
      have hlength := hlies.length_text
      have := hlies.start_le
      have htext : (f.on document).text[(k - f.start).toNat]? =
          document[f.start.toNat + (k - f.start).toNat]? := hlies.getElem?_on (by omega)
      rw [hlies.on_self, show f.start.toNat + (k - f.start).toNat = k by omega] at htext
      have hnone := hV.not_owns hsubset hf (fun h => hholds (mem_quoted_iff.mp h).2) hk
      rw [Marks.curled_eq_of_not_holds (by simpa using hholds), htext,
        getElem?_curlAll_of_none hnone]
  · have hnone : ∀ f ∈ V, f.owns k = false := by simpa using hown
    rw [getElem?_curlAll_of_none hnone, getElem?_curlAll_of_none fun f hf => hnone f (hsubset hf)]

end Nest

end SmartQuotes.Fragment
