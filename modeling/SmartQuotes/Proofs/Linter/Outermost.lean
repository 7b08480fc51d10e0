import SmartQuotes.Proofs.Linter.Pass
import SmartQuotes.Proofs.Quote.Nest

/-!
# Outermost fragments first

Replacements that overlap are left out one after the other, from the left to the right. Where the
visited fragments are a nest this leaves out exactly the pending fragments that stand inside another
pending one: a pass corrects the outermost ones.
-/

namespace SmartQuotes

/-- The fragment is pending, and it stands inside of no other pending one. -/
def Fragment.IsOutermost (mode : Mode) (fragments : List Fragment) (f : Fragment) : Prop :=
  f ∈ fragments ∧ f.IsPending mode ∧ ∀ g ∈ fragments, g.IsPending mode → ¬ f.IsInside g

namespace Inspector

variable {i : Inspector} {document : Text} {fragments : List Fragment} {f : Fragment}
  {r : Replacement}

/-- The fragments that are visited. -/
def visited (i : Inspector) (fragments : List Fragment) : List Fragment :=
  fragments.filter (·.isVisited i.mode)

theorem mem_visited_iff :
    f ∈ i.visited fragments ↔ f ∈ fragments ∧ f.isVisited i.mode = true := List.mem_filter

theorem start_of_replacement? {w : Warning} (h : w.replacement? = some r) : r.start = w.start := by
  obtain ⟨t, -, rfl⟩ := Option.map_eq_some_iff.mp h
  rfl

/-- The replacements start at different places if the visited fragments do. -/
theorem pairwise_start_replacements (h : ((i.visited fragments).map Fragment.start).Nodup) :
    (i.replacements fragments).Pairwise fun r s => r.start ≠ s.start := by
  rw [replacements, List.pairwise_filterMap]
  have hwarnings : (review i.marks i.level i.templateAware fragments).Pairwise
      fun w v => w.start ≠ v.start := by
    rw [review]
    split
    · exact .nil
    · rw [(perm_sortBy _ _).pairwise_iff Ne.symm, List.pairwise_filterMap]
      refine (List.pairwise_map.mp h).imp fun hne w hw v hv => ?_
      rwa [(ofFragment?_spec hw).2.1, (ofFragment?_spec hv).2.1]
  refine hwarnings.imp fun hne r hr s hs => ?_
  rwa [start_of_replacement? hr, start_of_replacement? hs]

theorem pairwise_start_lt (h : ((i.visited fragments).map Fragment.start).Nodup) :
    (sortBy Replacement.le (i.replacements fragments)).Pairwise fun r s => r.start < s.start := by
  have hne := ((perm_sortBy Replacement.le _).pairwise_iff Ne.symm).mpr
    (pairwise_start_replacements h)
  refine ((Replacement.pairwise_start _).and hne).imp fun ⟨hle, hne⟩ => ?_
  omega

theorem mem_replacements_iff_of_quoteFree (hlevel : i.level = .fix) (hm : i.marks.QuoteFree) :
    r ∈ i.replacements fragments ↔
      ∃ f ∈ fragments, f.IsPending i.mode ∧ i.marks.replacement f = r := by
  rw [mem_replacements_iff, and_iff_right hlevel]
  refine exists_congr fun f => and_congr_right fun _ => and_congr_right fun hpending => ?_
  exact and_iff_right (Marks.correct_ne_of_holds hm hpending.2)

section

variable (hlevel : i.level = .fix) (hm : i.marks.QuoteFree)
  (hnest : Fragment.Nest document (i.visited fragments))

include hlevel hm hnest

/-- Of two replacements of which one starts first the other one starts behind it or stands in it. -/
theorem pairwise_nested :
    (sortBy Replacement.le (i.replacements fragments)).Pairwise
      fun r s => r.stop ≤ s.start ∨ s.stop ≤ r.stop := by
  refine (pairwise_start_lt hnest.starts).imp_of_mem fun {r s} hr hs hlt => ?_
  obtain ⟨f, hf, ⟨hfvisited, -⟩, rfl⟩ :=
    (mem_replacements_iff_of_quoteFree hlevel hm).mp (mem_sortBy.mp hr)
  obtain ⟨g, hg, ⟨hgvisited, -⟩, rfl⟩ :=
    (mem_replacements_iff_of_quoteFree hlevel hm).mp (mem_sortBy.mp hs)
  have hlies := hnest.lies g (mem_visited_iff.mpr ⟨hg, hgvisited⟩)
  simp only [Marks.replacement] at hlt ⊢
  rcases hnest.nested f (mem_visited_iff.mpr ⟨hf, hfvisited⟩) g
    (mem_visited_iff.mpr ⟨hg, hgvisited⟩) with rfl | happart | hin | hin
  · omega
  · have := hlies.le
    rw [Fragment.IsApart] at happart
    omega
  · have := hin.1
    omega
  · exact Or.inr hin.2.1

/-- A pass corrects the outermost pending fragments. -/
theorem mem_chosen_iff :
    r ∈ i.chosen fragments ↔
      ∃ f, f.IsOutermost i.mode fragments ∧ i.marks.replacement f = r := by
  have hmem : ∀ r, r ∈ i.replacements fragments ↔
      ∃ f ∈ fragments, f.IsPending i.mode ∧ i.marks.replacement f = r :=
    fun _ => mem_replacements_iff_of_quoteFree hlevel hm
  have hlies : ∀ f ∈ fragments, f.IsPending i.mode → f.LiesIn document 0 document.length :=
    fun f hf hpending => hnest.lies f (mem_visited_iff.mpr ⟨hf, hpending.1⟩)
  have hlast : ∀ r ∈ sortBy Replacement.le (i.replacements fragments),
      0 ≤ r.start ∨ r.stop ≤ 0 := by
    intro r hr
    obtain ⟨f, hf, hpending, rfl⟩ := (hmem r).mp (mem_sortBy.mp hr)
    exact Or.inl (hlies f hf hpending).start_le
  rw [chosen, Replacement.mem_choose_iff (pairwise_start_lt hnest.starts)
    (pairwise_nested hlevel hm hnest) hlast]
  simp only [mem_sortBy, hmem]
  constructor
  · rintro ⟨⟨f, hf, hpending, rfl⟩, -, hout⟩
    refine ⟨f, ⟨hf, hpending, fun g hg hgpending hin => ?_⟩, rfl⟩
    have hle : g.stop ≤ f.start := hout _ ⟨g, hg, hgpending, rfl⟩ hin.1
    have := hin.2.1
    have := (hlies f hf hpending).start_lt_stop hpending.2
    omega
  · rintro ⟨f, ⟨hf, hpending, hout⟩, rfl⟩
    refine ⟨⟨f, hf, hpending, rfl⟩, (hlies f hf hpending).start_le, ?_⟩
    rintro _ ⟨g, hg, hgpending, rfl⟩ hlt
    simp only [Marks.replacement] at hlt ⊢
    rcases hnest.nested f (mem_visited_iff.mpr ⟨hf, hpending.1⟩) g
      (mem_visited_iff.mpr ⟨hg, hgpending.1⟩) with rfl | happart | hin | hin
    · omega
    · have := (hlies f hf hpending).le
      rw [Fragment.IsApart] at happart
      omega
    · exact absurd hin (hout g hg hgpending)
    · have := hin.1
      omega

theorem applies_iff_isOutermost (hextract : (i.extract document).result = .ok fragments) :
    i.Applies document f ↔ f.IsOutermost i.mode fragments := by
  constructor
  · rintro ⟨fragments', hextract', hf, hvisited, hchosen⟩
    obtain rfl := Except.ok.inj (hextract.symm.trans hextract')
    obtain ⟨g, hg, hreplacement⟩ := (mem_chosen_iff hlevel hm hnest).mp hchosen
    have hstart : g.start = f.start := congrArg Replacement.start hreplacement
    rwa [← hnest.eq_of_start (mem_visited_iff.mpr ⟨hg.1, hg.2.1.1⟩)
      (mem_visited_iff.mpr ⟨hf, hvisited⟩) hstart]
  · intro hf
    exact ⟨fragments, hextract, hf.1, hf.2.1.1, (mem_chosen_iff hlevel hm hnest).mpr ⟨f, hf, rfl⟩⟩

end

end Inspector

end SmartQuotes
