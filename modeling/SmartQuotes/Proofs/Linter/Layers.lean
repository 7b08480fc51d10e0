import Mathlib.Data.List.Sublists
import SmartQuotes.Proofs.Linter.Frame
import SmartQuotes.Proofs.Linter.Outermost
import SmartQuotes.Proofs.Quote.Depth

/-!
# A fix by layers

The passes of a fix go through nested fragments from the outside to the inside. If the extraction
finds the same fragments after some of them were curled, then pass number `k`, counted from zero,
corrects exactly the fragments that hold straight quotes and stand inside of `k` others that do. When
no such fragment is deeper than the number of passes allows, the document comes out as if all of them
had been curled at once.
-/

namespace SmartQuotes

namespace Inspector

open Fragment (quoted outer depth)

/-- The visited fragments of a document. -/
def Visits (i : Inspector) (document : Text) (V : List Fragment) : Prop :=
  ∃ fragments, (i.extract document).result = .ok fragments ∧ i.visited fragments = V

/-- The visited fragments stay the same, apart from their texts, when the quotes in scope of some of
them are curled. -/
def Stable (i : Inspector) (source : Text) (V : List Fragment) : Prop :=
  ∀ W : List Fragment, W.Sublist V →
    ∃ fragments, (i.extract (i.marks.curlAll W source)).result = .ok fragments ∧
      (i.visited fragments).Perm (V.map (·.on (i.marks.curlAll W source)))

/-- The fragment is an outermost pending one of the document. -/
def Outermost (i : Inspector) (document : Text) (f : Fragment) : Prop :=
  ∃ fragments, (i.extract document).result = .ok fragments ∧ f.IsOutermost i.mode fragments

variable {i : Inspector} {source : Text} {V fragments : List Fragment} {f : Fragment} {k : Nat}

/-- The document behind `k` passes. -/
def layer (i : Inspector) (source : Text) (V : List Fragment) (k : Nat) : Text :=
  i.marks.curlAll (outer V k) source

theorem layer_zero : i.layer source V 0 = source := by
  rw [layer, Fragment.outer_zero, Fragment.curlAll_nil]

/-! ## One layer -/

section

variable (hm : i.marks.Narrow) (hV : Fragment.Nest source V)
  (hperm : (i.visited fragments).Perm (V.map (·.on (i.layer source V k))))

include hm hV hperm

/-- Before pass `k` those fragments are pending that stand inside of `k` others or more. -/
theorem isPending_layer_iff {g : Fragment} :
    g ∈ fragments ∧ g.IsPending i.mode ↔
      ∃ f ∈ quoted V, k ≤ depth (quoted V) f ∧ f.on (i.layer source V k) = g := by
  have hsubset := (Fragment.outer_sublist V k).subset
  have hmem : g ∈ fragments ∧ g.isVisited i.mode = true ↔
      ∃ f ∈ V, f.on (i.layer source V k) = g := by
    rw [← mem_visited_iff, hperm.mem_iff, List.mem_map]
  rw [Fragment.IsPending, ← and_assoc, hmem]
  constructor
  · rintro ⟨⟨f, hf, rfl⟩, hholds⟩
    obtain ⟨hholds, houter⟩ := (hV.holds_on_iff hsubset hf hm).mp hholds
    have hquoted := Fragment.mem_quoted_iff.mpr ⟨hf, hholds⟩
    rw [Fragment.mem_outer_iff, not_and, Nat.not_lt] at houter
    exact ⟨f, hquoted, houter hquoted, rfl⟩
  · rintro ⟨f, hquoted, hle, rfl⟩
    obtain ⟨hf, hholds⟩ := Fragment.mem_quoted_iff.mp hquoted
    refine ⟨⟨f, hf, rfl⟩, (hV.holds_on_iff hsubset hf hm).mpr ⟨hholds, fun houter => ?_⟩⟩
    exact absurd (Fragment.mem_outer_iff.mp houter).2 (Nat.not_lt.mpr hle)

/-- The outermost ones of them stand inside of exactly `k` others. -/
theorem isOutermost_layer_iff {g : Fragment} :
    g.IsOutermost i.mode fragments ↔
      ∃ f ∈ quoted V, depth (quoted V) f = k ∧ f.on (i.layer source V k) = g := by
  have hpending : ∀ {g : Fragment}, g ∈ fragments ∧ g.IsPending i.mode ↔
      ∃ f ∈ quoted V, k ≤ depth (quoted V) f ∧ f.on (i.layer source V k) = g :=
    isPending_layer_iff hm hV hperm
  have hdepth : ∀ f ∈ quoted V, depth (quoted V) f = k ↔
      k ≤ depth (quoted V) f ∧ ∀ g ∈ quoted V, k ≤ depth (quoted V) g → ¬ f.IsInside g := by
    intro f hf
    exact hV.depth_eq_iff (Fragment.quoted_sublist V).subset (hV.start_lt_stop hf)
  have hinside : ∀ {f g : Fragment}, g ∈ quoted V →
      ((f.on (i.layer source V k)).IsInside (g.on (i.layer source V k)) ↔ f.IsInside g) :=
    fun hg => (hV.lies _ (Fragment.mem_quoted_iff.mp hg).1).isInside_on_iff
  constructor
  · rintro ⟨hg, hgpending, hout⟩
    obtain ⟨f, hf, hle, rfl⟩ := hpending.mp ⟨hg, hgpending⟩
    refine ⟨f, hf, (hdepth f hf).mpr ⟨hle, fun g hg hgle hin => ?_⟩, rfl⟩
    obtain ⟨hmem, hpend⟩ := hpending.mpr ⟨g, hg, hgle, rfl⟩
    exact hout _ hmem hpend ((hinside hg).mpr hin)
  · rintro ⟨f, hf, heq, rfl⟩
    obtain ⟨hle, hout⟩ := (hdepth f hf).mp heq
    obtain ⟨hmem, hpend⟩ := hpending.mpr ⟨f, hf, hle, rfl⟩
    refine ⟨hmem, hpend, fun g hg hgpending hin => ?_⟩
    obtain ⟨h, hh, hhle, rfl⟩ := hpending.mp ⟨hg, hgpending⟩
    exact hout h hh hhle ((hinside hh).mp hin)

end

/-! ## One pass -/

section

variable (hm : i.marks.Narrow) (hV : Fragment.Nest source V)
  (hchosen : ∀ r, r ∈ i.chosen fragments ↔ ∃ f ∈ quoted V,
    depth (quoted V) f = k ∧ i.marks.replacement (f.on (i.layer source V k)) = r)

include hV hchosen

/-- Each fragment of the depth is corrected once. -/
theorem length_chosen_layer
    (hstarts : ((i.visited fragments).map Fragment.start).Nodup) :
    (i.chosen fragments).length =
      ((quoted V).filter fun f => depth (quoted V) f = k).length := by
  have hnodup : (i.chosen fragments).Nodup := by
    refine ((pairwise_start_lt hstarts).sublist (Replacement.choose_sublist 0 _)).imp ?_
    rintro r _ hlt rfl
    omega
  have hnodup' : (((quoted V).filter fun f => depth (quoted V) f = k).map fun f =>
      i.marks.replacement (f.on (i.layer source V k))).Nodup := by
    refine List.Nodup.of_map Replacement.start ?_
    rw [List.map_map]
    exact hV.starts.sublist
      ((List.filter_sublist.trans (Fragment.quoted_sublist V)).map Fragment.start)
  rw [((List.perm_ext_iff_of_nodup hnodup hnodup').mpr fun r => ?_).length_eq, List.length_map]
  rw [hchosen, List.mem_map]
  simp only [List.mem_filter, decide_eq_true_eq, and_assoc]

include hm

/-- Of a layer exactly the outermost pending fragments are corrected, and the next layer comes out. -/
theorem weave_layer :
    Replacement.weave (i.layer source V k) 0 (i.chosen fragments) = i.layer source V (k + 1) := by
  have hsubset := (Fragment.outer_sublist V (k + 1)).subset
  have hle := Fragment.outer_subset_succ V k
  have hweave : Replacement.weave (i.layer source V k) (0 : Nat) (i.chosen fragments) =
      (i.layer source V (k + 1)).drop 0 := by
    refine Replacement.weave_eq_drop (Replacement.apart_choose 0 _) (fun r hr => ?_)
      fun j _ hno => ?_
    · obtain ⟨f, hf, hdepth, rfl⟩ := (hchosen r).mp hr
      have hfV := (Fragment.mem_quoted_iff.mp hf).1
      obtain ⟨hmem, hnot⟩ := Fragment.mem_outer_succ_not_mem_iff.mpr ⟨hf, hdepth⟩
      refine ⟨(hV.lies f hfV).le, ?_⟩
      rw [Marks.replacement, hm.correct_eq_curled]
      refine hV.slice_curlAll (f := f) hm hle hsubset hmem hnot fun g hg hgnot => ?_
      obtain ⟨hg, hgdepth⟩ := Fragment.mem_outer_succ_not_mem_iff.mp ⟨hg, hgnot⟩
      exact hV.eq_or_isApart_of_depth_eq (Fragment.quoted_sublist V).subset hf hg
        (hdepth.trans hgdepth.symm)
    · refine hV.getElem?_curlAll_congr hm hle hsubset fun g hg hgnot => ?_
      obtain ⟨hg, hgdepth⟩ := Fragment.mem_outer_succ_not_mem_iff.mp ⟨hg, hgnot⟩
      have hmem := (hchosen _).mpr ⟨g, hg, hgdepth, rfl⟩
      rw [← Bool.not_eq_true, Fragment.owns_iff]
      rintro ⟨hstart, hstop, -⟩
      exact hno _ hmem ⟨hstart, hstop⟩
  rwa [List.drop_zero] at hweave

end

/-! ## Runs -/

section

variable (hlevel : i.level = .fix) (hm : i.marks.Narrow) (hslices : i.Slices)
  (hV : Fragment.Nest source V) (hstable : i.Stable source V)

include hslices hV hstable

theorem exists_extract_layer (k : Nat) :
    ∃ fragments, (i.extract (i.layer source V k)).result = .ok fragments ∧
      (i.visited fragments).Perm (V.map (·.on (i.layer source V k))) ∧
      Fragment.Nest (i.layer source V k) (i.visited fragments) := by
  obtain ⟨fragments, hextract, hperm⟩ := hstable (outer V k) (Fragment.outer_sublist V k)
  refine ⟨fragments, hextract, hperm, (hV.map_on fun f hf => ?_).perm hperm.symm⟩
  have hmem := hperm.mem_iff.mpr (List.mem_map_of_mem hf)
  exact hslices _ fragments hextract _ (mem_visited_iff.mp hmem).1

/-- Behind the last layer nothing is reported. -/
theorem result_warnings_layer (hm : i.marks.Narrow)
    (hdeep : ∀ f ∈ quoted V, depth (quoted V) f < k) :
    (i.warnings (i.layer source V k)).result = .ok [] := by
  obtain ⟨fragments, hextract, hperm, -⟩ := exists_extract_layer hslices hV hstable k
  rw [result_warnings, hextract, Except.map]
  congr 1
  rw [List.eq_nil_iff_forall_not_mem]
  intro w hw
  obtain ⟨-, g, hg, hvisited, hwarning⟩ := mem_review_iff.mp hw
  obtain ⟨f, hf, hle, -⟩ := (isPending_layer_iff hm hV hperm).mp
    ⟨hg, hvisited, (ofFragment?_spec hwarning).1⟩
  exact absurd (hdeep f hf) (Nat.not_lt.mpr hle)

include hlevel hm

/-- Pass `k` leads from layer `k` to the next one. -/
theorem result_pass_layer (k : Nat) :
    (i.pass (i.layer source V k)).result = .ok (i.layer source V (k + 1),
      ((quoted V).filter fun f => depth (quoted V) f = k).length) := by
  obtain ⟨fragments, hextract, hperm, hnest⟩ := exists_extract_layer hslices hV hstable k
  have hchosen : ∀ r, r ∈ i.chosen fragments ↔ ∃ f ∈ quoted V,
      depth (quoted V) f = k ∧ i.marks.replacement (f.on (i.layer source V k)) = r := by
    intro r
    rw [mem_chosen_iff hlevel hm.quoteFree hnest]
    simp only [isOutermost_layer_iff hm hV hperm]
    constructor
    · rintro ⟨_, ⟨f, hf, hdepth, rfl⟩, rfl⟩
      exact ⟨f, hf, hdepth, rfl⟩
    · rintro ⟨f, hf, hdepth, rfl⟩
      exact ⟨_, ⟨f, hf, hdepth, rfl⟩, rfl⟩
  exact result_pass_iff.mpr ⟨fragments, hextract, (weave_layer hm hV hchosen).symm,
    (length_chosen_layer hV hchosen hnest.starts).symm⟩

theorem eq_layer_of_reaches {document : Text} (h : i.Reaches source k document) :
    document = i.layer source V k := by
  induction h with
  | start => exact layer_zero.symm
  | next _ hpass _ ih =>
    rw [ih, result_pass_layer hlevel hm hslices hV hstable] at hpass
    cases hpass
    rfl

/-- A run goes on while fragments are left. -/
theorem reaches_layer (hf : f ∈ quoted V) (hk : k ≤ depth (quoted V) f) :
    i.Reaches source k (i.layer source V k) := by
  induction k with
  | zero =>
    rw [layer_zero]
    exact .start
  | succ k ih =>
    have hle := Nat.le_of_succ_le hk
    exact .next (ih hle) (result_pass_layer hlevel hm hslices hV hstable k)
      (Nat.ne_of_gt (hV.length_filter_depth_pos hf hle))

/-- A run with enough passes left ends with all fragments curled. -/
theorem result_passes_layer {n : Nat} (hdeep : ∀ f ∈ quoted V, depth (quoted V) f < k + n) :
    ∃ settled, (i.passes (i.layer source V k) (outer V k).length n).result =
      .ok ⟨i.marks.curlAll (quoted V) source, (quoted V).length, settled⟩ := by
  induction n generalizing k with
  | zero =>
    rw [Nat.add_zero] at hdeep
    refine ⟨false, ?_⟩
    rw [layer, Fragment.outer_eq_quoted hdeep]
    rfl
  | succ n ih =>
    have hpass := result_pass_layer hlevel hm hslices hV hstable k
    by_cases hcount : ((quoted V).filter fun f => depth (quoted V) f = k).length = 0
    · -- no fragment has this depth, and so none is deeper
      have hdone : ∀ f ∈ quoted V, depth (quoted V) f < k := by
        intro f hf
        by_contra hle
        have := hV.length_filter_depth_pos hf (Nat.not_lt.mp hle)
        omega
      refine ⟨true, result_passes_succ_iff.mpr ⟨_, _, hpass, ?_⟩⟩
      rw [if_pos hcount, layer, Fragment.outer_eq_quoted hdone, Fragment.outer_eq_quoted]
      intro f hf
      exact Nat.lt_succ_of_lt (hdone f hf)
    · obtain ⟨settled, hrun⟩ := ih (k := k + 1) fun f hf => by
        have := hdeep f hf
        omega
      refine ⟨settled, result_passes_succ_iff.mpr ⟨_, _, hpass, ?_⟩⟩
      rwa [if_neg hcount, ← Fragment.length_outer_succ]

theorem result_fix_layer (path : Text) (hdeep : ∀ f ∈ quoted V, depth (quoted V) f < maxPasses) :
    (i.fix path source).result =
      .ok ⟨path, [], some (i.marks.curlAll V source), V.countP (·.holdsStraightQuote)⟩ := by
  obtain ⟨settled, hrun⟩ := result_passes_layer hlevel hm hslices hV hstable (k := 0)
    (n := maxPasses) (by simpa using hdeep)
  rw [layer_zero, Fragment.outer_zero, List.length_nil] at hrun
  have hwarnings := result_warnings_layer hslices hV hstable hm hdeep
  rw [layer, Fragment.outer_eq_quoted hdeep] at hwarnings
  rw [result_fix_of_passes path hrun hwarnings, hV.curlAll_quoted hm, List.countP_eq_length_filter]
  rfl

/-- Over any document of a run a pass corrects the outermost pending fragments. -/
theorem applies_iff_outermost_of_reaches {document : Text} (h : i.Reaches source k document) :
    i.Applies document f ↔ i.Outermost document f := by
  obtain rfl := eq_layer_of_reaches hlevel hm hslices hV hstable h
  obtain ⟨fragments, hextract, -, hnest⟩ := exists_extract_layer hslices hV hstable k
  rw [applies_iff_isOutermost hlevel hm.quoteFree hnest hextract]
  constructor
  · intro hf
    exact ⟨fragments, hextract, hf⟩
  · rintro ⟨fragments', hextract', hf⟩
    rwa [Except.ok.inj (hextract.symm.trans hextract')]

theorem applies_layer_iff (hf : f ∈ V) :
    i.Applies (i.layer source V k) (f.on (i.layer source V k)) ↔
      f ∈ quoted V ∧ depth (quoted V) f = k := by
  obtain ⟨fragments, hextract, hperm, hnest⟩ := exists_extract_layer hslices hV hstable k
  rw [applies_iff_isOutermost hlevel hm.quoteFree hnest hextract,
    isOutermost_layer_iff hm hV hperm]
  constructor
  · rintro ⟨g, hg, hdepth, heq⟩
    have hstart : g.start = f.start := (congrArg Fragment.start heq :)
    obtain rfl := hV.eq_of_start (Fragment.mem_quoted_iff.mp hg).1 hf hstart
    exact ⟨hg, hdepth⟩
  · rintro ⟨hquoted, hdepth⟩
    exact ⟨f, hquoted, hdepth, rfl⟩

/-- A fragment is corrected in the pass that its depth tells, and in no other one. -/
theorem existsUnique_applies (hf : f ∈ V) (hholds : f.holdsStraightQuote = true)
    (hdeep : ∀ f ∈ quoted V, depth (quoted V) f < maxPasses) :
    ∃! k, k < maxPasses ∧
      ∃ document, i.Reaches source k document ∧ i.Applies document (f.on document) := by
  have hquoted := Fragment.mem_quoted_iff.mpr ⟨hf, hholds⟩
  refine ⟨depth (quoted V) f, ⟨hdeep f hquoted, i.layer source V (depth (quoted V) f),
    ?_, ?_⟩, ?_⟩
  · exact reaches_layer hlevel hm hslices hV hstable hquoted (Nat.le_refl _)
  · exact (applies_layer_iff hlevel hm hslices hV hstable hf).mpr ⟨hquoted, rfl⟩
  · rintro k ⟨-, document, hreaches, happlies⟩
    obtain rfl := eq_layer_of_reaches hlevel hm hslices hV hstable hreaches
    exact ((applies_layer_iff hlevel hm hslices hV hstable hf).mp happlies).2.symm

end

end Inspector

/-- A fix corrects in each pass exactly the outermost pending fragments and each pending fragment in
exactly one pass, and it ends with all visited fragments curled at once: for marks of one character,
for nested fragments that the extraction finds again after some of them were curled, and for chains
that are no longer than the number of passes. -/
theorem Linter.fix_eq_curlAll (l : Linter) (language : Language) (hlevel : l.level = .fix)
    (hm : l.marks.Narrow) {source : Text} {V : List Fragment}
    (hvisits : (l.inspector language).Visits source V) (hnested : Fragment.Nested V)
    (hstable : (l.inspector language).Stable source V)
    (hchain : ∀ c, Fragment.IsChain c → (∀ f ∈ c, f ∈ V ∧ f.holdsStraightQuote = true) →
      c.length ≤ Inspector.maxPasses) :
    (∀ k document, (l.inspector language).Reaches source k document →
      ∀ f, (l.inspector language).Applies document f ↔
        (l.inspector language).Outermost document f) ∧
    (∀ f ∈ V, f.holdsStraightQuote = true → ∃! k, k < Inspector.maxPasses ∧
      ∃ document, (l.inspector language).Reaches source k document ∧
        (l.inspector language).Applies document (f.on document)) ∧
    ∀ path, (l.inspect .fix language path source).result =
      .ok ⟨path, [], some (l.marks.curlAll V source), V.countP (·.holdsStraightQuote)⟩ := by
  have hslices := l.slices_inspector language
  obtain ⟨fragments, hextract, rfl⟩ := hvisits
  have hV : Fragment.Nest source ((l.inspector language).visited fragments) :=
    ⟨hnested, fun f hf => hslices source fragments hextract f (Inspector.mem_visited_iff.mp hf).1⟩
  have hdeep : ∀ f ∈ Fragment.quoted ((l.inspector language).visited fragments),
      Fragment.depth (Fragment.quoted ((l.inspector language).visited fragments)) f <
        Inspector.maxPasses := fun f hf => hV.depth_lt_of_isChain hf hchain
  refine ⟨fun k document h f => ?_, fun f hf hholds => ?_, fun path => ?_⟩
  · exact Inspector.applies_iff_outermost_of_reaches hlevel hm hslices hV hstable h
  · exact Inspector.existsUnique_applies hlevel hm hslices hV hstable hf hholds hdeep
  · exact Inspector.result_fix_layer hlevel hm hslices hV hstable path hdeep

/-- A template literal with quotes inside and outside of its expression next to a string literal: the
string literal in the expression is left to the second pass, the other two are corrected in the first
one. -/
theorem Linter.fix_eq_curlAll_nested :
    let l : Linter := { marks := {} }
    let i := l.inspector .script
    let source := text "a = [`'$\x7b'\"b\"'\x7d'`, '\"'];"
    let V : List Fragment :=
      [⟨.templateLiteral, 5, 17, text "`'$\x7b'\"b\"'\x7d'`", .script, some [⟨2, 10⟩]⟩,
        ⟨.literal, 9, 14, text "'\"b\"'", .script, none⟩,
        ⟨.literal, 19, 22, text "'\"'", .script, none⟩]
    (l.level = .fix ∧ l.marks.Narrow ∧ i.Visits source V ∧ Fragment.Nested V ∧ i.Stable source V ∧
      ∀ c, Fragment.IsChain c → (∀ f ∈ c, f ∈ V ∧ f.holdsStraightQuote = true) →
        c.length ≤ Inspector.maxPasses) ∧
    (∀ f ∈ V, f.holdsStraightQuote = true → ∃! k, k < Inspector.maxPasses ∧
      ∃ document, i.Reaches source k document ∧ i.Applies document (f.on document)) ∧
    ∀ path, (l.inspect .fix .script path source).result =
      .ok ⟨path, [], some (text "a = [`‘$\x7b'“b”'\x7d’`, '“'];"), 3⟩ := by
  intro l i source V
  have hm : l.marks.Narrow := by decide
  have hvisits : i.Visits source V := ⟨V, by decide +kernel, by decide⟩
  have hnested : Fragment.Nested V := ⟨by decide, by decide⟩
  have hstable : i.Stable source V := by
    have hall : ∀ W ∈ V.sublists, (i.extract (i.marks.curlAll W source)).result =
        .ok (V.map (·.on (i.marks.curlAll W source))) := by decide +kernel
    intro W hW
    refine ⟨_, hall W (List.mem_sublists.mpr hW), ?_⟩
    have hall : ∀ f ∈ V, f.isVisited i.mode = true := by decide
    rw [Inspector.visited, List.filter_eq_self.mpr]
    rw [List.forall_mem_map]
    exact hall
  have hchain : ∀ c, Fragment.IsChain c →
      (∀ f ∈ c, f ∈ V ∧ f.holdsStraightQuote = true) → c.length ≤ Inspector.maxPasses :=
    fun c hc hmem => Nat.le_trans (hc.length_le fun f hf => (hmem f hf).1) (by decide)
  obtain ⟨-, honce, hfix⟩ := l.fix_eq_curlAll .script rfl hm hvisits hnested hstable hchain
  refine ⟨⟨rfl, hm, hvisits, hnested, hstable, hchain⟩, honce, fun path => ?_⟩
  have hcurled : l.marks.curlAll V source = text "a = [`‘$\x7b'“b”'\x7d’`, '“'];" := by
    decide +kernel
  rw [hfix path, hcurled]
  rfl

end SmartQuotes
