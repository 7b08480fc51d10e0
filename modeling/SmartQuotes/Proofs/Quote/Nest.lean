import Mathlib.Data.Finset.Max
import SmartQuotes.Proofs.Extent
import SmartQuotes.Proofs.Quote.Narrow

/-!
# Nested fragments

A fragment may stand in an embedded expression of a template literal. In a nest of fragments any two
of them are apart or one stands in the other, and so each character of the document is in the scope
of one fragment at most. `Marks.curlAll` curls the quotes in scope of fragments of a nest all at
once; a fragment that is corrected in a document where others are curled already is curled as if it
had been among them.
-/

namespace SmartQuotes

namespace Fragment

/-- The first fragment stands in an embedded expression of the second one. -/
def IsInside (g f : Fragment) : Prop :=
  f.start < g.start ∧ g.stop ≤ f.stop ∧
    ∃ s ∈ f.embedded, f.start + s.start ≤ g.start ∧ g.stop ≤ f.start + s.stop

instance (g f : Fragment) : Decidable (g.IsInside f) := instDecidableAnd

/-- One of the fragments stops before the other one starts. -/
def IsApart (f g : Fragment) : Prop := f.stop ≤ g.start ∨ g.stop ≤ f.start

instance (f g : Fragment) : Decidable (f.IsApart g) := instDecidableOr

/-- The fragments start at different places, and any two of them are apart or nested. -/
structure Nested (V : List Fragment) : Prop where
  starts : (V.map Fragment.start).Nodup
  nested : ∀ f ∈ V, ∀ g ∈ V, f = g ∨ f.IsApart g ∨ f.IsInside g ∨ g.IsInside f

/-- A nest of slices of a document. -/
structure Nest (document : Text) (V : List Fragment) : Prop extends Nested V where
  lies : ∀ f ∈ V, f.LiesIn document 0 document.length

/-- The fragment with what another document holds in its place. -/
def on (document : Text) (f : Fragment) : Fragment :=
  { f with text := document.slice f.start f.stop }

/-- Whether the character at a position of the document is one of the fragment, and in scope. -/
def owns (f : Fragment) (k : Nat) : Bool :=
  f.start ≤ k && k < f.stop && !f.keeps (k - f.start).toNat

end Fragment

/-- The document with the quotes in scope of the fragments curled, all at once, each by the counters
of its own fragment. -/
def Marks.curlAll (m : Marks) (V : List Fragment) (document : Text) : Text :=
  document.zipIdx.map fun x =>
    match V.find? (·.owns x.2) with
    | some f => (m.curled f)[(x.2 - f.start).toNat]?.getD x.1
    | none => x.1

namespace Fragment

variable {document other : Text} {V W W' : List Fragment} {f g h : Fragment} {m : Marks} {k : Nat}

theorem IsInside.trans (hfg : f.IsInside g) (hgh : g.IsInside h) : f.IsInside h := by
  obtain ⟨hstart, hstop, -⟩ := hfg
  obtain ⟨hstart', hstop', s, hs, hle, hle'⟩ := hgh
  exact ⟨by omega, by omega, s, hs, by omega, by omega⟩

theorem not_isInside_self (f : Fragment) : ¬ f.IsInside f := fun h => absurd h.1 (by omega)

theorem Nested.eq_of_start (hV : Nested V) (hf : f ∈ V) (hg : g ∈ V) (h : f.start = g.start) :
    f = g := List.inj_on_of_nodup_map hV.starts hf hg h

/-! ## Scopes -/

theorem owns_iff : f.owns k = true ↔
    f.start ≤ k ∧ k < f.stop ∧ f.keeps (k - f.start).toNat = false := by
  simp [owns, and_assoc]

/-- A fragment keeps what stands inside it. -/
theorem keeps_of_isInside (hgf : g.IsInside f) (hstart : g.start ≤ k) (hstop : k < g.stop) :
    f.keeps (k - f.start).toNat = true := by
  obtain ⟨hlt, -, s, hs, hle, hle'⟩ := hgf
  rw [keeps, Bool.or_assoc, Bool.or_eq_true]
  exact Or.inl (Span.covered_iff.mpr ⟨s, hs, by omega, by omega⟩)

/-- A character is in the scope of one fragment at most. -/
theorem Nested.eq_of_owns (hV : Nested V) (hf : f ∈ V) (hg : g ∈ V) (hfk : f.owns k = true)
    (hgk : g.owns k = true) : f = g := by
  obtain ⟨hfstart, hfstop, hfkeeps⟩ := owns_iff.mp hfk
  obtain ⟨hgstart, hgstop, hgkeeps⟩ := owns_iff.mp hgk
  rcases hV.nested f hf g hg with heq | happart | hin | hin
  · exact heq
  · rw [IsApart] at happart
    omega
  · rw [keeps_of_isInside hin hfstart hfstop] at hgkeeps
    cases hgkeeps
  · rw [keeps_of_isInside hin hgstart hgstop] at hfkeeps
    cases hfkeeps

/-- What one fragment has in scope no other one has. -/
theorem Nested.not_owns (hV : Nested V) (hW : W ⊆ V) (hf : f ∈ V) (hfW : f ∉ W)
    (hk : f.owns k = true) : ∀ g ∈ W, g.owns k = false := by
  intro g hg
  by_contra hgk
  rw [Bool.not_eq_false] at hgk
  exact hfW (hV.eq_of_owns (hW hg) hf hgk hk ▸ hg)

theorem lt_length_of_keeps {j : Nat} (h : f.keeps j = false) : j < f.text.length := by
  rw [keeps, Bool.or_eq_false_iff, decide_eq_false_iff_not] at h
  omega

namespace LiesIn

variable (hf : f.LiesIn document 0 document.length)

include hf

theorem length_text : (f.text.length : Int) = f.stop - f.start := by
  rw [hf.text_eq, Text.length_slice hf.start_le hf.le hf.stop_le]

/-- A fragment that holds a straight quote is not empty. -/
theorem start_lt_stop (h : f.holdsStraightQuote = true) : f.start < f.stop := by
  obtain ⟨k, c, hc, -⟩ := holdsStraightQuote_iff.mp h
  have hlt := (List.getElem?_eq_some_iff.mp hc).choose
  have := hf.length_text
  omega

theorem length_on (hlength : other.length = document.length) :
    (f.on other).text.length = f.text.length := by
  have hon := Text.length_slice (t := other) hf.start_le hf.le (by rw [hlength]; exact hf.stop_le)
  have htext := hf.length_text
  rw [← hon] at htext
  exact (Int.ofNat_inj.mp htext).symm

theorem on_self : f.on document = f := by
  rw [on, ← hf.text_eq]

theorem embedded_on : (f.on other).embedded = f.embedded := by
  by_cases hkind : f.kind = .templateLiteral
  · obtain ⟨spans, hspans⟩ := Option.isSome_iff_exists.mp (hf.delimited.isSome_iff.mpr hkind)
    simp only [embedded, on, hspans]
    rfl
  · have hnil : ∀ g : Fragment, g.kind = f.kind → g.embedded = [] := by
      intro g hg
      unfold embedded
      split
      · next h => exact absurd (hg.symm.trans h) hkind
      · rfl
    rw [hnil (f.on other) rfl, hnil f rfl]

theorem isInside_on_iff : (g.on other).IsInside (f.on other) ↔ g.IsInside f := by
  rw [IsInside, hf.embedded_on]
  rfl

/-- What a fragment keeps is known from its place. -/
theorem keeps_on (hlength : other.length = document.length) : (f.on other).keeps = f.keeps := by
  funext j
  rw [keeps, keeps, hf.embedded_on, hf.length_on hlength]
  rfl

theorem getElem?_on {j : Nat} (hj : j < f.text.length) :
    (f.on other).text[j]? = other[f.start.toNat + j]? := by
  have hlength := hf.length_text
  have := hf.start_le
  rw [on, Text.getElem?_slice hf.start_le (by omega), if_pos (by omega)]

theorem owns_add {j : Nat} (h : f.keeps j = false) : f.owns (f.start.toNat + j) = true := by
  have hj := lt_length_of_keeps h
  have hlength := hf.length_text
  have := hf.start_le
  rw [owns_iff]
  refine ⟨by omega, by omega, ?_⟩
  rwa [show ((f.start.toNat + j : Nat) - f.start).toNat = j by omega]

end LiesIn

namespace Nest

theorem perm (hV : Nest document V) (h : V.Perm W) : Nest document W where
  starts := (h.map Fragment.start).nodup_iff.mp hV.starts
  nested f hf g hg := hV.nested f (h.mem_iff.mpr hf) g (h.mem_iff.mpr hg)
  lies f hf := hV.lies f (h.mem_iff.mpr hf)

/-- The same fragments of another document are a nest, too. -/
theorem map_on (hV : Nest document V)
    (hlies : ∀ f ∈ V, (f.on other).LiesIn other 0 other.length) : Nest other (V.map (·.on other)) where
  starts := by
    rw [List.map_map]
    exact hV.starts
  nested := by
    intro x hx y hy
    obtain ⟨f, hf, rfl⟩ := List.mem_map.mp hx
    obtain ⟨g, hg, rfl⟩ := List.mem_map.mp hy
    rw [(hV.lies f hf).isInside_on_iff, (hV.lies g hg).isInside_on_iff]
    exact (hV.nested f hf g hg).imp_left (congrArg (on other))
  lies := by
    intro x hx
    obtain ⟨f, hf, rfl⟩ := List.mem_map.mp hx
    exact hlies f hf

end Nest

/-! ## Curling at once -/

theorem curlAll_nil (m : Marks) (document : Text) : m.curlAll [] document = document := by
  have hfst : (fun x : Char × Nat => x.1) = Prod.fst := rfl
  rw [Marks.curlAll]
  simp only [List.find?_nil, hfst]
  exact List.zipIdx_map_fst 0 document

@[simp] theorem length_curlAll (m : Marks) (V : List Fragment) (document : Text) :
    (m.curlAll V document).length = document.length := by
  rw [Marks.curlAll, List.length_map, List.length_zipIdx]

theorem getElem?_curlAll_of_none (hno : ∀ f ∈ W, f.owns k = false) :
    (m.curlAll W document)[k]? = document[k]? := by
  have hfind : W.find? (·.owns k) = none := by simpa using hno
  rw [Marks.curlAll, List.getElem?_map, List.getElem?_zipIdx, Option.map_map]
  cases document[k]? with
  | none => rfl
  | some c => simp [hfind]

theorem Nest.getElem?_curlAll_of_owns (hV : Nest document V) (hm : m.Narrow) (hW : W ⊆ V)
    (hf : f ∈ W) (hk : f.owns k = true) :
    (m.curlAll W document)[k]? = (m.curled f)[(k - f.start).toNat]? := by
  have hlies := hV.lies f (hW hf)
  obtain ⟨hstart, hstop, -⟩ := owns_iff.mp hk
  have hfind : W.find? (·.owns k) = some f := by
    have hsome : (W.find? (·.owns k)).isSome = true := List.find?_isSome.mpr ⟨f, hf, hk⟩
    obtain ⟨g, hg⟩ := Option.isSome_iff_exists.mp hsome
    rw [hg, hV.eq_of_owns (hW (List.mem_of_find?_eq_some hg)) (hW hf)
      (by simpa using List.find?_some hg) hk]
  have hlt : k < document.length := by have := hlies.stop_le; omega
  have hlt' : (k - f.start).toNat < (m.curled f).length := by
    have := hlies.length_text
    rw [Marks.length_curled hm]
    omega
  rw [Marks.curlAll, List.getElem?_map, List.getElem?_zipIdx, List.getElem?_eq_getElem hlt,
    List.getElem?_eq_getElem hlt']
  simp [hfind, List.getElem?_eq_getElem hlt']

/-- Curling more fragments changes nothing outside of their scopes. -/
theorem Nest.getElem?_curlAll_congr (hV : Nest document V) (hm : m.Narrow) (hWW' : W ⊆ W')
    (hW' : W' ⊆ V) (hno : ∀ g ∈ W', g ∉ W → g.owns k = false) :
    (m.curlAll W' document)[k]? = (m.curlAll W document)[k]? := by
  by_cases hown : ∃ g ∈ W, g.owns k = true
  · obtain ⟨g, hg, hk⟩ := hown
    rw [hV.getElem?_curlAll_of_owns hm hW' (hWW' hg) hk,
      hV.getElem?_curlAll_of_owns hm (fun _ h => hW' (hWW' h)) hg hk]
  · have hnone : ∀ g ∈ W, g.owns k = false := by simpa using hown
    rw [getElem?_curlAll_of_none hnone, getElem?_curlAll_of_none]
    intro g hg
    by_cases hgW : g ∈ W
    · exact hnone g hgW
    · exact hno g hg hgW

/-! ## Fragments in curled documents -/

section

variable (hV : Nest document V) (hW : W ⊆ V) (hf : f ∈ V)

include hV hW hf

/-- A fragment that was not curled has the characters in scope that it had. -/
theorem Nest.getElem?_on_of_not_mem (hfW : f ∉ W) {j : Nat} (h : f.keeps j = false) :
    (f.on (m.curlAll W document)).text[j]? = f.text[j]? := by
  have hlies := hV.lies f hf
  have hj := lt_length_of_keeps h
  rw [hlies.getElem?_on hj,
    getElem?_curlAll_of_none (hV.not_owns hW hf hfW (hlies.owns_add h)), ← hlies.getElem?_on hj,
    hlies.on_self]

/-- A fragment that was curled has curled characters in scope. -/
theorem Nest.getElem?_on_of_mem (hm : m.Narrow) (hfW : f ∈ W) {j : Nat} (h : f.keeps j = false) :
    (f.on (m.curlAll W document)).text[j]? = (m.curled f)[j]? := by
  have hlies := hV.lies f hf
  have := hlies.start_le
  rw [hlies.getElem?_on (lt_length_of_keeps h),
    hV.getElem?_curlAll_of_owns hm hW hfW (hlies.owns_add h)]
  congr 1
  omega

/-- A fragment holds straight quotes until it is curled. -/
theorem Nest.holds_on_iff (hm : m.Narrow) :
    (f.on (m.curlAll W document)).holdsStraightQuote = true ↔
      f.holdsStraightQuote = true ∧ f ∉ W := by
  rw [holdsStraightQuote_iff, holdsStraightQuote_iff,
    (hV.lies f hf).keeps_on (length_curlAll m W document)]
  constructor
  · rintro ⟨j, c, hc, hstraight, hkeeps⟩
    by_cases hfW : f ∈ W
    · rw [hV.getElem?_on_of_mem hW hf hm hfW hkeeps] at hc
      exact absurd hstraight (Marks.not_isStraight_of_getElem?_curled hm hkeeps hc)
    · rw [hV.getElem?_on_of_not_mem hW hf hfW hkeeps] at hc
      exact ⟨⟨j, c, hc, hstraight, hkeeps⟩, hfW⟩
  · rintro ⟨⟨j, c, hc, hstraight, hkeeps⟩, hfW⟩
    refine ⟨j, c, ?_, hstraight, hkeeps⟩
    rw [hV.getElem?_on_of_not_mem hW hf hfW hkeeps, hc]

end

/-- A fragment that is curled in a curled document is curled as if it had been among the others. -/
theorem Nest.slice_curlAll (hV : Nest document V) (hm : m.Narrow) (hWW' : W ⊆ W') (hW' : W' ⊆ V)
    (hf : f ∈ W') (hfW : f ∉ W) (halone : ∀ g ∈ W', g ∉ W → f = g ∨ f.IsApart g) :
    (m.curlAll W' document).slice f.start f.stop = m.curled (f.on (m.curlAll W document)) := by
  have hW : W ⊆ V := fun _ h => hW' (hWW' h)
  have hlies := hV.lies f (hW' hf)
  have hlength := length_curlAll m W document
  have hkeeps := hlies.keeps_on hlength
  change (f.on (m.curlAll W' document)).text = _
  apply List.ext_getElem?
  intro j
  by_cases hj : j < f.text.length
  · by_cases hkeep : f.keeps j = true
    · -- what the fragment keeps is in the scope of none that was curled last
      rw [Marks.getElem?_curled_of_keeps hm (by rwa [hkeeps]), hlies.getElem?_on hj,
        hlies.getElem?_on hj]
      refine hV.getElem?_curlAll_congr hm hWW' hW' fun g hg hgW => ?_
      rw [← Bool.not_eq_true, owns_iff]
      have hstart := hlies.start_le
      have htext := hlies.length_text
      rcases halone g hg hgW with rfl | happart
      · rintro ⟨-, -, hkeep'⟩
        rw [show ((f.start.toNat + j : Nat) - f.start).toNat = j by omega, hkeep] at hkeep'
        cases hkeep'
      · rw [IsApart] at happart
        omega
    · rw [Bool.not_eq_true] at hkeep
      rw [hV.getElem?_on_of_mem hW' (hW' hf) hm hf hkeep]
      refine (Marks.getElem?_curled_congr hm hkeeps (hlies.length_on hlength) ?_ hkeep).symm
      exact fun j hj => hV.getElem?_on_of_not_mem hW (hW' hf) hfW hj
  · rw [List.getElem?_eq_none, List.getElem?_eq_none]
    · rw [Marks.length_curled hm, hlies.length_on hlength]
      omega
    · rw [hlies.length_on (length_curlAll m W' document)]
      omega

end Fragment

end SmartQuotes
