import SmartQuotes.Proofs.Quote.Scan
import SmartQuotes.Proofs.Text.Slice

/-!
# What shifted spans hold

Conversion puts a text in the place of each position: a mark for a quote in scope, and the character
itself for all others (`Family.output`, which looks at positions only). Shifting moves spans that
stand in the order of their starts, and may overlap, to the places where their characters have gone:
a shifted span holds what its span held (`slice_moved`), and outside of the shifted spans stands
what was put in the place of the positions outside of the given ones (`outside_curl_take`).
-/

namespace SmartQuotes

namespace Span

/-- The span lies in the text; it may be empty. -/
def IsWithin (s : Span) (t : Text) : Prop := 0 ≤ s.start ∧ s.start ≤ s.stop ∧ s.stop ≤ t.length

instance (s : Span) (t : Text) : Decidable (s.IsWithin t) :=
  inferInstanceAs (Decidable (0 ≤ s.start ∧ s.start ≤ s.stop ∧ s.stop ≤ t.length))

instance (spans : List Span) : Decidable (Ascending spans) :=
  inferInstanceAs (Decidable (spans.Pairwise fun a b => a.start ≤ b.start))

/-- No position lies in both spans. -/
def IsApart (a b : Span) : Prop := ∀ i, a.covers i = true → b.covers i = false

end Span

namespace Text

/-- The characters of a text, read from position `i` on, that none of the spans covers. -/
def outsideFrom (spans : List Span) (i : Nat) (t : Text) : Text :=
  ((t.zipIdx i).filter fun p => !Span.covered spans p.2).map (·.1)

/-- The characters of a text that none of the spans covers. -/
def outside (t : Text) (spans : List Span) : Text := outsideFrom spans 0 t

variable {spans : List Span} {i : Nat} {t : Text}

theorem outsideFrom_append (spans : List Span) (i : Nat) (t u : Text) :
    outsideFrom spans i (t ++ u) = outsideFrom spans i t ++ outsideFrom spans (i + t.length) u := by
  rw [outsideFrom, List.zipIdx_append, List.filter_append, List.map_append]
  rfl

theorem outsideFrom_of_none
    (h : ∀ k, i ≤ k → k < i + t.length → Span.covered spans k = false) :
    outsideFrom spans i t = t := by
  have hall : ∀ p ∈ t.zipIdx i, (!Span.covered spans p.2) = true := by
    intro p hp
    obtain ⟨hle, hlt, -⟩ := List.mem_zipIdx hp
    rw [h p.2 hle hlt]
    rfl
  rw [outsideFrom, List.filter_eq_self.mpr hall, List.zipIdx_map_fst]

theorem outsideFrom_of_all
    (h : ∀ k, i ≤ k → k < i + t.length → Span.covered spans k = true) :
    outsideFrom spans i t = [] := by
  have hnone : ∀ p ∈ t.zipIdx i, ¬ (!Span.covered spans p.2) = true := by
    intro p hp
    obtain ⟨hle, hlt, -⟩ := List.mem_zipIdx hp
    rw [h p.2 hle hlt]
    decide
  rw [outsideFrom, List.filter_eq_nil_iff.mpr hnone, List.map_nil]

end Text

namespace Family

/-! ## What is put in the place of a position -/

section

variable (f : Family) (t : Text) (trim : Int) (excluded : List Span)

/-- Whether there is a quote in scope at position `k`. -/
def convertsAt (k : Nat) : Bool :=
  Text.inScopeAt t.length trim excluded k && t[k]?.any fun c => [c] == f.quote

/-- What is put in the place of position `k`: a mark for a quote in scope, which depends on how many
of them stand in front of it, and else the character itself. -/
def output (k : Nat) : Text :=
  if f.convertsAt t trim excluded k then
    f.kth ((List.range k).countP (f.convertsAt t trim excluded) + 1)
  else t[k]?.toList

end

variable {f : Family} {q : Char} {t : Text} {trim : Int} {excluded : List Span}

theorem curl_singleton (open_ : Bool) (m : Bool × Char) :
    f.curl open_ [m] = if f.converts m then f.mark open_ else [m.2] := by
  simp only [curl, List.append_nil]

section

variable (h : Span.Ascending excluded)

include h

theorem converts_getElem_scope {k : Nat} (hk : k < (t.scope trim excluded).length) :
    f.converts (t.scope trim excluded)[k] = f.convertsAt t trim excluded k := by
  have hk' : k < t.length := by simpa using hk
  simp [Text.scope_eq_map h, converts, convertsAt, List.getElem?_eq_getElem hk']

/-- Only quotes outside the spans are converted. -/
theorem not_converts_of_covered {k : Nat} (hk : k < (t.scope trim excluded).length)
    (hcovered : Span.covered excluded k = true) :
    f.converts (t.scope trim excluded)[k] = false := by
  rw [converts_getElem_scope h, convertsAt, Text.inScopeAt, hcovered]
  rfl

theorem take_succ_scope (f : Family) (trim : Int) {k : Nat} (hk : k < t.length) :
    ∃ m, (t.scope trim excluded).take (k + 1) = (t.scope trim excluded).take k ++ [m] ∧
      m.2 = t[k] ∧ f.converts m = f.convertsAt t trim excluded k := by
  have hk' : k < (t.scope trim excluded).length := by simpa using hk
  refine ⟨(t.scope trim excluded)[k], List.take_succ_eq_append_getElem hk', ?_,
    converts_getElem_scope h hk'⟩
  simp [Text.scope_eq_map h]

theorem turn_take {k : Nat} (hk : k ≤ t.length) :
    f.turn true ((t.scope trim excluded).take k) =
      ((List.range k).countP (f.convertsAt t trim excluded) % 2 == 0) := by
  induction k with
  | zero => rfl
  | succ k ih =>
    obtain ⟨m, htake, -, hm⟩ := take_succ_scope h f trim hk
    rw [htake, turn_append, ih (by omega), turn, turn, hm, List.range_succ, List.countP_append,
      List.countP_singleton]
    split
    · exact not_even_eq _
    · rfl

theorem curl_take_succ {k : Nat} (hk : k < t.length) :
    f.curl true ((t.scope trim excluded).take (k + 1)) =
      f.curl true ((t.scope trim excluded).take k) ++ f.output t trim excluded k := by
  obtain ⟨m, htake, hchar, hm⟩ := take_succ_scope h f trim hk
  rw [htake, curl_append, turn_take h (by omega), curl_singleton, hm, mark_eq_kth, hchar, output,
    List.getElem?_eq_getElem hk, Option.toList_some]

/-- Conversion puts the outputs of the positions one behind the other. -/
theorem curl_take {k : Nat} (hk : k ≤ t.length) :
    f.curl true ((t.scope trim excluded).take k) =
      (List.range k).flatMap (f.output t trim excluded) := by
  induction k with
  | zero => rfl
  | succ k ih =>
    rw [curl_take_succ h hk, ih (by omega), List.range_succ, List.flatMap_append,
      List.flatMap_singleton]

/-! ## What stands outside of the shifted spans -/

/-- Outside of the moved spans stands what was put in the place of the positions outside. -/
theorem outside_curl_take (f : Family) (trim : Int) {k : Nat} (hk : k ≤ t.length) :
    (f.curl true ((t.scope trim excluded).take k)).outside
        (excluded.map (f.moved (t.scope trim excluded))) =
      ((List.range k).filter fun j : Nat => !Span.covered excluded j).flatMap
        (f.output t trim excluded) := by
  induction k with
  | zero => rfl
  | succ k ih =>
    have hk' : k < (t.scope trim excluded).length := by
      rw [Text.length_scope]
      exact hk
    -- the places of the output of one position are covered together, or none of them is
    have hcovered : ∀ p, f.place (t.scope trim excluded) k ≤ p →
        p < f.place (t.scope trim excluded) k + (f.output t trim excluded k).length →
          Span.covered (excluded.map (f.moved (t.scope trim excluded))) p =
            Span.covered excluded k := by
      intro p hlow hhigh
      refine covered_map_moved (fun j hj => not_converts_of_covered h hj) hk' hlow ?_
      rwa [place, curl_take_succ h hk, List.length_append]
    rw [curl_take_succ h hk, Text.outside, Text.outsideFrom_append, ← Text.outside, ih (by omega),
      List.range_succ, List.filter_append, List.flatMap_append, Nat.zero_add, ← place]
    congr 1
    cases hat : Span.covered excluded k with
    | true =>
      rw [Text.outsideFrom_of_all fun p hlow hhigh => (hcovered p hlow hhigh).trans hat]
      simp [hat]
    | false =>
      rw [Text.outsideFrom_of_none fun p hlow hhigh => (hcovered p hlow hhigh).trans hat]
      simp [hat]

end

/-! ## Moved spans -/

section

variable {l : List (Bool × Char)} (hnone : ∀ (k : Nat) (hk : k < l.length),
  Span.covered excluded k = true → f.converts l[k] = false)

include hnone

/-- A span in the text goes from the place of its start to that of its stop. -/
theorem moved_eq_place {a b : Nat} (hmem : (⟨a, b⟩ : Span) ∈ excluded) (hab : a ≤ b)
    (hb : b ≤ l.length) : f.moved l ⟨a, b⟩ = ⟨f.place l a, f.place l b⟩ := by
  have hgain : f.gainTo l b = f.gainTo l a :=
    gainTo_eq_of_none (by omega) fun k hk hak hkb =>
      hnone k hk (Span.covered_iff.mpr ⟨_, hmem, hak, hkb⟩)
  rw [moved, f.place_eq hb, f.place_eq (Nat.le_trans hab hb), hgain]

/-- What stands in a span is copied to the place of the moved span. -/
theorem extract_curl {a b : Nat} (hmem : (⟨a, b⟩ : Span) ∈ excluded) (hab : a ≤ b) :
    Text.extract (f.curl true l) (f.place l a) (f.place l b) =
      Text.extract (l.map (·.2)) a b := by
  have hcopy : ∀ m ∈ (l.take b).drop a, f.converts m = false := by
    intro m hm
    obtain ⟨k, hk, rfl⟩ := List.mem_iff_getElem.mp hm
    rw [List.length_drop, List.length_take] at hk
    rw [List.getElem_drop, List.getElem_take]
    exact hnone (a + k) (by omega) (Span.covered_iff.mpr ⟨_, hmem, by simp, by simp; omega⟩)
  have hfront : (f.curl true l).take (f.place l b) = f.curl true (l.take b) := by
    have hcut : f.curl true l =
        f.curl true (l.take b) ++ f.curl (f.turn true (l.take b)) (l.drop b) := by
      rw [← curl_append, List.take_append_drop]
    rw [hcut, place, List.take_left]
  have hsplit : l.take b = l.take a ++ (l.take b).drop a := by
    have htake : (l.take b).take a = l.take a := by rw [List.take_take, Nat.min_eq_left hab]
    rw [← htake, List.take_append_drop]
  rw [Text.extract, hfront, hsplit, curl_append, curl_of_none hcopy, place, List.drop_left,
    List.map_drop, List.map_take, Text.extract]

/-- A shifted span holds what its span held. -/
theorem slice_moved {s : Span} (hmem : s ∈ excluded) (hs : s.IsWithin (l.map (·.2))) :
    (f.moved l s).IsWithin (f.curl true l) ∧
      Text.slice (f.curl true l) (f.moved l s).start (f.moved l s).stop =
        Text.slice (l.map (·.2)) s.start s.stop := by
  obtain ⟨hstart, hle, hstop⟩ := hs
  obtain ⟨start, stop⟩ := s
  obtain ⟨a, rfl⟩ := Int.eq_ofNat_of_zero_le hstart
  obtain ⟨b, rfl⟩ := Int.eq_ofNat_of_zero_le (a := stop) (Int.le_trans hstart hle)
  rw [List.length_map] at hstop
  have hab : a ≤ b := Int.ofNat_le.mp hle
  have hb : b ≤ l.length := Int.ofNat_le.mp hstop
  have hend := f.place_mono (l := l) hb (Nat.le_refl _)
  rw [place, place, List.take_length, ← place] at hend
  rw [moved_eq_place hnone hmem hab hb, Text.slice_natCast, Text.slice_natCast,
    extract_curl hnone hmem hab]
  have hplaces := f.place_mono (l := l) hab hb
  exact ⟨⟨Int.natCast_nonneg _, Int.ofNat_le.mpr hplaces, Int.ofNat_le.mpr hend⟩, rfl⟩

/-- Spans with no position in common have none in common where they are moved to. -/
theorem pairwise_isApart_moved (h : Span.Ascending excluded)
    (hle : ∀ s ∈ excluded, s.start ≤ s.stop) (hapart : excluded.Pairwise Span.IsApart) :
    (excluded.map (f.moved l)).Pairwise Span.IsApart := by
  rw [List.pairwise_map]
  refine (h.and hapart).imp_of_mem fun {a b} ha hb ⟨hab, hdisjoint⟩ i hi => ?_
  rw [← Bool.not_eq_true]
  intro hi'
  rw [Span.covers_iff] at hi hi'
  simp only [moved] at hi hi'
  -- a span that covers something after the move was not empty before it
  have hstop : a.stop ≤ b.start := by
    by_contra hlt
    have hcover := hdisjoint b.start (Span.covers_iff.mpr ⟨hab, by omega⟩)
    rw [← Bool.not_eq_true, Span.covers_iff] at hcover
    omega
  have hgain : f.gainTo l a.stop = f.gainTo l a.start :=
    gainTo_eq_of_none (hle a ha) fun k hk hak hkb =>
      hnone k hk (Span.covered_iff.mpr ⟨_, ha, hak, hkb⟩)
  have := f.add_gainTo_mono l hstop
  omega

end

/-! ## Shifting along a conversion -/

/-- Shifting goes along with conversion. To each span in the text, where spans stand in the order of
their starts and may overlap, there is a shifted one in the same order: as long, in the converted
text, and with the same characters. Spans that are apart stay so, and so do those of which each one
starts behind those before it. Outside of the shifted spans stands what the positions outside of the
given ones become. -/
theorem shift_holds (q : Char) (opening closing t : Text) (trim : Int) (excluded : List Span)
    (h : Span.Ascending excluded) (hin : ∀ s ∈ excluded, s.IsWithin t) :
    let f : Family := ⟨[q], opening, closing⟩
    let out := f.convert t trim excluded
    let shifted := f.shift t trim excluded
    List.Forall₂ (fun s s' => s'.IsWithin out ∧ s'.stop - s'.start = s.stop - s.start ∧
        out.slice s'.start s'.stop = t.slice s.start s.stop) excluded shifted ∧
      (excluded.Pairwise Span.IsApart → shifted.Pairwise Span.IsApart) ∧
      (Span.Ordered excluded → Span.Ordered shifted) ∧
      out.outside shifted = ((List.range t.length).filter fun k : Nat =>
        !Span.covered excluded k).flatMap (f.output t trim excluded) := by
  intro f out shifted
  have hnone : ∀ (k : Nat) (hk : k < (t.scope trim excluded).length),
      Span.covered excluded k = true → f.converts (t.scope trim excluded)[k] = false :=
    fun k hk => not_converts_of_covered h hk
  have hout : out = f.curl true (t.scope trim excluded) := convert_eq_curl rfl t trim excluded
  have hshifted : shifted = excluded.map (f.moved (t.scope trim excluded)) :=
    shift_eq_map rfl h t trim
  rw [hout, hshifted]
  refine ⟨?_, pairwise_isApart_moved hnone h fun s hs => (hin s hs).2.1,
    fun hordered => f.ordered_map_moved _ hordered hnone, ?_⟩
  · rw [List.forall₂_map_right_iff, List.forall₂_same]
    intro s hs
    have hwithin := hin s hs
    rw [← Text.map_snd_scope t trim excluded] at hwithin
    obtain ⟨hmoved, hslice⟩ := slice_moved hnone hs hwithin
    rw [Text.map_snd_scope] at hslice
    exact ⟨hmoved, by simp only [moved]; omega, hslice⟩
  · have houtside := outside_curl_take h f trim (Nat.le_refl t.length)
    rwa [List.take_of_length_le (by rw [Text.length_scope])] at houtside

/-- Spans that overlap or are empty, and marks of which one is empty: the shifted spans hold the
quotes that the given ones have kept from conversion. -/
theorem shift_holds_of_overlap :
    let f : Family := ⟨['\x27'], [], text "&c;"⟩
    let t := text "'ab'cd'e'"
    let excluded : List Span := [⟨1, 3⟩, ⟨2, 5⟩, ⟨5, 5⟩, ⟨5, 7⟩]
    let out := text "ab'cd'e&c;"
    let shifted : List Span := [⟨0, 2⟩, ⟨1, 4⟩, ⟨4, 4⟩, ⟨4, 6⟩]
    (Span.Ascending excluded ∧ ∀ s ∈ excluded, s.IsWithin t) ∧
      f.convert t 0 excluded = out ∧ f.shift t 0 excluded = shifted ∧
      List.Forall₂ (fun s s' : Span => s'.IsWithin out ∧
        s'.stop - s'.start = s.stop - s.start ∧
          out.slice s'.start s'.stop = t.slice s.start s.stop) excluded shifted ∧
      out.outside shifted = ((List.range t.length).filter fun k : Nat =>
        !Span.covered excluded k).flatMap (f.output t 0 excluded) := by
  intro f t excluded out shifted
  have h : Span.Ascending excluded := by decide
  have hin : ∀ s ∈ excluded, s.IsWithin t := by decide
  have hout : f.convert t 0 excluded = out := by decide
  have hshifted : f.shift t 0 excluded = shifted := by decide
  obtain ⟨hholds, -, -, houtside⟩ := shift_holds '\x27' [] (text "&c;") t 0 excluded h hin
  rw [hout, hshifted] at hholds houtside
  exact ⟨⟨h, hin⟩, hout, hshifted, hholds, houtside⟩

end Family

end SmartQuotes
