import SmartQuotes.Proofs.Linter.Pass
import SmartQuotes.Proofs.Markup.Extent
import SmartQuotes.Linter.Session

/-!
# What a fix changes

With marks that hold no straight quotes a pass rewrites straight quotes in the scope of fragments
that it corrects, at least one for each of them, and leaves everything else as it is, in order. A run
of passes does so, too, and a fix returns its document unchanged exactly if it has applied nothing.
-/

namespace SmartQuotes

/-! ## Replacements that rewrite -/

namespace Marks

variable {m : Marks}

/-- The replacement puts a rewriting of the characters in their place, and something is rewritten;
the positions have a property. -/
def RewritesIn (m : Marks) (t : Text) (P : Nat → Prop) (r : Replacement) : Prop :=
  r.start ≤ r.stop ∧ r.stop ≤ t.length ∧
    ∃ S, m.Rewrites r.start.toNat S (t.slice r.start r.stop) r.text ∧ S ≠ [] ∧ ∀ k ∈ S, P k

theorem exists_rewrites_weave {t : Text} {P : Nat → Prop} {chosen : List Replacement} {last : Nat}
    (hapart : Replacement.Apart last chosen) (hlast : last ≤ t.length)
    (h : ∀ r ∈ chosen, m.RewritesIn t P r) :
    ∃ S, m.Rewrites last S (t.drop last) (Replacement.weave t last chosen) ∧
      chosen.length ≤ S.length ∧ ∀ k ∈ S, P k := by
  induction chosen generalizing last with
  | nil =>
    refine ⟨[], ?_, Nat.le_refl _, nofun⟩
    have hslice : t.slice last t.length = t.drop last := by
      rw [← Text.slice_append_drop (Nat.le_trans hlast (Nat.le_refl _)), List.drop_length,
        List.append_nil]
    rw [Replacement.weave, hslice]
    exact .refl m last _
  | cons r rest ih =>
    obtain ⟨hstart, hrest⟩ := hapart
    obtain ⟨hle, hstop, S, hS, hne, hP⟩ := h r List.mem_cons_self
    obtain ⟨a, ha⟩ := Int.eq_ofNat_of_zero_le (a := r.start) (by omega)
    obtain ⟨b, hb⟩ := Int.eq_ofNat_of_zero_le (a := r.stop) (by omega)
    rw [ha, hb] at hS hle
    rw [ha] at hstart
    rw [hb] at hstop hrest
    obtain ⟨T, hT, hlength, hP'⟩ := ih hrest (by omega) fun r' hr' =>
      h r' (List.mem_cons_of_mem _ hr')
    have hfront : (t.slice last a).length = a - last := by
      rw [Text.slice_natCast, Text.length_extract]
      omega
    have hmiddle : (t.slice a b).length = b - a := by
      rw [Text.slice_natCast, Text.length_extract]
      omega
    refine ⟨S ++ T, ?_, ?_, fun k hk => ?_⟩
    · rw [Replacement.weave, ha, hb, List.append_assoc,
        ← Text.slice_append_drop (t := t) (a := last) (b := a) (by omega),
        ← Text.slice_append_drop (t := t) (a := a) (b := b) (by omega)]
      refine Rewrites.append (S := []) (.refl m last _) ?_
      rw [hfront, Nat.add_sub_cancel' (by omega)]
      refine .append hS ?_
      rwa [hmiddle, Nat.add_sub_cancel' (by omega)]
    · have hpos := List.length_pos_iff.mpr hne
      rw [List.length_append, List.length_cons]
      omega
    · rcases List.mem_append.mp hk with hk | hk
      · exact hP k hk
      · exact hP' k hk

end Marks

/-! ## Passes -/

namespace Inspector

variable {i : Inspector}

/-- The fragments of documents are slices of them between their offsets. -/
def Slices (i : Inspector) : Prop :=
  ∀ document, (i.extract document).All (Fragment.LiesIn document 0 document.length)

/-- A pass rewrites straight quotes in the scope of fragments of which it applies the corrections, at
least one for each of them. -/
theorem exists_rewrites_pass (hm : i.marks.QuoteFree) (hslices : i.Slices)
    {document next : Text} {count : Nat} (h : (i.pass document).result = .ok (next, count)) :
    ∃ S, i.marks.Rewrites 0 S document next ∧ count ≤ S.length ∧
      ∀ k ∈ S, ∃ f, i.Applies document f ∧
        ∃ j : Nat, k = f.start + j ∧ j < f.text.length ∧ f.keeps j = false := by
  obtain ⟨fragments, hextract, rfl, rfl⟩ := result_pass_iff.mp h
  have hapart : Replacement.Apart (0 : Nat) (i.chosen fragments) := Replacement.apart_choose 0 _
  refine Marks.exists_rewrites_weave hapart (Nat.zero_le _) fun r hr => ?_
  have hr' := mem_sortBy.mp ((Replacement.choose_sublist _ _).subset hr)
  obtain ⟨-, f, hf, ⟨hvisited, hholds⟩, -, rfl⟩ := mem_replacements_iff.mp hr'
  have hlies := hslices document fragments hextract f hf
  obtain ⟨S, hS, hkeeps, hne⟩ := Marks.exists_rewrites_correct_of_delimited hm hlies.delimited
  refine ⟨hlies.le, hlies.stop_le, S.map (· + f.start.toNat), ?_, ?_, fun k hk => ?_⟩
  · have hshift := hS.shift f.start.toNat
    rw [Nat.zero_add, hlies.text_eq] at hshift
    exact hshift
  · rw [Ne, List.map_eq_nil_iff]
    exact hne hholds
  · obtain ⟨j, hj, rfl⟩ := List.mem_map.mp hk
    obtain ⟨hlt, hkeep⟩ := hkeeps j hj
    refine ⟨f, ⟨fragments, hextract, hf, hvisited, hr⟩, j, ?_, hlt, hkeep⟩
    have := hlies.start_le
    omega

/-! ## Runs -/

/-- A run of passes rewrites at least as many straight quotes as it applies corrections, and none if
it applies none. -/
theorem exists_rewrites_passes (hm : i.marks.QuoteFree) (hslices : i.Slices) {document : Text}
    {applied n : Nat} {p : Progress} (h : (i.passes document applied n).result = .ok p) :
    ∃ S, i.marks.Rewrites 0 S document p.document ∧ applied ≤ p.applied ∧
      p.applied ≤ applied + S.length ∧ (p.applied = applied → S = []) := by
  induction n generalizing document applied with
  | zero =>
    cases h
    exact ⟨[], .refl _ _ _, Nat.le_refl _, Nat.le_refl _, fun _ => rfl⟩
  | succ n ih =>
    obtain ⟨next, count, hpass, h⟩ := result_passes_succ_iff.mp h
    obtain ⟨S, hS, hcount, -⟩ := exists_rewrites_pass hm hslices hpass
    split at h
    · next hzero =>
      rw [hzero] at hpass
      rw [h, eq_of_result_pass hpass]
      exact ⟨[], .refl _ _ _, Nat.le_refl _, Nat.le_refl _, fun _ => rfl⟩
    · next hpos =>
      obtain ⟨T, hT, hle, happlied, -⟩ := ih h
      obtain ⟨U, hU, hlength⟩ := hS.trans hm hT
      exact ⟨U, hU, by omega, by omega, fun heq => by omega⟩

end Inspector

/-- The fragments of either language are slices of their document. -/
theorem Linter.slices_inspector (l : Linter) (language : Language) :
    (l.inspector language).Slices := language.all_extract

/-- A fix changes nothing but straight quotes in the scope of visited fragments: each of its passes
rewrites some of those in the fragments it corrects to marks of their own family, and so does the
whole run. It applies no more corrections than it rewrites quotes, and none exactly if the document
is returned unchanged. -/
theorem Linter.fix_rewrites (l : Linter) (language : Language) (hm : l.marks.QuoteFree) :
    (∀ document next count,
      ((l.inspector language).pass document).result = .ok (next, count) →
        ∃ S, l.marks.Rewrites 0 S document next ∧ count ≤ S.length ∧
          ∀ k ∈ S, ∃ f, (l.inspector language).Applies document f ∧
            ∃ j : Nat, k = f.start + j ∧ j < f.text.length ∧ f.keeps j = false) ∧
    (∀ path source r, (l.inspect .fix language path source).result = .ok r →
      ∃ fixed S, r.fixed = some fixed ∧ l.marks.Rewrites 0 S source fixed ∧
        r.applied ≤ S.length ∧ (r.applied = 0 ↔ fixed = source)) := by
  have hslices := l.slices_inspector language
  refine ⟨fun document next count h => Inspector.exists_rewrites_pass hm hslices h,
    fun path source r h => ?_⟩
  obtain ⟨p, hp, hreport⟩ := Inspector.result_fix_iff.mp h
  obtain ⟨S, hS, -, happlied, hnone⟩ := Inspector.exists_rewrites_passes hm hslices hp
  rw [Nat.zero_add] at happlied
  obtain ⟨found, -, rfl⟩ := Inspector.exists_of_result_report hreport
  refine ⟨p.document, S, rfl, hS, happlied, ?_⟩
  rw [hS.eq_iff hm]
  constructor
  · exact hnone
  · rintro rfl
    exact Nat.le_zero.mp happlied

/-- A template literal with quotes inside and outside of its expression takes two passes: those
inside are left to the second one. -/
theorem Linter.fix_rewrites_nested :
    let l : Linter := { marks := {} }
    let source := text "`'$\x7b'\"a\"'\x7d'`"
    let behind := text "`‘$\x7b'\"a\"'\x7d’`"
    let fixed := text "`‘$\x7b'“a”'\x7d’`"
    l.marks.QuoteFree ∧
      ((l.inspector .script).pass source).result = .ok (behind, 1) ∧
      (∃ S, l.marks.Rewrites 0 S source behind ∧ 1 ≤ S.length ∧
        ∀ k ∈ S, ∃ f, (l.inspector .script).Applies source f ∧
          ∃ j : Nat, k = f.start + j ∧ j < f.text.length ∧ f.keeps j = false) ∧
      (l.inspect .fix .script (text "a.js") source).result =
        .ok ⟨text "a.js", [], some fixed, 2⟩ ∧
      ∃ S, l.marks.Rewrites 0 S source fixed ∧ 2 ≤ S.length := by
  intro l source behind fixed
  have hm : l.marks.QuoteFree := by decide
  have hpass : ((l.inspector .script).pass source).result = .ok (behind, 1) := by decide +kernel
  have hfix : (l.inspect .fix .script (text "a.js") source).result =
      .ok ⟨text "a.js", [], some fixed, 2⟩ := by decide +kernel
  obtain ⟨hpasses, hruns⟩ := l.fix_rewrites .script hm
  obtain ⟨_, S, ⟨⟩, hS, hlength, -⟩ := hruns _ _ _ hfix
  exact ⟨hm, hpass, hpasses _ _ _ hpass, hfix, S, hS, hlength⟩

end SmartQuotes
