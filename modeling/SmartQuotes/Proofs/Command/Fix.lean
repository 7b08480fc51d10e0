import SmartQuotes.Command.Run
import SmartQuotes.Proofs.FileTree
import SmartQuotes.Proofs.Linter.Frame

/-!
# What fixing changes in files

Fixing writes a file only if some of its quotes are rewritten. What is written is a rewriting of the
text as it was read, and that is the text of the file with every line end written as a line feed. So
a file without carriage returns keeps everything but its quotes; of a file with carriage returns the
line ends are changed with them, and what is written is no rewriting of what was there.
-/

namespace SmartQuotes

namespace Inspector

variable {i : Inspector}

/-- A fix returns a rewriting of the document. -/
theorem exists_rewrites_fix (hm : i.marks.QuoteFree) (hslices : i.Slices) {path document : Text}
    {r : Report} (h : (i.fix path document).result = .ok r) :
    ∃ fixed S, r.fixed = some fixed ∧ i.marks.Rewrites 0 S document fixed := by
  obtain ⟨p, hp, hreport⟩ := result_fix_iff.mp h
  obtain ⟨S, hS, -⟩ := exists_rewrites_passes hm hslices hp
  obtain ⟨found, -, rfl⟩ := exists_of_result_report hreport
  exact ⟨p.document, S, rfl, hS⟩

end Inspector

/-- What a file holds is replaced by a rewriting of its text with unified line ends. -/
def Content.Fixes (m : Marks) (c c' : Option Content) : Prop :=
  ∃ t u S, c = some (.text t) ∧ c' = some (.text u) ∧ S ≠ [] ∧ m.Rewrites 0 S t.unifyLines u

/-- With marks without carriage returns two fixes in a row are one: the second one reads what the
first one has written. -/
theorem Content.Fixes.trans {m : Marks} (hm : m.QuoteFree) (hreturn : m.ReturnFree)
    {c c' c'' : Option Content} (h : Fixes m c c') (h' : Fixes m c' c'') : Fixes m c c'' := by
  obtain ⟨t, u, S, rfl, rfl, hne, hS⟩ := h
  obtain ⟨_, v, S', ⟨⟩, rfl, -, hS'⟩ := h'
  have hu : '\r' ∉ u := by
    rw [hS.return_mem_iff hreturn]
    exact Text.return_not_mem_unifyLines t
  rw [Text.unifyLines_of_return_not_mem hu] at hS'
  obtain ⟨T, hT, hlength⟩ := hS.trans hm hS'
  refine ⟨t, v, T, rfl, rfl, ?_, hT⟩
  rintro rfl
  rw [List.length_nil] at hlength
  exact hne (List.length_eq_zero_iff.mp (by omega))

namespace Command

variable {tree : FileTree} {verbose : Bool} {l : Linter}

/-! ## One file -/

/-- Fixing a document leaves the tree as it is, or writes a rewriting of the document. -/
theorem tree_fixDocument (hm : l.marks.QuoteFree) (s : Source) (document : Text) :
    (fixDocument tree verbose l s document).tree = tree ∨
      ∃ fixed S, (fixDocument tree verbose l s document).tree = tree.write s.place fixed ∧
        S ≠ [] ∧ l.marks.Rewrites 0 S document fixed := by
  unfold fixDocument
  simp only
  split
  · exact Or.inl rfl
  · exact Or.inl rfl
  · next r hr =>
    obtain ⟨fixed, S, hfixed, hS⟩ :=
      Inspector.exists_rewrites_fix hm (l.slices_inspector s.language) hr
    rw [hfixed, Option.getD_some]
    split
    · exact Or.inl rfl
    · next hne => exact Or.inr ⟨fixed, S, rfl, fun hnil => hne ((hS.eq_iff hm).mpr hnil), hS⟩

theorem sameShape_fixDocument (hm : l.marks.QuoteFree) (s : Source) (document : Text) :
    tree.SameShape (fixDocument tree verbose l s document).tree := by
  rcases tree_fixDocument hm s document with h | ⟨fixed, -, h, -⟩
  · rw [h]
    exact .refl tree
  · rw [h]
    exact FileTree.sameShape_write tree s.place fixed

/-- Fixing sources goes on with the tree behind the first of them, unless it ends there. -/
theorem tree_fixSources_cons (s : Source) (rest : List Source) :
    (fixSources tree verbose l (s :: rest)).tree = tree ∨
      ∃ document, s.read tree = .ok document ∧
        ((fixSources tree verbose l (s :: rest)).tree =
            (fixDocument tree verbose l s document).tree ∨
          (fixSources tree verbose l (s :: rest)).tree =
            (fixSources (fixDocument tree verbose l s document).tree verbose l rest).tree) := by
  rw [fixSources]
  split
  · exact Or.inl rfl
  · next document hread =>
    refine Or.inr ⟨document, hread, ?_⟩
    simp only
    split
    · exact Or.inl rfl
    · exact Or.inr rfl

theorem sameShape_fixSources (hm : l.marks.QuoteFree) (sources : List Source) :
    tree.SameShape (fixSources tree verbose l sources).tree := by
  induction sources generalizing tree with
  | nil => exact .refl tree
  | cons s rest ih =>
    rcases tree_fixSources_cons s rest with h | ⟨document, -, h | h⟩
    · rw [h]
      exact .refl tree
    · rw [h]
      exact sameShape_fixDocument hm s document
    · rw [h]
      exact (sameShape_fixDocument hm s document).trans ih

/-- With a configuration that can be loaded a job goes on with its settings. -/
theorem withSettings_of_load {config : Option Path} {s : Config.Settings}
    (hload : (Config.load tree config).2 = .ok s) (go : Config.Settings → Run) :
    withSettings tree verbose config go =
      (go s).after (Printed.notes verbose (Config.load tree config).1) := by
  have hpair : Config.load tree config = ((Config.load tree config).1, .ok s) := Prod.ext rfl hload
  rw [withSettings, hpair]

theorem tree_finishFix (x : Fixed) : (finishFix x).tree = x.tree := by
  rw [finishFix]
  split
  · rfl
  · rfl

/-- The command fixes the sources that are collected. -/
theorem tree_perform_fix (columns : Nat) (verbose : Bool) (paths : List Path) {config : Option Path}
    {s : Config.Settings} (hload : (Config.load tree config).2 = .ok s) :
    (perform tree columns verbose (.fix paths config)).tree = tree ∨
      ∃ sources, Source.collect tree s.extensions paths = .ok sources ∧
        (perform tree columns verbose (.fix paths config)).tree =
          (fixSources tree verbose (linterOf s false) sources).tree := by
  rw [perform, withSettings_of_load hload, withSources, Run.after]
  split
  · next sources hsources => exact Or.inr ⟨sources, hsources, tree_finishFix _⟩
  · exact Or.inl rfl

/-- The places stay what they are, whatever the command fixes. -/
theorem sameShape_perform_fix {columns : Nat} {paths : List Path} {config : Option Path}
    {s : Config.Settings}
    (hload : (Config.load tree config).2 = .ok s) (hm : s.marks.QuoteFree) :
    tree.SameShape (perform tree columns verbose (.fix paths config)).tree := by
  rcases tree_perform_fix columns verbose paths hload with h | ⟨sources, -, h⟩
  · rw [h]
    exact .refl tree
  · rw [h]
    exact sameShape_fixSources hm sources

end Command

end SmartQuotes
