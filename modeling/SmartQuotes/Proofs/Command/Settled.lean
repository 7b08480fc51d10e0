import SmartQuotes.Proofs.Command.Fix
import SmartQuotes.Proofs.Command.Source
import SmartQuotes.Proofs.Linter.Settled

/-!
# What fixing files leaves

Fixing that goes through without a complaint leaves sources on which a pass applies nothing: each of
them is settled when it has been written, and it stays so while others are written, since a file
that is fixed once more is read in the same language. Checking such sources finds nothing, and
fixing them again writes nothing.
-/

namespace SmartQuotes

/-! ## The configuration -/

namespace Config

/-- The file of the configuration, if one is named, is no source: its name tells no language. -/
def IsApart (tree : FileTree) (config : Option Path) : Prop :=
  ∀ path l c, config = some path → tree.file? path = some (l, c) →
    Language.ofPath? ⟨[], l⟩ = none

/-- The file of the configuration holds in the second tree what it holds in the first one. -/
def IsKept (tree tree' : FileTree) (config : Option Path) : Prop :=
  ∀ l, tree.locate? (config.getD defaultFile) = some l → tree'.content? l = tree.content? l

variable {tree tree' : FileTree} {config : Option Path}

/-- What is loaded depends on the content of one file. -/
theorem load_of_isKept (h : tree.SameShape tree') (hkept : IsKept tree tree' config) :
    load tree' config = load tree config := by
  have hfile : tree'.file? (config.getD defaultFile) = tree.file? (config.getD defaultFile) := by
    rw [FileTree.file?, FileTree.file?, ← h.locate?_eq]
    cases hl : tree.locate? (config.getD defaultFile) with
    | none => rfl
    | some l => rw [Option.bind_some, Option.bind_some, hkept l hl]
  cases config with
  | none =>
    rw [Option.getD_none] at hfile
    rw [load, load, ofFile, ofFile, hfile]
  | some path =>
    rw [Option.getD_some] at hfile
    rw [load, load, ofFile, ofFile, hfile]

/-- The default file is no source. -/
theorem ofPath?_of_defaultFile {l : Location} (h : tree.locate? defaultFile = some l) :
    Language.ofPath? ⟨[], l⟩ = none := by
  have hlast := Command.Source.getLast?_of_locate? h (n := text ".curly-quotes.yml") rfl (by decide)
  have hname : Path.name ⟨[], l⟩ = defaultFile.name := by
    rw [Path.name, hlast]
    rfl
  rw [Language.ofPath?_congr hname]
  decide

end Config

namespace Command

variable {tree tree' : FileTree} {verbose : Bool} {l : Linter} {s : Source}

/-! ## What is printed -/

namespace Printed

/-- What is printed when fixing has not settled for the document at a path. -/
def pending (path : Text) : Printed :=
  .messageLine (text Severity.warning.name ++ text ": " ++
    (Note.fixesPending path Inspector.maxPasses).message)

theorem pending_mem_notes {path : Text} {ns : List Note}
    (h : Note.fixesPending path Inspector.maxPasses ∈ ns) : pending path ∈ notes verbose ns := by
  refine List.mem_map.mpr ⟨_, List.mem_filter.mpr ⟨h, ?_⟩, rfl⟩
  exact Bool.or_true verbose

/-- It is printed to inform the user. -/
def Informs (p : Printed) : Prop := ∃ t, p = .message t

/-- Notes are printed to inform the user. -/
theorem informs_notes_append (ns : List Note) {printed : List Printed}
    (h : ∀ p ∈ printed, p.Informs) : ∀ p ∈ notes verbose ns ++ printed, p.Informs := by
  intro p hp
  rcases List.mem_append.mp hp with hp | hp
  · obtain ⟨n, -, rfl⟩ := List.mem_map.mp hp
    exact ⟨_, rfl⟩
  · exact h p hp

end Printed

/-- Where everything before the last line informs the user, this line is the output. -/
theorem Run.output_of_informs {printed : List Printed} (h : ∀ p ∈ printed, p.Informs) (line : Text)
    (tree : FileTree) (ending : Except Fault Nat) :
    (Run.mk (printed ++ [.outputLine line]) tree ending).output = line ++ ['\n'] := by
  induction printed with
  | nil => exact List.append_nil _
  | cons p printed ih =>
    obtain ⟨t, rfl⟩ := h p List.mem_cons_self
    exact ih fun p hp => h p (List.mem_cons_of_mem _ hp)

/-! ## Settled sources -/

/-- A pass over the text of the source applies nothing. -/
def Source.Settled (tree : FileTree) (l : Linter) (s : Source) : Prop :=
  ∃ document, s.read tree = .ok document ∧
    ((l.inspector s.language).pass document).result = .ok (document, 0)

/-- Whether a source is settled is told by its language and by what its file holds. -/
theorem Source.Settled.congr {s' : Source} (h : s.Settled tree l)
    (hlanguage : s'.language = s.language)
    (hcontent : tree'.content? s'.place = tree.content? s.place) : s'.Settled tree' l := by
  obtain ⟨document, hread, hpass⟩ := h
  refine ⟨document, ?_, ?_⟩
  · rw [Source.read] at hread ⊢
    rw [hcontent, hread]
  · rw [hlanguage, hpass]

/-- The text of a source is read without carriage returns. -/
theorem Source.return_not_mem_of_read {document : Text} (h : s.read tree = .ok document) :
    '\r' ∉ document := by
  rw [Source.read] at h
  split at h
  · next c _ =>
    cases c with
    | malformed f => cases h
    | text t =>
      cases h
      exact Text.return_not_mem_unifyLines t
  · cases h
    exact List.not_mem_nil

/-! ## Fixing without a complaint -/

/-- Fixing went through: every document was parsed, and the passes over it have settled. -/
structure Fixed.Clean (x : Fixed) : Prop where
  fault : x.fault = none
  failed : x.failed = false
  settled : ∀ path, Printed.pending path ∉ x.printed

/-- Fixing a document without a complaint leaves a document on which a pass applies nothing, and
writes it if it has changed. -/
theorem exists_of_clean_fixDocument {document : Text}
    (h : (fixDocument tree verbose l s document).Clean) :
    ∃ r fixed, (l.inspect .fix s.language (tree.shown s.place) document).result = .ok r ∧
      r.fixed = some fixed ∧
      ((l.inspector s.language).pass fixed).result = .ok (fixed, 0) ∧
      (fixDocument tree verbose l s document).tree =
        if fixed = document then tree else tree.write s.place fixed := by
  have hnotes : ∀ p ∈ Printed.notes verbose
      (l.inspect .fix s.language (tree.shown s.place) document).notes,
      p ∈ (fixDocument tree verbose l s document).printed := by
    intro p hp
    unfold fixDocument
    simp only
    split
    · exact List.mem_append_left _ hp
    · exact hp
    · split
      · exact hp
      · exact List.mem_append_left _ hp
  have hsettled : Note.fixesPending (tree.shown s.place) Inspector.maxPasses ∉
      (l.inspect .fix s.language (tree.shown s.place) document).notes := fun hmem =>
    h.settled _ (hnotes _ (Printed.pending_mem_notes hmem))
  cases hr : (l.inspect .fix s.language (tree.shown s.place) document).result with
  | error e =>
    cases e with
    | refused e =>
      have hfailed := h.failed
      simp only [fixDocument, hr] at hfailed
      cases hfailed
    | broken b =>
      have hfault := h.fault
      simp only [fixDocument, hr] at hfault
      cases hfault
  | ok r =>
    obtain ⟨fixed, -, hpass, -, hfixed, -⟩ := Inspector.exists_pass_of_settled hr hsettled
    refine ⟨r, fixed, rfl, hfixed, hpass, ?_⟩
    simp only [fixDocument, hr, hfixed, Option.getD_some]
    split
    · rfl
    · rfl

/-- Sources are fixed without a complaint one after the other. -/
theorem clean_fixSources_cons {rest : List Source}
    (h : (fixSources tree verbose l (s :: rest)).Clean) :
    ∃ document, s.read tree = .ok document ∧
      (fixDocument tree verbose l s document).Clean ∧
      (fixSources (fixDocument tree verbose l s document).tree verbose l rest).Clean ∧
      (fixSources tree verbose l (s :: rest)).tree =
        (fixSources (fixDocument tree verbose l s document).tree verbose l rest).tree := by
  cases hread : s.read tree with
  | error f =>
    have hfault := h.fault
    simp only [fixSources, hread] at hfault
    cases hfault
  | ok document =>
    refine ⟨document, rfl, ?_⟩
    obtain ⟨hfault, hfailed, hsettled⟩ := h
    simp only [fixSources, hread] at hfault hfailed hsettled ⊢
    cases hnone : (fixDocument tree verbose l s document).fault with
    | some f =>
      rw [hnone] at hfault
      simp only [Option.isSome_some, if_true] at hfault
      rw [hnone] at hfault
      cases hfault
    | none =>
      simp only [hnone, Option.isSome_none, Bool.false_eq_true, if_false, Bool.or_eq_false_iff,
        List.mem_append, not_or] at hfault hfailed hsettled ⊢
      exact ⟨⟨hnone, hfailed.1, fun path => (hsettled path).1⟩,
        ⟨hfault, hfailed.2, fun path => (hsettled path).2⟩, trivial⟩

section

variable (hm : l.marks.QuoteFree) (hreturn : l.marks.ReturnFree)

include hm hreturn

/-- A source that was fixed without a complaint is settled. -/
theorem settled_fixDocument (hs : s.Stands tree) {document : Text}
    (hread : s.read tree = .ok document)
    (h : (fixDocument tree verbose l s document).Clean) :
    s.Settled (fixDocument tree verbose l s document).tree l := by
  obtain ⟨r, fixed, hr, hfixed, hpass, htree⟩ := exists_of_clean_fixDocument h
  refine ⟨fixed, ?_, hpass⟩
  rw [htree]
  split
  · next heq =>
    rw [heq]
    exact hread
  · obtain ⟨fixed', S, hfixed', hS⟩ :=
      Inspector.exists_rewrites_fix hm (l.slices_inspector s.language) hr
    rw [hfixed] at hfixed'
    cases hfixed'
    -- what is written is read again as it is, since the fix has added no carriage return
    have hfree : '\r' ∉ fixed := by
      rw [hS.return_mem_iff hreturn]
      exact Source.return_not_mem_of_read hread
    rw [Source.read, FileTree.content?_write_self hs.isFile]
    exact congrArg Except.ok (Text.unifyLines_of_return_not_mem hfree)

/-- Settled sources stay so when a document is fixed without a complaint. -/
theorem settled_fixDocument_of_settled {s' : Source} (hs : s.Stands tree) (hs' : s'.Stands tree)
    {document : Text} (hread : s.read tree = .ok document)
    (hclean : (fixDocument tree verbose l s document).Clean) (h : s'.Settled tree l) :
    s'.Settled (fixDocument tree verbose l s document).tree l := by
  by_cases hplace : s'.place = s.place
  · refine (settled_fixDocument hm hreturn hs hread hclean).congr (hs'.language_eq hs hplace) ?_
    rw [hplace]
  · refine h.congr rfl ?_
    rcases tree_fixDocument hm s document with htree | ⟨fixed, -, htree, -⟩
    · rw [htree]
    · rw [htree, FileTree.content?_write_of_ne hplace]

/-- Sources that were fixed without a complaint are settled, and settled sources stay so. -/
theorem settled_fixSources {sources : List Source} (hsources : ∀ s ∈ sources, s.Stands tree)
    (h : (fixSources tree verbose l sources).Clean) :
    (∀ s ∈ sources, s.Settled (fixSources tree verbose l sources).tree l) ∧
      ∀ s : Source, s.Stands tree → s.Settled tree l →
        s.Settled (fixSources tree verbose l sources).tree l := by
  induction sources generalizing tree with
  | nil => exact ⟨nofun, fun _ _ hs => hs⟩
  | cons s rest ih =>
    obtain ⟨document, hread, hclean, hrest, htree⟩ := clean_fixSources_cons h
    have hstands := hsources s List.mem_cons_self
    have hshape : tree.SameShape (fixDocument tree verbose l s document).tree :=
      sameShape_fixDocument hm s document
    obtain ⟨hsettled, hkept⟩ := ih
      (fun s' hs' => (hsources s' (List.mem_cons_of_mem _ hs')).of_sameShape hshape) hrest
    rw [htree]
    constructor
    · intro s' hs'
      rcases List.mem_cons.mp hs' with rfl | hs'
      · exact hkept s' (hstands.of_sameShape hshape)
          (settled_fixDocument hm hreturn hstands hread hclean)
      · exact hsettled s' hs'
    · intro s' hs' h'
      exact hkept s' (hs'.of_sameShape hshape)
        (settled_fixDocument_of_settled hm hreturn hstands hs' hread hclean h')

end

/-- A source that is not at the place of any of the sources is not touched by fixing them. -/
theorem content?_fixSources_of_forall_ne (hm : l.marks.QuoteFree) {sources : List Source}
    {place : Location} (h : ∀ s ∈ sources, place ≠ s.place) :
    (fixSources tree verbose l sources).tree.content? place = tree.content? place := by
  induction sources generalizing tree with
  | nil => rfl
  | cons s rest ih =>
    have hfirst : ∀ document,
        (fixDocument tree verbose l s document).tree.content? place = tree.content? place := by
      intro document
      rcases tree_fixDocument hm s document with htree | ⟨fixed, -, htree, -⟩
      · rw [htree]
      · rw [htree, FileTree.content?_write_of_ne (h s List.mem_cons_self)]
    rcases tree_fixSources_cons s rest with htree | ⟨document, -, htree | htree⟩
    · rw [htree]
    · rw [htree, hfirst]
    · rw [htree, ih fun s' hs' => h s' (List.mem_cons_of_mem _ hs'), hfirst]

/-! ## Settled sources handled again -/

section

variable (hlevel : l.level = .fix) (hm : l.marks.QuoteFree)

include hlevel hm

/-- Nothing is reported in a document on which a pass applies nothing. -/
theorem result_report_of_pass {language : Language} {path document : Text} {fixed : Option Text}
    {applied : Nat} (h : ((l.inspector language).pass document).result = .ok (document, 0)) :
    ((l.inspector language).report path document fixed applied).result =
      .ok ⟨path, [], fixed, applied⟩ := by
  rw [Inspector.result_report, Inspector.result_warnings_of_pass hlevel hm
    (l.offsetsNonneg_inspector language) h]
  rfl

/-- Nothing is found in such a document, and the linter stays as it is. -/
theorem checkDocument_of_pass (verbose : Bool) {language : Language} {path document : Text}
    (h : ((l.inspector language).pass document).result = .ok (document, 0)) :
    checkDocument verbose l language path document =
      ⟨l, Printed.notes verbose (l.inspect .lint language path document).notes, false, none⟩ := by
  have hresult : (l.inspect .lint language path document).result = .ok ⟨path, [], none, 0⟩ :=
    result_report_of_pass hlevel hm h
  have hafter : l.after (l.inspect .lint language path document) = l := by
    simp only [Linter.after, hresult, Linter.collect, List.map_nil, List.append_nil, ite_self]
  simp only [checkDocument, Linter.run, hafter, hresult, listing, List.isEmpty_nil, if_true,
    List.append_nil, Bool.not_true]

/-- Such a document is not written back. -/
theorem fixDocument_of_pass (verbose : Bool) {s : Source} {document : Text}
    (h : ((l.inspector s.language).pass document).result = .ok (document, 0)) :
    fixDocument tree verbose l s document =
      ⟨tree, Printed.notes verbose (l.inspect .fix s.language (tree.shown s.place) document).notes,
        0, false, none⟩ := by
  have hresult : (l.inspect .fix s.language (tree.shown s.place) document).result =
      .ok ⟨tree.shown s.place, [], some document, 0⟩ :=
    Inspector.result_fix_iff.mpr
      ⟨_, Inspector.result_passes_of_pass h, result_report_of_pass hlevel hm h⟩
  simp only [fixDocument, hresult, Option.getD_some, if_true]

/-- Checking settled sources finds nothing: the linter stays as it is, and no output is printed. -/
theorem checkSources_of_settled (verbose : Bool) {sources : List Source}
    (h : ∀ s ∈ sources, s.Settled tree l) :
    ∃ printed, checkSources tree verbose l sources = ⟨l, printed, false, none⟩ ∧
      ∀ p ∈ printed, p.Informs := by
  induction sources with
  | nil => exact ⟨[], rfl, nofun⟩
  | cons s rest ih =>
    obtain ⟨document, hread, hpass⟩ := h s List.mem_cons_self
    obtain ⟨printed, hrest, hinforms⟩ := ih fun s' hs' => h s' (List.mem_cons_of_mem _ hs')
    refine ⟨Printed.notes verbose
      (l.inspect .lint s.language (tree.shown s.place) document).notes ++ printed, ?_,
      Printed.informs_notes_append _ hinforms⟩
    simp only [checkSources, hread, checkDocument_of_pass hlevel hm verbose hpass, hrest,
      Option.isSome_none, Bool.false_eq_true, if_false, Bool.or_false]

/-- Fixing settled sources writes nothing. -/
theorem fixSources_of_settled (verbose : Bool) {sources : List Source}
    (h : ∀ s ∈ sources, s.Settled tree l) :
    ∃ printed, fixSources tree verbose l sources = ⟨tree, printed, 0, false, none⟩ ∧
      ∀ p ∈ printed, p.Informs := by
  induction sources with
  | nil => exact ⟨[], rfl, nofun⟩
  | cons s rest ih =>
    obtain ⟨document, hread, hpass⟩ := h s List.mem_cons_self
    obtain ⟨printed, hrest, hinforms⟩ := ih fun s' hs' => h s' (List.mem_cons_of_mem _ hs')
    refine ⟨Printed.notes verbose
      (l.inspect .fix s.language (tree.shown s.place) document).notes ++ printed, ?_,
      Printed.informs_notes_append _ hinforms⟩
    simp only [fixSources, hread, fixDocument_of_pass hlevel hm verbose hpass, hrest,
      Option.isSome_none, Bool.false_eq_true, if_false, Nat.add_zero, Bool.or_false]

end

/-! ## The commands -/

variable {columns : Nat} {paths : List Path} {config : Option Path} {settings : Config.Settings}

/-- The command fixes without a complaint if it ends with the code for that and no document is left
unsettled. -/
theorem exists_clean_of_perform_fix (hload : (Config.load tree config).2 = .ok settings)
    (hending : (perform tree columns verbose (.fix paths config)).ending = .ok 0)
    (hsettled : ∀ path,
      Printed.pending path ∉ (perform tree columns verbose (.fix paths config)).printed) :
    ∃ sources, Source.collect tree settings.extensions paths = .ok sources ∧
      (fixSources tree verbose (linterOf settings false) sources).Clean ∧
      (perform tree columns verbose (.fix paths config)).tree =
        (fixSources tree verbose (linterOf settings false) sources).tree := by
  rw [perform, withSettings_of_load hload, withSources, Run.after] at hending hsettled ⊢
  cases hcollect : Source.collect tree settings.extensions paths with
  | error p =>
    rw [hcollect] at hending
    cases hending
  | ok sources =>
    simp only [hcollect] at hending hsettled ⊢
    refine ⟨sources, rfl, ?_, tree_finishFix _⟩
    cases hfault : (fixSources tree verbose (linterOf settings false) sources).fault with
    | some f =>
      simp only [finishFix, hfault] at hending
      cases hending
    | none =>
      simp only [finishFix, hfault, Run.quit, List.mem_append, not_or] at hending hsettled
      refine ⟨hfault, ?_, fun path => (hsettled path).2.1⟩
      by_contra hfailed
      rw [Bool.not_eq_false] at hfailed
      rw [if_pos hfailed] at hending
      cases hending

/-- The file of the configuration is not changed if it is no source. -/
theorem isKept_of_isApart (hload : (Config.load tree config).2 = .ok settings)
    (hm : settings.marks.QuoteFree) (hapart : Config.IsApart tree config) :
    Config.IsKept tree (perform tree columns verbose (.fix paths config)).tree config := by
  intro place hplace
  rcases tree_perform_fix columns verbose paths hload with htree | ⟨sources, hcollect, htree⟩
  · rw [htree]
  · rw [htree]
    refine content?_fixSources_of_forall_ne (l := linterOf settings false) hm fun s hs heq => ?_
    have hstands := Source.stands_of_collect hcollect s hs
    have hnone : Language.ofPath? ⟨[], place⟩ = none := by
      cases config with
      | none => exact Config.ofPath?_of_defaultFile hplace
      | some path =>
        obtain ⟨c, hc⟩ := Option.isSome_iff_exists.mp hstands.isFile
        refine hapart path place c rfl ?_
        rw [Option.getD_some] at hplace
        rw [FileTree.file?, hplace, Option.bind_some, heq, hc]
        rfl
    rw [heq, hstands.language] at hnone
    cases hnone

/-- Checking settled sources says that there are no straight quotes. -/
theorem perform_check_of_settled (hload : (Config.load tree config).2 = .ok settings)
    (hlevel : settings.level = .fix) (hm : settings.marks.QuoteFree) {sources : List Source}
    (hcollect : Source.collect tree settings.extensions paths = .ok sources)
    (h : ∀ s ∈ sources, s.Settled tree (linterOf settings false)) (summary : Bool) :
    (perform tree columns verbose (.check paths config summary)).output =
        text "No straight quotes found.\n" ∧
      (perform tree columns verbose (.check paths config summary)).ending = .ok 0 := by
  obtain ⟨printed, hcheck, hinforms⟩ :=
    checkSources_of_settled (l := linterOf settings summary) hlevel hm verbose h
  have hsummary : (linterOf settings summary).summary columns = .ok [] := rfl
  have hrun : perform tree columns verbose (.check paths config summary) =
      ⟨Printed.notes verbose (Config.load tree config).1 ++ printed ++
        [.outputLine (text "No straight quotes found.")], tree, .ok 0⟩ := by
    rw [perform, withSettings_of_load hload, withSources, hcollect, Run.after]
    simp only [hcheck, finishCheck, hsummary, List.map_nil, List.append_nil, Bool.false_eq_true,
      if_false, ite_self, Run.quit, List.append_assoc]
  rw [hrun]
  exact ⟨Run.output_of_informs (Printed.informs_notes_append _ hinforms) _ _ _, rfl⟩

/-- Fixing settled sources says that there is nothing to do and changes nothing. -/
theorem perform_fix_of_settled (hload : (Config.load tree config).2 = .ok settings)
    (hlevel : settings.level = .fix) (hm : settings.marks.QuoteFree) {sources : List Source}
    (hcollect : Source.collect tree settings.extensions paths = .ok sources)
    (h : ∀ s ∈ sources, s.Settled tree (linterOf settings false)) :
    (perform tree columns verbose (.fix paths config)).tree = tree ∧
      (perform tree columns verbose (.fix paths config)).output =
        text "No changes applied: files were already compliant.\n" ∧
      (perform tree columns verbose (.fix paths config)).ending = .ok 0 := by
  obtain ⟨printed, hfix, hinforms⟩ :=
    fixSources_of_settled (l := linterOf settings false) hlevel hm verbose h
  have hrun : perform tree columns verbose (.fix paths config) =
      ⟨Printed.notes verbose (Config.load tree config).1 ++ printed ++
        [.outputLine (text "No changes applied: files were already compliant.")], tree, .ok 0⟩ := by
    rw [perform, withSettings_of_load hload, withSources, hcollect, Run.after]
    simp only [hfix, finishFix, if_true, Bool.false_eq_true, if_false, Run.quit, List.append_assoc]
  rw [hrun]
  exact ⟨rfl, Run.output_of_informs (Printed.informs_notes_append _ hinforms) _ _ _, rfl⟩

/-- When files were fixed without a complaint, then checking the same paths with the same settings
finds nothing, and fixing them again changes nothing, in the tree as it is read again. The settings
are the same if the file of the configuration has been kept, as it is if it is no source itself. -/
theorem fix_settles_files (hload : (Config.load tree config).2 = .ok settings)
    (hlevel : settings.level = .fix) (hm : settings.marks.QuoteFree)
    (hreturn : settings.marks.ReturnFree)
    (hending : (perform tree columns verbose (.fix paths config)).ending = .ok 0)
    (hsettled : ∀ path,
      Printed.pending path ∉ (perform tree columns verbose (.fix paths config)).printed) :
    let behind := (perform tree columns verbose (.fix paths config)).tree.reread
    (Config.IsApart tree config → Config.IsKept tree behind config) ∧
      (Config.IsKept tree behind config → (Config.load behind config).2 = .ok settings) ∧
      ∀ config', (Config.load behind config').2 = .ok settings → ∀ columns' verbose',
        (∀ summary,
          (perform behind columns' verbose' (.check paths config' summary)).output =
              text "No straight quotes found.\n" ∧
            (perform behind columns' verbose' (.check paths config' summary)).ending = .ok 0) ∧
        (perform behind columns' verbose' (.fix paths config')).tree = behind ∧
          (perform behind columns' verbose' (.fix paths config')).output =
            text "No changes applied: files were already compliant.\n" ∧
          (perform behind columns' verbose' (.fix paths config')).ending = .ok 0 := by
  intro behind
  have hbehind : behind = (perform tree columns verbose (.fix paths config)).tree :=
    FileTree.reread_eq _
  obtain ⟨sources, hcollect, hclean, htree⟩ := exists_clean_of_perform_fix hload hending hsettled
  have hshape : tree.SameShape behind := by
    rw [hbehind]
    exact sameShape_perform_fix hload hm
  refine ⟨fun hapart => ?_, fun hkept => ?_, fun config' hload' columns' verbose' => ?_⟩
  · rw [hbehind]
    exact isKept_of_isApart hload hm hapart
  · rw [Config.load_of_isKept hshape hkept, hload]
  · have hcollect' : Source.collect behind settings.extensions paths = .ok sources := by
      rw [← Source.collect_eq hshape, hcollect]
    have hsources : ∀ s ∈ sources, s.Settled behind (linterOf settings false) := by
      rw [hbehind, htree]
      exact (settled_fixSources hm hreturn (Source.stands_of_collect hcollect) hclean).1
    exact ⟨perform_check_of_settled hload' hlevel hm hcollect' hsources,
      perform_fix_of_settled hload' hlevel hm hcollect' hsources⟩

/-- A script and a component are fixed, the first one in two passes, and there is nothing left. -/
theorem fix_settles_files_of_two :
    let tree : FileTree :=
      { top := [], current := [text "home"], directories := []
        files := [([text "home", text "a.js"], .text (text "`'$\x7b'\"a\"'\x7d'`\n")),
          ([text "home", text "b.vue"],
            .text (text "<template><p title=\"'a'\">\"b\"</p></template>\n"))] }
    let paths := [Path.ofText (text "."), Path.ofText (text "a.js")]
    let behind := (perform tree 100 false (.fix paths none)).tree.reread
    behind.files = [([text "home", text "a.js"], .text (text "`‘$\x7b'“a”'\x7d’`\n")),
        ([text "home", text "b.vue"],
          .text (text "<template><p title=\"‘a’\">“b”</p></template>\n"))] ∧
      (perform behind 100 false (.check paths none true)).output =
        text "No straight quotes found.\n" ∧
      (perform behind 100 false (.fix paths none)).tree = behind := by
  intro tree paths behind
  have hload : (Config.load tree none).2 =
      .ok ⟨.fix, Language.scriptSuffixes ++ Language.componentSuffixes, [], false, {}⟩ := rfl
  have hfiles : behind.files =
      [([text "home", text "a.js"], .text (text "`‘$\x7b'“a”'\x7d’`\n")),
        ([text "home", text "b.vue"],
          .text (text "<template><p title=\"‘a’\">“b”</p></template>\n"))] := by
    decide +kernel
  have hending : (perform tree 100 false (.fix paths none)).ending = .ok 0 := by decide +kernel
  have hprinted : (perform tree 100 false (.fix paths none)).printed =
      [.outputLine (text "Fixed: a.js (2 change(s))"),
        .outputLine (text "Fixed: b.vue (2 change(s))"),
        .outputLine (text "2 file(s) updated.")] := by
    decide +kernel
  have hsettled : ∀ path, Printed.pending path ∉
      (perform tree 100 false (.fix paths none)).printed := by
    intro path h
    rw [hprinted] at h
    simp [Printed.pending, Printed.messageLine, Printed.outputLine] at h
  obtain ⟨hkept, hsame, hagain⟩ :=
    fix_settles_files hload rfl (by decide) (by decide) hending hsettled
  obtain ⟨hcheck, hfix, -⟩ := hagain none (hsame (hkept nofun)) 100 false
  exact ⟨hfiles, (hcheck true).1, hfix⟩

end Command

end SmartQuotes
