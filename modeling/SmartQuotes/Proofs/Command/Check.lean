import SmartQuotes.Proofs.Command.Collected
import SmartQuotes.Proofs.Command.Separate
import SmartQuotes.Proofs.Linter.Summary

/-!
# Checking with and without a summary

What checking prints of a source does not depend on whether issues are collected. Behind the
sources, the collected issues are those of each source taken alone, one behind the other. The table
of them is printed if it is asked for by the flag; for a summary that is turned on in the
configuration issues are collected, but it is not printed (`check_summary_iff`).
-/

namespace SmartQuotes

/-- What becomes of a document depends on the marks and the level alone. -/
theorem Linter.inspect_congr {l l' : Linter} (hmarks : l.marks = l'.marks)
    (hlevel : l.level = l'.level) : l.inspect = l'.inspect := by
  funext task language path document
  simp only [inspect, inspector, hmarks, hlevel]

namespace Command

/-! ## One source -/

/-- What is seen of checked files, whatever was collected. -/
def Checked.seen (c : Checked) : List Printed × Bool × Option Fault :=
  (c.printed, c.failed, c.fault)

theorem Checked.seen_eq_iff {c c' : Checked} : c.seen = c'.seen ↔
    c.printed = c'.printed ∧ c.failed = c'.failed ∧ c.fault = c'.fault := by
  simp only [seen, Prod.mk.injEq]

namespace Source

/-- Check a source, taken alone. -/
def check (tree : FileTree) (verbose : Bool) (l : Linter) (s : Source) : Checked :=
  match s.read tree with
  | .error f => ⟨l, [], false, some (.undecodable f)⟩
  | .ok document => checkDocument verbose l s.language (tree.shown s.place) document

/-- The issues of a source, taken alone; there are none if its text cannot be read or parsed. -/
def entries (tree : FileTree) (l : Linter) (s : Source) : List Entry :=
  match s.read tree with
  | .error _ => []
  | .ok document =>
    (Answer.handled (l.inspect .lint s.language (tree.shown s.place) document)).entries

variable {tree tree' : FileTree} {verbose : Bool} {l l' : Linter}

/-- Checking changes nothing of the linter but what is collected. -/
theorem linter_check (s : Source) : (s.check tree verbose l).linter =
    { l with collected := l.collected ++ if l.collects then s.entries tree l else [] } := by
  unfold check entries
  split
  · rw [ite_self, List.append_nil]
  · next document _ =>
    rw [← l.after_eq, checkDocument]
    simp only [Linter.run]
    split
    · rfl
    · rfl
    · rfl

theorem seen_check_congr (hmarks : l.marks = l'.marks) (hlevel : l.level = l'.level) {s : Source}
    (hread : s.read tree = s.read tree') (hshown : tree.shown s.place = tree'.shown s.place) :
    (s.check tree verbose l).seen = (s.check tree' verbose l').seen := by
  unfold check
  rw [hread, hshown]
  split
  · rfl
  · simp only [checkDocument, Linter.run, Linter.inspect_congr hmarks hlevel]
    split
    · rfl
    · rfl
    · rfl

theorem entries_congr (hmarks : l.marks = l'.marks) (hlevel : l.level = l'.level) {s : Source}
    (hread : s.read tree = s.read tree') (hshown : tree.shown s.place = tree'.shown s.place) :
    s.entries tree l = s.entries tree' l' := by
  rw [entries, entries, hread, hshown, Linter.inspect_congr hmarks hlevel]

/-- A source is checked in the same way behind another one. -/
theorem seen_check_behind (s s' : Source) :
    (s'.check tree verbose (s.check tree verbose l).linter).seen =
      (s'.check tree verbose l).seen := by
  refine seen_check_congr ?_ ?_ rfl rfl
  · rw [linter_check]
  · rw [linter_check]

theorem entries_behind (s : Source) :
    entries tree (s.check tree verbose l).linter = entries tree l := by
  rw [linter_check]
  exact funext fun _ => entries_congr rfl rfl rfl rfl

end Source

/-! ## All sources -/

variable {tree tree' : FileTree} {verbose : Bool} {l l' : Linter} {sources : List Source}

theorem checkSources_cons (s : Source) (rest : List Source) :
    checkSources tree verbose l (s :: rest) =
      let c := s.check tree verbose l
      if c.fault.isSome then c
      else
        let more := checkSources tree verbose c.linter rest
        { more with printed := c.printed ++ more.printed, failed := c.failed || more.failed } := by
  rw [checkSources, Source.check]
  cases s.read tree with
  | error f => rfl
  | ok document => rfl

/-- The same files with the same names are read in both trees. -/
def SameSources (tree tree' : FileTree) (sources : List Source) : Prop :=
  ∀ s ∈ sources, s.read tree = s.read tree' ∧ tree.shown s.place = tree'.shown s.place

/-- What is seen of checking depends on the sources, the marks and the level alone. -/
theorem seen_checkSources_congr (hmarks : l.marks = l'.marks) (hlevel : l.level = l'.level)
    (hsources : SameSources tree tree' sources) :
    (checkSources tree verbose l sources).seen = (checkSources tree' verbose l' sources).seen := by
  induction sources generalizing l l' with
  | nil => rfl
  | cons s rest ih =>
    obtain ⟨⟨hread, hshown⟩, hrest⟩ := List.forall_mem_cons.mp hsources
    have hfirst : (s.check tree verbose l).seen = (s.check tree' verbose l').seen :=
      Source.seen_check_congr hmarks hlevel hread hshown
    have hmarks' :
        (s.check tree verbose l).linter.marks = (s.check tree' verbose l').linter.marks := by
      rwa [Source.linter_check, Source.linter_check]
    have hlevel' :
        (s.check tree verbose l).linter.level = (s.check tree' verbose l').linter.level := by
      rwa [Source.linter_check, Source.linter_check]
    have hmore := ih hmarks' hlevel' hrest
    obtain ⟨hprinted, hfailed, hfault⟩ := Checked.seen_eq_iff.mp hfirst
    obtain ⟨hprinted', hfailed', hfault'⟩ := Checked.seen_eq_iff.mp hmore
    rw [Checked.seen_eq_iff]
    simp only [checkSources_cons, hfault]
    split
    · exact ⟨hprinted, hfailed, hfault⟩
    · exact ⟨by rw [hprinted, hprinted'], by rw [hfailed, hfailed'], hfault'⟩

/-- If no source ends the run, each one is checked as it is alone: what is printed and what is
collected of the sources stands one behind the other. -/
theorem checkSources_of_forall (h : ∀ s ∈ sources, (s.check tree verbose l).fault = none) :
    checkSources tree verbose l sources =
      ⟨{ l with collected :=
          l.collected ++ if l.collects then sources.flatMap (Source.entries tree l) else [] },
        sources.flatMap fun s => (s.check tree verbose l).printed,
        sources.any fun s => (s.check tree verbose l).failed, none⟩ := by
  induction sources generalizing l with
  | nil =>
    rw [List.flatMap_nil, ite_self, List.append_nil]
    rfl
  | cons s rest ih =>
    obtain ⟨hs, hrest⟩ := List.forall_mem_cons.mp h
    have hseen := fun s' => Checked.seen_eq_iff.mp (@Source.seen_check_behind tree verbose l s s')
    have hmore := ih (l := (s.check tree verbose l).linter) fun s' hs' => by
      rw [(hseen s').2.2, hrest s' hs']
    simp only [hseen, Source.entries_behind] at hmore
    simp only [checkSources_cons, hs, Option.isSome_none, Bool.false_eq_true, if_false, hmore,
      List.flatMap_cons, List.any_cons]
    simp only [Source.linter_check]
    cases l.collects with
    | true => simp only [if_true, List.append_assoc]
    | false => simp only [Bool.false_eq_true, if_false, List.append_nil]

theorem forall_of_fault_checkSources (h : (checkSources tree verbose l sources).fault = none) :
    ∀ s ∈ sources, (s.check tree verbose l).fault = none := by
  induction sources generalizing l with
  | nil => exact nofun
  | cons s rest ih =>
    rw [checkSources_cons] at h
    simp only at h
    split at h
    · next hfault =>
      rw [h] at hfault
      cases hfault
    · next hfault =>
      refine List.forall_mem_cons.mpr ⟨Option.not_isSome_iff_eq_none.mp hfault, fun s' hs' => ?_⟩
      obtain ⟨-, -, hsame⟩ := Checked.seen_eq_iff.mp (Source.seen_check_behind s s')
      rw [← hsame, ih h s' hs']

/-! ## Runs that look the same -/

namespace Printed

/-- What of the printed is messages. -/
def messages (printed : List Printed) : Text := printed.flatMap fun
  | .output _ => []
  | .message t => t

theorem outputs_flatMap {α : Type} (f : α → List Printed) (l : List α) :
    outputs (l.flatMap f) = l.flatMap fun a => outputs (f a) := List.flatMap_assoc

theorem outputs_outputLines (lines : List Text) :
    outputs (lines.map outputLine) = lines.flatMap (· ++ ['\n']) := List.flatMap_map ..

theorem messages_outputLines (lines : List Text) : messages (lines.map outputLine) = [] := by
  rw [messages, List.flatMap_map, List.flatMap_eq_nil_iff]
  exact fun _ _ => rfl

end Printed

namespace Run

variable {r r' : Run}

/-- Two runs print the same on both channels and end in the same way. -/
def Agrees (r r' : Run) : Prop :=
  r.output = r'.output ∧ r.messages = r'.messages ∧ r.ending = r'.ending

theorem agrees_of_printed (hprinted : r.printed = r'.printed) (hending : r.ending = r'.ending) :
    r.Agrees r' := by
  refine ⟨?_, ?_, hending⟩
  · rw [output, output, hprinted]
  · rw [messages, messages, hprinted]

theorem output_after_notes (r : Run) (verbose : Bool) (ns : List Note) :
    (r.after (Printed.notes verbose ns)).output = r.output := by
  change Printed.outputs (_ ++ _) = Printed.outputs _
  rw [Printed.outputs_append, Printed.outputs_notes, List.nil_append]

theorem messages_after (r : Run) (printed : List Printed) :
    (r.after printed).messages = Printed.messages printed ++ r.messages := List.flatMap_append

theorem agrees_after_iff (printed : List Printed) :
    (r.after printed).Agrees (r'.after printed) ↔ r.Agrees r' := by
  simp only [Agrees, output, messages, after, List.flatMap_append, List.append_cancel_left_eq]

end Run

/-! ## The end of a check -/

/-- The lines of the summary that is printed behind checked files. -/
def Checked.table (columns : Nat) (summary : Bool) (c : Checked) :
    Except Console.Styled.Fault (List Text) :=
  if summary then c.linter.summary columns else .ok []

variable {columns : Nat}

theorem Checked.table_false (c : Checked) : c.table columns false = .ok [] := rfl

/-- What is said in the end if nothing is wrong. -/
def Checked.verdict (c : Checked) : List Printed :=
  if c.failed then [] else [.outputLine (text "No straight quotes found.")]

variable {summary summary' : Bool} {c c' : Checked}

theorem finishCheck_of_fault {f : Fault} (hfault : c.fault = some f) :
    finishCheck tree columns summary c = ⟨c.printed, tree, .error f⟩ := by
  rw [finishCheck, hfault]

theorem finishCheck_of_unshowable {f : Console.Styled.Fault} (hfault : c.fault = none)
    (htable : c.table columns summary = .error f) :
    finishCheck tree columns summary c = ⟨c.printed, tree, .error (.unshowable f)⟩ := by
  cases summary with
  | false => cases htable
  | true =>
    change c.linter.summary columns = _ at htable
    simp only [finishCheck, hfault, if_true, htable]

theorem finishCheck_of_table {lines : List Text} (hfault : c.fault = none)
    (htable : c.table columns summary = .ok lines) :
    finishCheck tree columns summary c =
      ⟨c.printed ++ lines.map .outputLine ++ c.verdict, tree,
        .ok (if c.failed then 1 else 0)⟩ := by
  have hrun : finishCheck tree columns summary c =
      if c.failed then .quit tree (c.printed ++ lines.map .outputLine) 1
      else .quit tree (c.printed ++ lines.map .outputLine ++
        [.outputLine (text "No straight quotes found.")]) 0 := by
    cases summary with
    | false =>
      cases htable
      simp only [finishCheck, hfault, Bool.false_eq_true, if_false, List.map_nil, List.append_nil]
    | true =>
      change c.linter.summary columns = _ at htable
      simp only [finishCheck, hfault, if_true, htable]
  rw [hrun, Checked.verdict]
  cases c.failed with
  | true => rw [if_pos rfl, if_pos rfl, if_pos rfl, List.append_nil, Run.quit]
  | false => rw [if_neg Bool.false_ne_true, if_neg Bool.false_ne_true, if_neg Bool.false_ne_true,
      Run.quit]

/-- Each line with its end. -/
def unlines (lines : List Text) : Text := lines.flatMap (· ++ ['\n'])

theorem unlines_eq_nil_iff {lines : List Text} : unlines lines = [] ↔ lines = [] := by
  rw [unlines, List.flatMap_eq_nil_iff, List.eq_nil_iff_forall_not_mem]
  exact forall₂_congr fun line _ => iff_of_false (by simp) id

/-- The lines of the summary stand between what was printed of the files and the verdict. -/
theorem output_finishCheck_of_table {lines : List Text} (hfault : c.fault = none)
    (htable : c.table columns summary = .ok lines) :
    (finishCheck tree columns summary c).output =
      Printed.outputs c.printed ++ (unlines lines ++ Printed.outputs c.verdict) := by
  rw [finishCheck_of_table hfault htable]
  change Printed.outputs _ = _
  rw [Printed.outputs_append, Printed.outputs_append, Printed.outputs_outputLines,
    List.append_assoc, unlines]

theorem messages_finishCheck_of_table {lines : List Text} (hfault : c.fault = none)
    (htable : c.table columns summary = .ok lines) :
    (finishCheck tree columns summary c).messages = Printed.messages c.printed := by
  have hverdict : Printed.messages c.verdict = [] := by
    rw [Checked.verdict]
    cases c.failed with
    | _ => rfl
  rw [finishCheck_of_table hfault htable]
  change Printed.messages _ = _
  rw [Printed.messages, List.flatMap_append, List.flatMap_append]
  change Printed.messages _ ++ Printed.messages _ ++ Printed.messages _ = _
  rw [Printed.messages_outputLines, hverdict, List.append_nil, List.append_nil]

/-- The end of a check is told by what is seen and by the lines of the summary. -/
theorem agrees_finishCheck (hseen : c.seen = c'.seen)
    (htable : c.fault = none → c.table columns summary = c'.table columns summary') :
    (finishCheck tree columns summary c).Agrees (finishCheck tree' columns summary' c') := by
  obtain ⟨hprinted, hfailed, hfault⟩ := Checked.seen_eq_iff.mp hseen
  cases hc : c.fault with
  | some f =>
    rw [finishCheck_of_fault hc, finishCheck_of_fault (hfault.symm.trans hc)]
    exact Run.agrees_of_printed hprinted rfl
  | none =>
    have hc' : c'.fault = none := hfault.symm.trans hc
    cases hlines : c.table columns summary with
    | error f =>
      rw [finishCheck_of_unshowable hc hlines,
        finishCheck_of_unshowable hc' ((htable hc).symm.trans hlines)]
      exact Run.agrees_of_printed hprinted rfl
    | ok lines =>
      rw [finishCheck_of_table hc hlines,
        finishCheck_of_table hc' ((htable hc).symm.trans hlines)]
      refine Run.agrees_of_printed ?_ ?_
      · simp only [hprinted, Checked.verdict, hfailed]
      · simp only [hfailed]

theorem table_ne_nil (t : Console.Table) (size : Nat) : t.lines size ≠ [] := by
  simp [Console.Table.lines]

/-- The summary of collected issues is a table. -/
theorem Checked.table_of_ne_nil (hne : c.linter.collected ≠ []) (hcolumns : 0 < columns) :
    c.table columns true = (Linter.summaryTable c.linter.collected).map (·.lines columns) :=
  Linter.summary_eq hne hcolumns

theorem Checked.table_of_nil (hnil : c.linter.collected = []) : c.table columns true = .ok [] :=
  Linter.summary_of_nil hnil

/-- On a terminal without columns nothing is printed of a summary. -/
theorem Checked.table_of_eq_zero (hcolumns : columns = 0) : c.table columns true = .ok [] :=
  Linter.summary_of_eq_zero hcolumns

/-- Whether the summary is printed can be told exactly if there are columns for it, the check goes
on to the end and has collected anything. -/
theorem agrees_finishCheck_iff (hseen : c.seen = c'.seen) :
    (finishCheck tree columns false c).Agrees (finishCheck tree' columns true c') ↔
      (0 < columns → c'.fault = none → c'.linter.collected = []) := by
  obtain ⟨hprinted, hfailed, hfault⟩ := Checked.seen_eq_iff.mp hseen
  constructor
  · intro hagrees hcolumns hc'
    by_contra hne
    have hc : c.fault = none := hfault.trans hc'
    have htable := Checked.table_of_ne_nil hne hcolumns
    cases hsummary : Linter.summaryTable c'.linter.collected with
    | error f =>
      rw [hsummary] at htable
      rw [finishCheck_of_table hc c.table_false, finishCheck_of_unshowable hc' htable] at hagrees
      cases hagrees.2.2
    | ok t =>
      rw [hsummary] at htable
      have houtput := hagrees.1
      rw [output_finishCheck_of_table hc c.table_false, output_finishCheck_of_table hc' htable,
        hprinted, List.append_cancel_left_eq, Checked.verdict, Checked.verdict, hfailed] at houtput
      exact table_ne_nil t columns (unlines_eq_nil_iff.mp (List.self_eq_append_left.mp houtput))
  · intro hnil
    refine agrees_finishCheck hseen fun hc => Eq.symm ?_
    rcases Nat.eq_zero_or_pos columns with hcolumns | hcolumns
    · exact Checked.table_of_eq_zero hcolumns
    · exact Checked.table_of_nil (hnil hcolumns (hfault.symm.trans hc))

/-! ## Turning the summary on -/

/-- Two trees with the same files and the same sources, whose configurations come to the same but
for the summary: it is on in the first one and off in the second one. -/
structure SummaryApart (on off : FileTree) (config : Option Path) : Prop where
  shape : on.SameShape off
  sources : ∀ place, Language.ofPath? ⟨[], place⟩ ≠ none → on.content? place = off.content? place
  load : ∃ notes, ∃ result : Except Config.LoadError Config.Settings,
    Config.load on config = (notes, result.map fun s => { s with summary := true }) ∧
      Config.load off config = (notes, result.map fun s => { s with summary := false })

variable {on off : FileTree} {config : Option Path} {paths : List Path} {settings : Config.Settings}

namespace SummaryApart

/-- Configurations that differ in nothing but the summary cannot be loaded for the same reason. -/
theorem agrees_of_error (h : SummaryApart on off config) {e : Config.LoadError}
    (hload : (Config.load off config).2 = .error e) (go go' : Config.Settings → Run) :
    (withSettings on verbose config go).Agrees (withSettings off verbose config go') := by
  obtain ⟨notes, result, hon, hoff⟩ := h.load
  rw [hoff] at hload
  cases result with
  | ok s => cases hload
  | error e' =>
    rw [withSettings, withSettings, hon, hoff]
    cases e' with
    | _ => exact Run.agrees_of_printed rfl rfl

theorem load_on (h : SummaryApart on off config)
    (hload : (Config.load off config).2 = .ok settings) :
    (Config.load on config).1 = (Config.load off config).1 ∧
      (Config.load on config).2 = .ok { settings with summary := true } ∧
        settings.summary = false := by
  obtain ⟨notes, result, hon, hoff⟩ := h.load
  rw [hoff] at hload
  cases result with
  | error e => cases hload
  | ok s =>
    cases hload
    rw [hon, hoff]
    exact ⟨rfl, rfl, rfl⟩

theorem sameSources (h : SummaryApart on off config) {sources : List Source}
    (hcollect : Source.collect on settings.extensions paths = .ok sources) :
    SameSources on off sources := by
  intro s hs
  have hlanguage : Language.ofPath? ⟨[], s.place⟩ ≠ none := by
    rw [(Source.stands_of_collect hcollect s hs).language]
    exact Option.some_ne_none _
  refine ⟨?_, h.shape.shown_eq s.place⟩
  rw [Source.read, Source.read, h.sources s.place hlanguage]

/-- Behind configurations that can be loaded, the runs agree if their ends agree. -/
theorem agrees_check_iff (h : SummaryApart on off config)
    (hload : (Config.load off config).2 = .ok settings) :
    (perform on columns verbose (.check paths config summary)).Agrees
        (perform off columns verbose (.check paths config summary')) ↔
      ∀ sources, Source.collect off settings.extensions paths = .ok sources →
        (finishCheck on columns summary (checkSources on verbose
            (linterOf { settings with summary := true } summary) sources)).Agrees
          (finishCheck off columns summary' (checkSources off verbose
            (linterOf settings summary') sources)) := by
  obtain ⟨hnotes, hon, -⟩ := h.load_on hload
  rw [perform, perform, withSettings_of_load hon, withSettings_of_load hload, hnotes,
    Run.agrees_after_iff, withSources, withSources, Source.collect_eq h.shape]
  cases Source.collect off settings.extensions paths with
  | error p =>
    refine iff_of_true (Run.agrees_of_printed rfl rfl) fun sources hsources => ?_
    cases hsources
  | ok sources =>
    constructor
    · intro hagrees sources' hsources
      cases hsources
      exact hagrees
    · exact fun hagrees => hagrees sources rfl

/-- The same is seen of the sources, whether their issues are collected or not. -/
theorem seen_eq (h : SummaryApart on off config) {sources : List Source}
    (hcollect : Source.collect off settings.extensions paths = .ok sources)
    (summary summary' : Bool) :
    (checkSources on verbose (linterOf { settings with summary := true } summary) sources).seen =
      (checkSources off verbose (linterOf settings summary') sources).seen := by
  rw [← Source.collect_eq h.shape] at hcollect
  exact seen_checkSources_congr rfl rfl (h.sameSources hcollect)

end SummaryApart

/-- A linter for the summary collects the issues of the sources, one behind the other. -/
theorem collected_linterOf (settings : Config.Settings) {sources : List Source}
    (hfault : (checkSources tree verbose (linterOf settings true) sources).fault = none) :
    (checkSources tree verbose (linterOf settings true) sources).linter.collected =
      sources.flatMap (Source.entries tree (linterOf settings true)) := by
  have hcollects : (linterOf settings true).collects = true := Bool.or_true _
  rw [checkSources_of_forall (forall_of_fault_checkSources hfault), hcollects, if_pos rfl]
  exact List.nil_append _

/-- A source with issues is told to be wrong. -/
theorem Source.failed_of_entries {s : Source} (h : s.entries tree l ≠ []) :
    (s.check tree verbose l).failed = true := by
  revert h
  unfold entries check
  split
  · exact fun h => absurd rfl h
  · next document _ =>
    simp only [checkDocument, Linter.run]
    cases l.inspect .lint s.language (tree.shown s.place) document with
    | mk notes result =>
      cases result with
      | error e => exact fun h => absurd rfl h
      | ok r =>
        intro h
        have hne : r.issues ≠ [] := fun hnil => h (by rw [Answer.entries, hnil, List.map_nil])
        simp only [List.isEmpty_eq_false_iff.mpr hne, Bool.not_false]

theorem failed_of_flatMap_entries {sources : List Source}
    (h : sources.flatMap (Source.entries tree l) ≠ []) :
    (sources.any fun s => (s.check tree verbose l).failed) = true := by
  simp only [Ne, List.flatMap_eq_nil_iff, not_forall] at h
  obtain ⟨s, hs, hentries⟩ := h
  exact List.any_eq_true.mpr ⟨s, hs, Source.failed_of_entries hentries⟩

/-! ## The command -/

namespace SummaryApart

variable {sources : List Source}

theorem agrees_of_setting (h : SummaryApart on off config)
    (hload : (Config.load off config).2 = .ok settings) :
    (perform on columns verbose (.check paths config false)).Agrees
      (perform off columns verbose (.check paths config false)) := by
  refine (h.agrees_check_iff hload).mpr fun sources hcollect => ?_
  refine agrees_finishCheck (h.seen_eq hcollect _ _) fun _ => ?_
  rw [Checked.table_false, Checked.table_false]

theorem agrees_of_flag (h : SummaryApart on off config)
    (hload : (Config.load off config).2 = .ok settings) :
    (perform on columns verbose (.check paths config true)).Agrees
      (perform off columns verbose (.check paths config true)) := by
  refine (h.agrees_check_iff hload).mpr fun sources hcollect => ?_
  refine agrees_finishCheck (h.seen_eq hcollect true true) fun hfault => ?_
  have hfault' := (congrArg (·.2.2) (h.seen_eq hcollect true true)).symm.trans hfault
  have hsources := h.sameSources ((Source.collect_eq h.shape _ _).trans hcollect)
  have hcollected :
      sources.flatMap (Source.entries on (linterOf { settings with summary := true } true)) =
        sources.flatMap (Source.entries off (linterOf settings true)) :=
    List.flatMap_congr fun s hs =>
      Source.entries_congr rfl rfl (hsources s hs).1 (hsources s hs).2
  simp only [Checked.table, Linter.summary]
  rw [collected_linterOf _ hfault, collected_linterOf _ hfault', hcollected]

theorem agrees_setting_flag_iff (h : SummaryApart on off config)
    (hload : (Config.load off config).2 = .ok settings) :
    (perform on columns verbose (.check paths config false)).Agrees
        (perform off columns verbose (.check paths config true)) ↔
      ∀ sources, Source.collect off settings.extensions paths = .ok sources →
        0 < columns → (∀ s ∈ sources, (s.check off verbose (linterOf settings true)).fault = none) →
          sources.flatMap (Source.entries off (linterOf settings true)) = [] := by
  rw [h.agrees_check_iff hload]
  refine forall₂_congr fun sources hcollect => ?_
  rw [agrees_finishCheck_iff (h.seen_eq hcollect _ _)]
  refine forall_congr' fun _ => ?_
  constructor
  · intro hnil hsources
    have hfault : (checkSources off verbose (linterOf settings true) sources).fault = none := by
      rw [checkSources_of_forall hsources]
    rw [← collected_linterOf settings hfault, hnil hfault]
  · intro hnil hfault
    rw [collected_linterOf settings hfault, hnil (forall_of_fault_checkSources hfault)]

end SummaryApart

/-- With issues and the flag a run prints a table of them behind what it prints without the flag,
unless a text in the table cannot be shown or there are no columns to show it in. -/
theorem perform_check_of_entries {sources : List Source}
    (hload : (Config.load tree config).2 = .ok settings)
    (hcollect : Source.collect tree settings.extensions paths = .ok sources)
    (hsources : ∀ s ∈ sources, (s.check tree verbose (linterOf settings true)).fault = none)
    (hne : sources.flatMap (Source.entries tree (linterOf settings true)) ≠ []) :
    let l := linterOf settings true
    let plain := perform tree columns verbose (.check paths config false)
    let byFlag := perform tree columns verbose (.check paths config true)
    let listed := sources.flatMap fun s => Printed.outputs (s.check tree verbose l).printed
    plain.output = listed ∧ plain.ending = .ok 1 ∧ (0 < columns →
      (∀ f, Linter.summaryTable (sources.flatMap (Source.entries tree l)) = .error f →
        byFlag.output = listed ∧ byFlag.ending = .error (.unshowable f)) ∧
      ∀ table, Linter.summaryTable (sources.flatMap (Source.entries tree l)) = .ok table →
        byFlag.output = listed ++ unlines (table.lines columns) ∧
          byFlag.messages = plain.messages ∧ byFlag.ending = .ok 1) := by
  intro l plain byFlag listed
  have hchecked := checkSources_of_forall hsources
  have hfailed : (checkSources tree verbose l sources).failed = true := by
    rw [hchecked]
    exact failed_of_flatMap_entries hne
  have hfault : (checkSources tree verbose l sources).fault = none := by rw [hchecked]
  have hlisted : Printed.outputs (checkSources tree verbose l sources).printed = listed := by
    rw [hchecked, Printed.outputs_flatMap]
  have htable (hcolumns : 0 < columns) :=
    Checked.table_of_ne_nil ((collected_linterOf settings hfault).trans_ne hne) hcolumns
  rw [collected_linterOf settings hfault] at htable
  -- without the flag nothing may be collected, but the same is seen
  have hseen : (checkSources tree verbose (linterOf settings false) sources).seen =
      (checkSources tree verbose l sources).seen :=
    seen_checkSources_congr rfl rfl fun _ _ => ⟨rfl, rfl⟩
  obtain ⟨hprinted, hfailed₀, hfault₀⟩ := Checked.seen_eq_iff.mp hseen
  rw [hfailed] at hfailed₀
  rw [hfault] at hfault₀
  have htable₀ : (checkSources tree verbose (linterOf settings false) sources).table columns false =
      .ok [] := Checked.table_false _
  have hplain : plain = _ := perform_check_of_collect hload hcollect false
  have hbyFlag : byFlag = _ := perform_check_of_collect hload hcollect true
  refine ⟨?_, ?_, fun hcolumns => ⟨fun f hf => ?_, fun t ht => ?_⟩⟩
  · rw [hplain, Run.output_after_notes, output_finishCheck_of_table hfault₀ htable₀, hprinted,
      hlisted, Checked.verdict, hfailed₀, if_pos rfl]
    exact List.append_nil _
  · rw [hplain, finishCheck_of_table hfault₀ htable₀, hfailed₀]
    rfl
  · replace htable := htable hcolumns
    rw [hf] at htable
    rw [hbyFlag, Run.output_after_notes, finishCheck_of_unshowable hfault htable]
    exact ⟨hlisted, rfl⟩
  · replace htable := htable hcolumns
    rw [ht] at htable
    refine ⟨?_, ?_, ?_⟩
    · rw [hbyFlag, Run.output_after_notes, output_finishCheck_of_table hfault htable, hlisted,
        Checked.verdict, hfailed, if_pos rfl]
      exact congrArg _ (List.append_nil _)
    · rw [hbyFlag, hplain, Run.messages_after, Run.messages_after,
        messages_finishCheck_of_table hfault htable,
        messages_finishCheck_of_table hfault₀ htable₀, hprinted]
    · rw [hbyFlag, finishCheck_of_table hfault htable, hfailed]
      rfl

/-- A summary that is turned on in the configuration makes no difference: the run is the same as
without it, and a run with the flag is the same with it and without it. So turning it on in the
configuration comes to the same as the flag exactly if there is nothing to summarize: the run does
not come to its end, or it finds no issue, or the terminal has no columns. Otherwise the run with the
flag prints, behind what is printed of the sources, a table of all issues in the order of the
sources, and the other one does not. -/
theorem check_summary_iff (h : SummaryApart on off config) (columns : Nat) (verbose : Bool)
    (paths : List Path) :
    let bySetting := perform on columns verbose (.check paths config false)
    let byFlag := perform off columns verbose (.check paths config true)
    bySetting.Agrees (perform off columns verbose (.check paths config false)) ∧
    (perform on columns verbose (.check paths config true)).Agrees byFlag ∧
    (bySetting.Agrees byFlag ↔ ∀ settings sources, (Config.load off config).2 = .ok settings →
      Source.collect off settings.extensions paths = .ok sources → 0 < columns →
      (∀ s ∈ sources, (s.check off verbose (linterOf settings true)).fault = none) →
        sources.flatMap (Source.entries off (linterOf settings true)) = []) ∧
    ∀ settings sources, (Config.load off config).2 = .ok settings →
      Source.collect off settings.extensions paths = .ok sources →
      (∀ s ∈ sources, (s.check off verbose (linterOf settings true)).fault = none) →
        let l := linterOf settings true
        let entries := sources.flatMap (Source.entries off l)
        let listed := sources.flatMap fun s => Printed.outputs (s.check off verbose l).printed
        entries ≠ [] →
          bySetting.output = listed ∧ bySetting.ending = .ok 1 ∧ (0 < columns →
          (∀ f, Linter.summaryTable entries = .error f →
            byFlag.output = listed ∧ byFlag.ending = .error (.unshowable f)) ∧
          ∀ table, Linter.summaryTable entries = .ok table →
            byFlag.output = listed ++ unlines (table.lines columns) ∧
              byFlag.messages = bySetting.messages ∧ byFlag.ending = .ok 1) := by
  intro bySetting byFlag
  cases hload : (Config.load off config).2 with
  | error e =>
    refine ⟨h.agrees_of_error hload _ _, h.agrees_of_error hload _ _, ?_, nofun⟩
    exact iff_of_true (h.agrees_of_error hload _ _) nofun
  | ok settings =>
    refine ⟨h.agrees_of_setting hload, h.agrees_of_flag hload, ?_, ?_⟩
    · rw [h.agrees_setting_flag_iff hload]
      constructor
      · rintro hnil _ sources ⟨⟩
        exact hnil sources
      · exact fun hnil sources => hnil settings sources rfl
    · rintro _ sources ⟨⟩ hcollect hsources l entries listed hne
      have hagrees : bySetting.Agrees (perform off columns verbose (.check paths config false)) :=
        h.agrees_of_setting hload
      obtain ⟨houtput, hmessages, hending⟩ := hagrees
      obtain ⟨hlisted, hended, hshown⟩ := perform_check_of_entries hload hcollect hsources hne
      refine ⟨houtput.trans hlisted, hending.trans hended, fun hcolumns => ?_⟩
      obtain ⟨hunshown, htable⟩ := hshown hcolumns
      refine ⟨hunshown, fun t ht => ?_⟩
      obtain ⟨ht, hsame, hend⟩ := htable t ht
      exact ⟨ht, hsame.trans hmessages.symm, hend⟩

/-! ## A script with an issue -/

/-- A configuration that turns the summary on or off. -/
def switch (on : Bool) : Text := if on then text "summary: true\n" else text "summary: false\n"

/-- A directory with the configuration and a script. -/
def switched (on : Bool) : FileTree :=
  { top := [], current := [text "home"], directories := []
    files := [([text "home", text ".curly-quotes.yml"], .text (switch on)),
      ([text "home", text "a.js"], .text (text "var a = 'say \"hi\"';\n"))] }

/-- The value has the summary as its only setting. -/
def setsSummary (on : Bool) : Except Yaml.Fault Config.Value → Bool
  | .ok (.mapping [(.text key, .bool b)]) => key == text "summary" && b == on
  | _ => false

theorem eq_of_setsSummary {on : Bool} {value : Except Yaml.Fault Config.Value}
    (h : setsSummary on value = true) :
    value = .ok (.mapping [(.text (text "summary"), .bool on)]) := by
  unfold setsSummary at h
  split at h
  · rw [Bool.and_eq_true, beq_iff_eq, beq_iff_eq] at h
    rw [h.1, h.2]
  · cases h

theorem valueOf_switch (on : Bool) :
    Yaml.valueOf (switch on) = .ok (.mapping [(.text (text "summary"), .bool on)]) := by
  refine eq_of_setsSummary ?_
  cases on with
  | _ => decide +kernel

theorem load_switched (on : Bool) : Config.load (switched on) none =
    ([.configurationLoaded (text ".curly-quotes.yml")],
      .ok ⟨.fix, Language.scriptSuffixes ++ Language.componentSuffixes, [], on, {}⟩) := by
  have hfile : (switched on).file? Config.defaultFile =
      some ([text "home", text ".curly-quotes.yml"], .text (switch on)) := by
    cases on with
    | _ => decide +kernel
  have hread : (Content.text (switch on)).read = .ok (switch on) := by
    cases on with
    | _ => decide +kernel
  rw [Config.load, hfile, Option.isSome_some, if_pos rfl, Config.ofFile, hfile]
  simp only [hread]
  rw [Config.ofText, valueOf_switch]
  rfl

theorem summaryApart_switched : SummaryApart (switched true) (switched false) none where
  shape := ⟨rfl, rfl, rfl, rfl⟩
  sources := by
    intro place hplace
    by_cases hconfig : place = [text "home", text ".curly-quotes.yml"]
    · subst hconfig
      exact absurd (by decide +kernel) hplace
    · have hscript : ∀ on, (switched on).content? place = List.lookup place
          [([text "home", text "a.js"], .text (text "var a = 'say \"hi\"';\n"))] := fun on =>
        (FileTree.lookup_cons _ _ _).trans (if_neg hconfig)
      rw [hscript, hscript]
  load := ⟨_, .ok ⟨.fix, Language.scriptSuffixes ++ Language.componentSuffixes, [], true, {}⟩,
    load_switched true, load_switched false⟩

/-- With the flag the run over the script goes on to a table with its issue; the exit code is that
of the run without the table. -/
theorem check_summary_iff_of_issue :
    let listed := text "a.js:\n" ++
      text "  - [no-straight-quotes] 1:9: Prefer the use of curly quotes → «'say “hi”'»\n"
    let table : Console.Table :=
      ⟨text "Straight quotes summary",
        [⟨⟨text "Rule", false, 0, 1⟩, [text "no-straight-quotes"]⟩,
          ⟨⟨text "Location", true, 1, 1⟩, [text "a.js:1:9"]⟩,
          ⟨⟨text "Message", true, 1, 1⟩, [text "Prefer the use of curly quotes"]⟩,
          ⟨⟨text "Suggestion", true, 1, 0⟩, [text "«'say “hi”'»"]⟩]⟩
    let bySetting := perform (switched true) 100 false (.check [Path.ofText (text ".")] none false)
    let byFlag := perform (switched false) 100 false (.check [Path.ofText (text ".")] none true)
    bySetting.output = listed ∧ bySetting.ending = .ok 1 ∧
      byFlag.output = listed ++ unlines (table.lines 100) ∧ byFlag.ending = .ok 1 := by
  intro listed table bySetting byFlag
  let settings : Config.Settings :=
    ⟨.fix, Language.scriptSuffixes ++ Language.componentSuffixes, [], false, {}⟩
  let a : Source := ⟨Path.ofText (text "a.js"), .script, [text "home", text "a.js"]⟩
  let entry : Entry := ⟨text "a.js", ⟨1, 9, some (text "'say “hi”'")⟩⟩
  have hload : (Config.load (switched false) none).2 = .ok settings := by rw [load_switched]
  have hcollect : Source.collect (switched false) settings.extensions [Path.ofText (text ".")] =
      .ok [a] := by decide +kernel
  have hchecked : (a.check (switched false) false (linterOf settings true)).fault = none := by
    decide +kernel
  have hentries : [a].flatMap (Source.entries (switched false) (linterOf settings true)) =
      [entry] := by decide +kernel
  have hlisted : ([a].flatMap fun s =>
      Printed.outputs (s.check (switched false) false (linterOf settings true)).printed) =
        listed := by decide +kernel
  have hsummary : Linter.summaryTable [entry] = .ok table := by decide +kernel
  obtain ⟨-, -, -, hrun⟩ :=
    check_summary_iff summaryApart_switched 100 false [Path.ofText (text ".")]
  obtain ⟨hplain, hending, hshown⟩ := hrun settings [a] hload hcollect
    (List.forall_mem_singleton.mpr hchecked) (by rw [hentries]; exact List.cons_ne_nil _ _)
  rw [hlisted] at hplain hshown
  rw [hentries] at hshown
  obtain ⟨houtput, -, hended⟩ := (hshown (by decide)).2 table hsummary
  exact ⟨hplain, hending, houtput, hended⟩

/-- Turned on in the configuration, the summary of the script is not printed. -/
theorem check_without_summary :
    SummaryApart (switched true) (switched false) none ∧
      ¬ (perform (switched true) 100 false (.check [Path.ofText (text ".")] none false)).Agrees
        (perform (switched false) 100 false (.check [Path.ofText (text ".")] none true)) := by
  let settings : Config.Settings :=
    ⟨.fix, Language.scriptSuffixes ++ Language.componentSuffixes, [], false, {}⟩
  let a : Source := ⟨Path.ofText (text "a.js"), .script, [text "home", text "a.js"]⟩
  have hload : (Config.load (switched false) none).2 = .ok settings := by rw [load_switched]
  refine ⟨summaryApart_switched, fun hagrees => ?_⟩
  have hnil := (summaryApart_switched.agrees_setting_flag_iff hload).mp hagrees [a]
    (by decide +kernel) (by decide) (by decide +kernel)
  exact absurd hnil (by decide +kernel)

end Command

end SmartQuotes
