import SmartQuotes.Proofs.Linter.Settled
import SmartQuotes.Proofs.Markup.Notes

/-!
# Fixes that are said to be pending

After the last pass that is allowed a fix notes that fixes are still pending, unless a pass has
applied nothing. So the note is never missing where fixes are pending, and it is wrong exactly where
the last pass was the one that left nothing to do.
-/

namespace SmartQuotes

namespace Inspector

variable {i : Inspector}

/-- Some warning for the document carries a replacement. -/
def HasFixes (i : Inspector) (document : Text) : Prop :=
  ∃ found, (i.warnings document).result = .ok found ∧ ∃ w ∈ found, w.replacement.isSome

/-- Nothing that the extraction notes tells of fixes. -/
def NotesParsing (i : Inspector) : Prop :=
  ∀ document, (i.extract document).OnlyNotes Note.IsOnParsing

/-! ## What is noted -/

theorem not_isOnParsing_fixesPending {path : Text} {n : Nat} :
    ¬ (Note.fixesPending path n).IsOnParsing := by
  simp [Note.IsOnParsing, Note.channel]

theorem onlyNotes_pass (hnotes : i.NotesParsing) (document : Text) :
    (i.pass document).OnlyNotes Note.IsOnParsing :=
  Outcome.onlyNotes_bind
    (Outcome.onlyNotes_bind (hnotes document) fun _ _ => Outcome.onlyNotes_value)
    fun _ _ => Outcome.onlyNotes_value

theorem onlyNotes_passes (hnotes : i.NotesParsing) (document : Text) (applied n : Nat) :
    (i.passes document applied n).OnlyNotes Note.IsOnParsing := by
  induction n generalizing document applied with
  | zero => exact Outcome.onlyNotes_value
  | succ n ih =>
    refine Outcome.onlyNotes_bind (onlyNotes_pass hnotes document) fun ⟨next, count⟩ _ => ?_
    simp only
    split
    · exact Outcome.onlyNotes_value
    · exact ih next (applied + count)

/-- A report notes its issues, besides what the extraction notes. -/
theorem onlyNotes_report (hnotes : i.NotesParsing) (path document : Text) (fixed : Option Text)
    (applied : Nat) : (i.report path document fixed applied).OnlyNotes fun n =>
      n.IsOnParsing ∨ ∃ line column preview, n = .issue path line column preview := by
  refine Outcome.onlyNotes_bind ?_ fun found _ => ?_
  · refine Outcome.onlyNotes_bind ?_ fun _ _ => Outcome.onlyNotes_value
    exact fun n hn => Or.inl (hnotes document n hn)
  · refine Outcome.onlyNotes_bind (Outcome.onlyNotes_note ?_) fun _ _ => Outcome.onlyNotes_value
    intro n hn
    obtain ⟨issue, -, rfl⟩ := List.mem_map.mp hn
    exact Or.inr ⟨issue.line, issue.column, issue.preview, rfl⟩

/-- That fixes are pending is noted exactly if the passes have not settled. -/
theorem pending_mem_notes_iff (hnotes : i.NotesParsing) {path source : Text} {p : Progress}
    (hp : (i.passes source 0 maxPasses).result = .ok p) :
    Note.fixesPending path maxPasses ∈ (i.fix path source).notes ↔ p.settled = false := by
  constructor
  · intro hmem
    rw [fix, Outcome.notes_bind_ok hp, List.mem_append] at hmem
    -- the extraction notes on another channel, and a report notes nothing but issues besides
    rcases hmem with hmem | hmem
    · exact absurd (onlyNotes_passes hnotes source 0 maxPasses _ hmem) not_isOnParsing_fixesPending
    · by_contra hsettled
      rw [if_pos (eq_true_of_ne_false hsettled)] at hmem
      rcases onlyNotes_report hnotes path p.document _ _ _ hmem with hmem | ⟨_, _, _, ⟨⟩⟩
      exact not_isOnParsing_fixesPending hmem
  · intro hsettled
    by_contra hno
    rw [settled_of_not_mem_notes hp hno] at hsettled
    cases hsettled

/-! ## What is pending -/

/-- Some warning carries a replacement exactly if some replacement is asked for. -/
theorem hasFixes_iff_replacements {document : Text} {fragments : List Fragment}
    (hextract : (i.extract document).result = .ok fragments) :
    i.HasFixes document ↔ i.replacements fragments ≠ [] := by
  constructor
  · rintro ⟨found, hfound, w, hw, hsome⟩ hnil
    obtain ⟨_, hextract', rfl⟩ := exists_extract_of_result_warnings hfound
    cases hextract.symm.trans hextract'
    have hnone := List.filterMap_eq_nil_iff.mp hnil w hw
    rw [Warning.replacement?, Option.map_eq_none_iff] at hnone
    rw [hnone] at hsome
    cases hsome
  · intro hne
    obtain ⟨r, hr⟩ := List.exists_mem_of_ne_nil _ hne
    obtain ⟨w, hw, hr⟩ := List.mem_filterMap.mp hr
    obtain ⟨t, ht, -⟩ := Option.map_eq_some_iff.mp hr
    refine ⟨_, by rw [result_warnings, hextract, Except.map], w, hw, ?_⟩
    rw [ht]
    rfl

/-- Fixes are pending in a document that can be read exactly if a pass over it applies something. -/
theorem hasFixes_iff_pass (hoffsets : i.OffsetsNonneg) {document : Text} {fragments : List Fragment}
    (hextract : (i.extract document).result = .ok fragments) :
    i.HasFixes document ↔ (i.pass document).result ≠ .ok (document, 0) := by
  rw [hasFixes_iff_replacements hextract, ne_eq, ← chosen_eq_nil_iff hoffsets hextract]
  refine not_congr ⟨fun hnil => ?_, fun hpass => ?_⟩
  · refine result_pass_iff.mpr ⟨fragments, hextract, ?_, ?_⟩
    · rw [hnil, Replacement.weave_nil]
    · rw [hnil, List.length_nil]
  · obtain ⟨fragments', hextract', -, hcount⟩ := result_pass_iff.mp hpass
    cases hextract.symm.trans hextract'
    exact List.length_eq_zero_iff.mp hcount.symm

/-- A further fix applies nothing exactly if a pass applies nothing. -/
theorem exists_fix_iff_pass {path document : Text} {found : List Warning}
    (hfound : (i.warnings document).result = .ok found) :
    (∃ r, (i.fix path document).result = .ok r ∧ r.applied = 0) ↔
      (i.pass document).result = .ok (document, 0) := by
  constructor
  · rintro ⟨r, hr, hzero⟩
    obtain ⟨p, hp, hreport⟩ := result_fix_iff.mp hr
    obtain ⟨_, -, rfl⟩ := exists_of_result_report hreport
    exact (applied_eq_zero_iff hp).mp hzero
  · intro hpass
    exact ⟨_, result_fix_of_passes path (result_passes_of_pass hpass) hfound, rfl⟩

end Inspector

/-- That fixes are pending after the last pass is noted exactly if every pass has applied something.
The note is never missing where the fixed document asks for a replacement, that is where a further
fix applies something or fails; it tells the truth unless the last pass has left nothing to do. -/
theorem Linter.pending_noted_iff (l : Linter) (language : Language) (path source : Text)
    (r : Report) (hfix : (l.inspect .fix language path source).result = .ok r) :
    let i := l.inspector language
    let noted := Note.fixesPending path Inspector.maxPasses ∈
      (l.inspect .fix language path source).notes
    ∃ fixed, r.fixed = some fixed ∧
      (noted ↔ i.Reaches source Inspector.maxPasses fixed) ∧
      (i.HasFixes fixed → noted) ∧
      ((noted ↔ i.HasFixes fixed) ↔
        ¬ (i.Reaches source Inspector.maxPasses fixed ∧
          (i.pass fixed).result = .ok (fixed, 0))) ∧
      ∀ path', (∃ r', (l.inspect .fix language path' fixed).result = .ok r' ∧ r'.applied = 0) ↔
        ¬ i.HasFixes fixed := by
  intro i noted
  obtain ⟨p, hp, hreport⟩ := Inspector.result_fix_iff.mp hfix
  obtain ⟨found, hfound, rfl⟩ := Inspector.exists_of_result_report hreport
  have hnoted : noted ↔ p.settled = false :=
    Inspector.pending_mem_notes_iff (i := i) language.onlyNotes_extract hp
  have hreaches := hnoted.trans (Inspector.not_settled_iff_reaches hp)
  have hfixes : i.HasFixes p.document ↔ (i.pass p.document).result ≠ .ok (p.document, 0) := by
    obtain ⟨fragments, hextract, -⟩ := Inspector.exists_extract_of_result_warnings hfound
    exact Inspector.hasFixes_iff_pass (l.offsetsNonneg_inspector language) hextract
  have hmissing : i.HasFixes p.document → noted := by
    intro hpending
    by_contra hno
    have hsettled := eq_true_of_ne_false (hnoted.not.mp hno)
    exact hfixes.mp hpending (Inspector.result_pass_of_settled hp hsettled)
  refine ⟨p.document, rfl, hreaches, hmissing, ?_, fun path' => ?_⟩
  · rw [← hreaches, ← not_ne_iff, ← hfixes]
    constructor
    · rintro hiff ⟨hmem, hno⟩
      exact hno (hiff.mp hmem)
    · intro h
      refine ⟨fun hmem => ?_, hmissing⟩
      by_contra hno
      exact h ⟨hmem, hno⟩
  · rw [hfixes, not_ne_iff]
    exact Inspector.exists_fix_iff_pass hfound

/-- A text inside of `n` template literals with a mark at the start of each. -/
def withinLiterals (mark : Char) (t : Text) : Nat → Text
  | 0 => t
  | n + 1 => '\x60' :: mark :: '$' :: '\x7b' :: withinLiterals mark t n ++ ['\x7d', '\x60']

theorem result_passes_of_eleven :
    ((Linter.inspector { marks := {} } .script).passes
      (withinLiterals '\x27' (text "\x60'\x60") 10) 0 Inspector.maxPasses).result =
      .ok ⟨withinLiterals '‘' (text "\x60'\x60") 10, 10, false⟩ := by
  decide +kernel

/-- Of eleven literals with quotes one inside the other the innermost one is still pending after ten
passes, as it is noted. -/
theorem Linter.pending_noted_iff_of_eleven :
    let l : Linter := { marks := {} }
    let i := l.inspector .script
    let source := withinLiterals '\x27' (text "\x60'\x60") 10
    let fixed := withinLiterals '‘' (text "\x60'\x60") 10
    let issue : Issue := ⟨1, 41, some (text "\x60‘\x60")⟩
    (l.inspect .fix .script (text "a.js") source).result =
        .ok ⟨text "a.js", [issue], some fixed, 10⟩ ∧
      i.Reaches source Inspector.maxPasses fixed ∧ i.HasFixes fixed ∧
      Note.fixesPending (text "a.js") Inspector.maxPasses ∈
        (l.inspect .fix .script (text "a.js") source).notes := by
  intro l i source fixed issue
  have hfound : (i.warnings fixed).result =
      .ok [⟨⟨40, 43, some (text "\x60‘\x60")⟩, some (text "\x60‘\x60")⟩] := by decide +kernel
  have hfix := Inspector.result_fix_of_passes (text "a.js") result_passes_of_eleven hfound
  obtain ⟨_, ⟨⟩, hreaches, hnoted, -⟩ := l.pending_noted_iff .script _ _ _ hfix
  have hpending : i.HasFixes fixed := ⟨_, hfound, _, List.mem_singleton_self _, rfl⟩
  exact ⟨hfix, hreaches.mp (hnoted hpending), hpending, hnoted hpending⟩

theorem result_passes_of_ten :
    ((Linter.inspector { marks := {} } .script).passes
      (withinLiterals '\x27' (text "\x60'\x60") 9) 0 Inspector.maxPasses).result =
      .ok ⟨withinLiterals '‘' (text "\x60‘\x60") 9, 10, false⟩ := by
  decide +kernel

/-- Of ten literals the innermost one is corrected in the last pass. Nothing is left to do, and
still it is noted that fixes are pending. -/
theorem Linter.pending_noted_of_ten :
    let l : Linter := { marks := {} }
    let i := l.inspector .script
    let source := withinLiterals '\x27' (text "\x60'\x60") 9
    let fixed := withinLiterals '‘' (text "\x60‘\x60") 9
    l.level = .fix ∧
      (l.inspect .fix .script (text "a.js") source).result =
        .ok ⟨text "a.js", [], some fixed, 10⟩ ∧
      Note.fixesPending (text "a.js") Inspector.maxPasses ∈
        (l.inspect .fix .script (text "a.js") source).notes ∧
      ¬ i.HasFixes fixed := by
  intro l i source fixed
  have hfound : (i.warnings fixed).result = .ok [] := by decide +kernel
  refine ⟨rfl, Inspector.result_fix_of_passes _ result_passes_of_ten hfound, ?_, ?_⟩
  · exact (Inspector.pending_mem_notes_iff (i := i) Language.script.onlyNotes_extract
      result_passes_of_ten).mpr rfl
  · rintro ⟨_, hfound', w, hw, -⟩
    cases hfound.symm.trans hfound'
    cases hw

end SmartQuotes
