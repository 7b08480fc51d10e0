import SmartQuotes.Proofs.Linter.Pass
import SmartQuotes.Proofs.Markup.Extent
import SmartQuotes.Linter.Session

/-!
# What a settled fix leaves

A fix whose passes have settled leaves a document on which a pass applies nothing, so that a second
fix returns it as it is. If the marks hold no straight quotes, then every reported fragment is changed
by its correction, and where nothing is applied nothing is reported. The extraction may be any
function that yields no negative offsets; those of both languages yield none.
-/

namespace SmartQuotes

namespace Inspector

variable {i : Inspector}

/-- The extraction yields no negative offsets. -/
def OffsetsNonneg (i : Inspector) : Prop :=
  ∀ document, (i.extract document).All fun f => 0 ≤ f.start

/-- Of the replacements that are asked for some is applied. -/
theorem chosen_eq_nil_iff (hoffsets : i.OffsetsNonneg) {document : Text} {fragments : List Fragment}
    (hextract : (i.extract document).result = .ok fragments) :
    i.chosen fragments = [] ↔ i.replacements fragments = [] := by
  have hnonneg : ∀ r ∈ sortBy Replacement.le (i.replacements fragments), 0 ≤ r.start := by
    intro r hr
    obtain ⟨-, f, hf, -, -, rfl⟩ := mem_replacements_iff.mp (mem_sortBy.mp hr)
    exact hoffsets document fragments hextract f hf
  constructor
  · intro h
    have hnil := Replacement.eq_nil_of_choose_eq_nil hnonneg h
    rw [List.eq_nil_iff_forall_not_mem] at hnil ⊢
    exact fun r hr => hnil r (mem_sortBy.mpr hr)
  · intro h
    rw [chosen, h]
    rfl

/-- Nothing is reported where a pass applies nothing. -/
theorem result_warnings_of_pass (hlevel : i.level = .fix) (hm : i.marks.QuoteFree)
    (hoffsets : i.OffsetsNonneg) {document : Text}
    (h : (i.pass document).result = .ok (document, 0)) :
    (i.warnings document).result = .ok [] := by
  obtain ⟨fragments, hextract, -, hcount⟩ := result_pass_iff.mp h
  have hnil := (chosen_eq_nil_iff hoffsets hextract).mp (List.length_eq_zero_iff.mp hcount.symm)
  rw [result_warnings, hextract, Except.map]
  congr 1
  rw [List.eq_nil_iff_forall_not_mem] at hnil ⊢
  intro w hw
  obtain ⟨-, f, hf, hvisited, hwarning⟩ := mem_review_iff.mp hw
  have hholds := (ofFragment?_spec hwarning).1
  exact hnil (i.marks.replacement f) (mem_replacements_iff.mpr
    ⟨hlevel, f, hf, ⟨hvisited, hholds⟩, Marks.correct_ne_of_holds hm hholds, rfl⟩)

/-- A fix that has settled leaves a document on which a pass applies nothing. -/
theorem exists_pass_of_settled {path source : Text} {r : Report}
    (hfix : (i.fix path source).result = .ok r)
    (hsettled : Note.fixesPending path maxPasses ∉ (i.fix path source).notes) :
    ∃ document found, (i.pass document).result = .ok (document, 0) ∧
      (i.warnings document).result = .ok found ∧ r.fixed = some document ∧
      r.issues = found.map (Issue.ofWarning document) := by
  obtain ⟨p, hp, hreport⟩ := result_fix_iff.mp hfix
  have hpass := result_pass_of_settled hp (settled_of_not_mem_notes hp hsettled)
  obtain ⟨found, hwarnings, rfl⟩ := exists_of_result_report hreport
  exact ⟨p.document, found, hpass, hwarnings, rfl, rfl⟩

/-- A fix that has settled is stable: a second one applies nothing and returns the document. With
marks that hold no straight quotes it leaves no issue, and linting the document reports none. -/
theorem stable_of_settled (hlevel : i.level = .fix) {path source : Text} {r : Report}
    (hfix : (i.fix path source).result = .ok r)
    (hsettled : Note.fixesPending path maxPasses ∉ (i.fix path source).notes) :
    ∃ fixed, r.fixed = some fixed ∧
      (∀ path', ∃ r', (i.fix path' fixed).result = .ok r' ∧ r'.fixed = some fixed ∧
        r'.applied = 0) ∧
      (i.marks.QuoteFree → i.OffsetsNonneg → r.issues = [] ∧
        ∀ path', ∃ r', (i.lint path' fixed).result = .ok r' ∧ r'.issues = []) := by
  obtain ⟨document, found, hpass, hwarnings, hfixed, hissues⟩ :=
    exists_pass_of_settled hfix hsettled
  refine ⟨document, hfixed, fun path' => ?_, fun hm hoffsets => ?_⟩
  · have hagain := result_fix_of_passes path' (result_passes_of_pass hpass) hwarnings
    exact ⟨_, hagain, rfl, rfl⟩
  · have hnone := result_warnings_of_pass hlevel hm hoffsets hpass
    rw [hwarnings] at hnone
    cases hnone
    refine ⟨hissues, fun path' => ⟨⟨path', [], none, 0⟩, ?_, rfl⟩⟩
    rw [lint, result_report, hwarnings]
    rfl

end Inspector

/-- No offset of a fragment is negative in either language. -/
theorem Linter.offsetsNonneg_inspector (l : Linter) (language : Language) :
    (l.inspector language).OffsetsNonneg := fun document fragments h f hf =>
  (language.all_extract document fragments h f hf).start_le

/-- A string literal with quotes inside is fixed in one pass, and it stays so. -/
theorem Inspector.stable_of_settled_literal :
    let i := Linter.inspector { marks := {} } .script
    let r : Report := ⟨text "a.js", [], some (text "a = '“b”';"), 1⟩
    (i.level = .fix ∧ (i.fix (text "a.js") (text "a = '\"b\"';")).result = .ok r ∧
      Note.fixesPending (text "a.js") maxPasses ∉
        (i.fix (text "a.js") (text "a = '\"b\"';")).notes ∧
      i.marks.QuoteFree ∧ i.OffsetsNonneg) ∧
    ∃ fixed, r.fixed = some fixed ∧
      (∀ path', ∃ r', (i.fix path' fixed).result = .ok r' ∧ r'.fixed = some fixed ∧
        r'.applied = 0) ∧
      r.issues = [] ∧ ∀ path', ∃ r', (i.lint path' fixed).result = .ok r' ∧ r'.issues = [] := by
  intro i r
  have hfix : (i.fix (text "a.js") (text "a = '\"b\"';")).result = .ok r := by decide +kernel
  have hsettled : Note.fixesPending (text "a.js") maxPasses ∉
      (i.fix (text "a.js") (text "a = '\"b\"';")).notes := by decide +kernel
  have hm : i.marks.QuoteFree := by decide
  have hoffsets := Linter.offsetsNonneg_inspector { marks := {} } .script
  obtain ⟨fixed, hfixed, hagain, hnone⟩ := stable_of_settled rfl hfix hsettled
  exact ⟨⟨rfl, hfix, hsettled, hm, hoffsets⟩, fixed, hfixed, hagain, hnone hm hoffsets⟩

end SmartQuotes
