import SmartQuotes.Linter.Session
import SmartQuotes.Proofs.Linter.Review
import SmartQuotes.Proofs.Markup.Extent
import SmartQuotes.Proofs.Text.Position

/-!
# The places of issues

The issues of a report follow one another like the fragments that are reported, and each of them
leads back to the start of its fragment: the fragments of a document lie inside of it, and there an
offset is found again from its line and column. In a fix this is the fixed document.
-/

namespace SmartQuotes

variable {m : Marks} {level : Level} {templateAware : Bool} {fragments : List Fragment}
  {document : Text} {f g : Fragment}

/-- The fragments that are reported, by start and then by stop. -/
def reported (level : Level) (templateAware : Bool) (fragments : List Fragment) : List Fragment :=
  if level = .ignore then [] else sortBy Fragment.le (pending templateAware fragments)

theorem mem_of_mem_reported (h : f ∈ reported level templateAware fragments) : f ∈ fragments := by
  unfold reported at h
  split at h
  · exact absurd h List.not_mem_nil
  · exact (mem_pending_iff.mp (mem_sortBy.mp h)).1

theorem pairwise_start_reported :
    (reported level templateAware fragments).Pairwise fun f g => f.start ≤ g.start := by
  unfold reported
  split
  · exact List.Pairwise.nil
  · exact (pairwise_sortBy_of_place Fragment.start Fragment.stop (fun _ _ => rfl) _).imp (by omega)

/-- A review warns of the reported fragments one after the other. -/
theorem review_eq_map_reported :
    review m level templateAware fragments =
      (reported level templateAware fragments).map (Warning.about m level) := by
  unfold reported
  split
  · next hlevel =>
    rw [review, if_pos hlevel]
    rfl
  · next hlevel =>
    have h : InOrder Fragment.start Fragment.stop (pending templateAware fragments)
        (sortBy Fragment.le (pending templateAware fragments)) := inOrder_sortBy (fun _ _ => rfl) _
    exact (inOrder_review m hlevel templateAware fragments).unique (h.map (Warning.about m level))

/-- A fragment of a document starts at an offset of it. -/
theorem Fragment.LiesIn.exists_start (h : f.LiesIn document 0 document.length) :
    ∃ i : Nat, f.start = i ∧ i ≤ document.length := by
  obtain ⟨i, hi⟩ := Int.eq_ofNat_of_zero_le h.start_le
  have hle := Int.le_trans h.le h.stop_le
  exact ⟨i, hi, by omega⟩

namespace Issue

/-- The issue is one of the fragment: it shows the correction of the fragment if this changes the
text, and its line and column lead back to the start of the fragment. -/
structure PointsTo (m : Marks) (document : Text) (x : Issue) (f : Fragment) : Prop where
  place_eq : (x.line, x.column) = document.lineColumn f.start
  offsetOf_eq : document.offsetOf x.line (x.column - 1) = f.start
  preview_eq : x.preview = if m.correct f = f.text then none else some (m.correct f)

/-- The first issue does not stand behind the second one. -/
def PlaceLe (x y : Issue) : Prop := x.line < y.line ∨ (x.line = y.line ∧ x.column ≤ y.column)

/-- The issue for a fragment. -/
def about (m : Marks) (level : Level) (document : Text) (f : Fragment) : Issue :=
  ofWarning document (.about m level f)

theorem pointsTo_about (hf : f.LiesIn document 0 document.length) :
    (about m level document f).PointsTo m document f where
  place_eq := rfl
  offsetOf_eq := by
    obtain ⟨i, hi, hle⟩ := hf.exists_start
    have h := Text.offsetOf_lineColumn hle
    rw [← hi] at h
    exact h
  preview_eq := rfl

theorem placeLe_about (hf : f.LiesIn document 0 document.length)
    (hg : g.LiesIn document 0 document.length) (hfg : f.start ≤ g.start) :
    (about m level document f).PlaceLe (about m level document g) := by
  obtain ⟨i, hi, -⟩ := hf.exists_start
  obtain ⟨j, hj, hle⟩ := hg.exists_start
  rcases Int.lt_or_eq_of_le hfg with hlt | heq
  · have h := Text.lineColumn_lt (by omega : i < j) hle
    rw [← hi, ← hj] at h
    exact h.imp_right fun h => ⟨h.1, Int.le_of_lt h.2⟩
  · right
    simp [about, ofWarning, Warning.about, heq]

end Issue

/-- A report tells of the reported fragments of the document it is on. -/
theorem Inspector.exists_reported_of_report {i : Inspector} {path : Text} {fixed : Option Text}
    {applied : Nat} {r : Report} (h : (i.report path document fixed applied).result = .ok r) :
    ∃ fragments, (i.extract document).result = .ok fragments ∧ r.fixed = fixed ∧
      r.issues = (reported i.level i.templateAware fragments).map
        (Issue.about i.marks i.level document) := by
  obtain ⟨found, hfound, rfl⟩ := exists_of_result_report h
  obtain ⟨fragments, hextract, rfl⟩ := exists_extract_of_result_warnings hfound
  refine ⟨fragments, hextract, rfl, ?_⟩
  rw [review_eq_map_reported, List.map_map]
  rfl

namespace Linter

variable {l : Linter} {task : Task} {language : Language} {path source : Text} {r : Report}

/-- A lint reports on the document it is given, and a fix on the fixed one. -/
theorem exists_reported_of_inspect (h : (l.inspect task language path source).result = .ok r) :
    ∃ document fragments, r.fixed.getD source = document ∧ (task = .fix ↔ r.fixed ≠ none) ∧
      (language.extract document).result = .ok fragments ∧
      r.issues = (reported l.level language.isTemplateAware fragments).map
        (Issue.about l.marks l.level document) := by
  cases task with
  | lint =>
    obtain ⟨fragments, hextract, hfixed, hissues⟩ := Inspector.exists_reported_of_report h
    exact ⟨source, fragments, by rw [hfixed]; rfl, by simp [hfixed], hextract, hissues⟩
  | fix =>
    obtain ⟨p, -, hreport⟩ := Inspector.result_fix_iff.mp h
    obtain ⟨fragments, hextract, hfixed, hissues⟩ := Inspector.exists_reported_of_report hreport
    exact ⟨p.document, fragments, by rw [hfixed]; rfl, by simp [hfixed], hextract, hissues⟩

/-- The line and the column of an offset lead back to the offset, and the offset of a column of a
line leads back to both; further to the right in a text means further on in a line or in a later
line. The issues of a report therefore lead back, one after the other, to the starts of the reported
fragments of the document that was linted or of the fixed one, and none of them stands behind the
next. -/
theorem issues_point_to_fragments :
    (∀ (t : Text) (i : Nat), i ≤ t.length →
      t.offsetOf (t.lineColumn i).1 ((t.lineColumn i).2 - 1) = i) ∧
    (∀ (t : Text) (n column : Nat) (line : Text), t.lines[n]? = some line →
      column ≤ line.length →
      t.lineColumn (t.offsetOf (n + 1) column) = (n + 1, (column : Int) + 1)) ∧
    (∀ (t : Text) (i j : Nat), i < j → j ≤ t.length →
      Text.PlaceLt (t.lineColumn i) (t.lineColumn j)) ∧
    ∀ (l : Linter) (task : Task) (language : Language) (path source : Text) (r : Report),
      (l.inspect task language path source).result = .ok r →
      ∃ document fragments, r.fixed.getD source = document ∧ (task = .fix ↔ r.fixed ≠ none) ∧
        (language.extract document).result = .ok fragments ∧
        List.Forall₂ (Issue.PointsTo l.marks document) r.issues
          (reported l.level language.isTemplateAware fragments) ∧
        r.issues.Pairwise Issue.PlaceLe := by
  refine ⟨fun t i => Text.offsetOf_lineColumn, fun t n column line => Text.lineColumn_offsetOf,
    fun t i j => Text.lineColumn_lt, fun l task language path source r h => ?_⟩
  obtain ⟨document, fragments, hfixed, htask, hextract, hissues⟩ := exists_reported_of_inspect h
  have hlies : ∀ f ∈ reported l.level language.isTemplateAware fragments,
      f.LiesIn document 0 document.length := fun f hf =>
    language.all_extract document fragments hextract f (mem_of_mem_reported hf)
  refine ⟨document, fragments, hfixed, htask, hextract, ?_, ?_⟩
  · rw [hissues, List.forall₂_map_left_iff, List.forall₂_same]
    exact fun f hf => Issue.pointsTo_about (hlies f hf)
  · rw [hissues, List.pairwise_map]
    exact pairwise_start_reported.imp_of_mem fun hf hg hfg =>
      Issue.placeLe_about (hlies _ hf) (hlies _ hg) hfg

/-- The three issues of a script of two lines lead back to their literals. -/
theorem issues_point_to_fragments_of_three :
    let l : Linter := { marks := {} }
    let source := text "a = \x22it's\x22;\nb(\x22I'm\x22, \x22'\x22);\n"
    let line := text "b(\x22I'm\x22, \x22'\x22);"
    let r : Report := ⟨text "a.js", [⟨1, 5, some (text "\x22it‘s\x22")⟩,
      ⟨2, 3, some (text "\x22I‘m\x22")⟩, ⟨2, 10, some (text "\x22‘\x22")⟩], none, 0⟩
    ((l.inspect .lint .script (text "a.js") source).result = .ok r ∧ 14 ≤ source.length ∧
      source.lines[1]? = some line ∧ 2 ≤ line.length ∧ 4 < 14) ∧
    source.offsetOf (source.lineColumn 14).1 ((source.lineColumn 14).2 - 1) = 14 ∧
    source.lineColumn (source.offsetOf 2 2) = (2, 3) ∧
    Text.PlaceLt (source.lineColumn 4) (source.lineColumn 14) ∧
    ∃ fragments, (Language.script.extract source).result = .ok fragments ∧
      List.Forall₂ (Issue.PointsTo l.marks source) r.issues (reported .fix false fragments) ∧
      r.issues.Pairwise Issue.PlaceLe := by
  intro l source line r
  have hreport : (l.inspect .lint .script (text "a.js") source).result = .ok r := by decide +kernel
  have hlength : 14 ≤ source.length := by decide
  have hline : source.lines[1]? = some line := by decide
  have hcolumn : 2 ≤ line.length := by decide
  obtain ⟨hoffset, hplace, hlt, hissues⟩ := issues_point_to_fragments
  obtain ⟨_, fragments, rfl, -, hextract, hpoints, horder⟩ := hissues l _ _ _ _ _ hreport
  exact ⟨⟨hreport, hlength, hline, hcolumn, by decide⟩, hoffset source 14 hlength,
    hplace source 1 2 line hline hcolumn, hlt source 4 14 (by decide) hlength, fragments, hextract,
    hpoints, horder⟩

end Linter

end SmartQuotes
