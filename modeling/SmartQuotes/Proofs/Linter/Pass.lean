import SmartQuotes.Linter.Inspector
import SmartQuotes.Proofs.Outcome
import SmartQuotes.Proofs.Quote.Rewrite
import SmartQuotes.Proofs.Text.Replacement

/-!
# Passes

A pass applies replacements for the fragments that are pending: those that are visited and hold a
straight quote in scope. A run of passes that settles ends with a pass that applies nothing, and such
a pass leaves its document as it is.
-/

namespace SmartQuotes

namespace Fragment

/-- The fragment is visited and holds a straight quote in scope. -/
def IsPending (mode : Mode) (f : Fragment) : Prop :=
  f.isVisited mode = true ∧ f.holdsStraightQuote = true

end Fragment

/-- Put the correction of a fragment in its place. -/
def Marks.replacement (m : Marks) (f : Fragment) : Replacement := ⟨f.start, f.stop, m.correct f⟩

namespace Inspector

variable {i : Inspector}

/-- Which fragments of documents are visited. -/
def mode (i : Inspector) : Mode := .ofDocument i.templateAware

/-- The replacements that are asked for. -/
def replacements (i : Inspector) (fragments : List Fragment) : List Replacement :=
  (review i.marks i.level i.templateAware fragments).filterMap Warning.replacement?

/-- The replacements that are applied. -/
def chosen (i : Inspector) (fragments : List Fragment) : List Replacement :=
  Replacement.choose 0 (sortBy Replacement.le (i.replacements fragments))

/-- The pass over the document applies the correction of the fragment. -/
def Applies (i : Inspector) (document : Text) (f : Fragment) : Prop :=
  ∃ fragments, (i.extract document).result = .ok fragments ∧ f ∈ fragments ∧
    f.isVisited i.mode = true ∧ i.marks.replacement f ∈ i.chosen fragments

theorem mem_review_iff {m : Marks} {level : Level} {templateAware : Bool}
    {fragments : List Fragment} {w : Warning} :
    w ∈ review m level templateAware fragments ↔ level ≠ .ignore ∧
      ∃ f ∈ fragments, f.isVisited (.ofDocument templateAware) = true ∧
        Warning.ofFragment? m level f = some w := by
  unfold review
  split
  · next h => simp [h]
  · next h => simp [h, mem_sortBy, and_assoc]

/-- There is a warning only for a fragment that holds a straight quote. It stands at the start of the
fragment, and at level `fix` it asks for the correction if this changes the text. -/
theorem ofFragment?_spec {m : Marks} {level : Level} {f : Fragment} {w : Warning}
    (h : Warning.ofFragment? m level f = some w) :
    f.holdsStraightQuote = true ∧ w.start = f.start ∧
      ∀ r, w.replacement? = some r ↔ level = .fix ∧ m.correct f ≠ f.text ∧ m.replacement f = r := by
  obtain ⟨finding, hfinding, rfl⟩ := Option.map_eq_some_iff.mp h
  unfold Finding.ofFragment? at hfinding
  split at hfinding
  · next hholds =>
    cases hfinding
    refine ⟨hholds, rfl, fun r => ?_⟩
    by_cases hlevel : level = .fix
    · by_cases htext : m.correct f = f.text
      · simp [Warning.replacement?, htext]
      · simp [Warning.replacement?, Marks.replacement, hlevel, htext]
    · simp [Warning.replacement?, hlevel]
  · cases hfinding

theorem exists_ofFragment? {m : Marks} (level : Level) {f : Fragment}
    (h : f.holdsStraightQuote = true) : ∃ w, Warning.ofFragment? m level f = some w := by
  rw [Warning.ofFragment?, Finding.ofFragment?, if_pos h]
  exact ⟨_, rfl⟩

/-- The replacements correct the pending fragments that the marks change. -/
theorem mem_replacements_iff {fragments : List Fragment} {r : Replacement} :
    r ∈ i.replacements fragments ↔ i.level = .fix ∧
      ∃ f ∈ fragments, f.IsPending i.mode ∧ i.marks.correct f ≠ f.text ∧
        i.marks.replacement f = r := by
  rw [replacements, List.mem_filterMap]
  constructor
  · rintro ⟨w, hw, hr⟩
    obtain ⟨-, f, hf, hvisited, hw⟩ := mem_review_iff.mp hw
    obtain ⟨hholds, -, hreplacement⟩ := ofFragment?_spec hw
    obtain ⟨hlevel, hne, heq⟩ := (hreplacement r).mp hr
    exact ⟨hlevel, f, hf, ⟨hvisited, hholds⟩, hne, heq⟩
  · rintro ⟨hlevel, f, hf, ⟨hvisited, hholds⟩, hne, heq⟩
    obtain ⟨w, hw⟩ := exists_ofFragment? (m := i.marks) i.level hholds
    refine ⟨w, mem_review_iff.mpr ⟨?_, f, hf, hvisited, hw⟩,
      ((ofFragment?_spec hw).2.2 r).mpr ⟨hlevel, hne, heq⟩⟩
    rw [hlevel]
    decide

/-! ## One pass -/

theorem result_warnings (document : Text) :
    (i.warnings document).result =
      (i.extract document).result.map (review i.marks i.level i.templateAware) := by
  unfold warnings
  obtain ⟨notes, _ | fragments⟩ := i.extract document <;> rfl

theorem exists_extract_of_result_warnings {document : Text} {found : List Warning}
    (h : (i.warnings document).result = .ok found) :
    ∃ fragments, (i.extract document).result = .ok fragments ∧
      found = review i.marks i.level i.templateAware fragments := by
  rw [result_warnings] at h
  cases hextract : (i.extract document).result with
  | error e =>
    rw [hextract] at h
    cases h
  | ok fragments =>
    rw [hextract] at h
    cases h
    exact ⟨fragments, rfl, rfl⟩

theorem result_pass_iff {document next : Text} {count : Nat} :
    (i.pass document).result = .ok (next, count) ↔
      ∃ fragments, (i.extract document).result = .ok fragments ∧
        next = Replacement.weave document 0 (i.chosen fragments) ∧
        count = (i.chosen fragments).length := by
  have hpass : (i.pass document).result = (i.warnings document).result.map fun found =>
      Replacement.applyAll document (found.filterMap Warning.replacement?) := by
    unfold pass
    obtain ⟨notes, _ | found⟩ := i.warnings document <;> rfl
  rw [hpass, result_warnings]
  cases (i.extract document).result with
  | error e => exact ⟨nofun, fun ⟨_, h, _⟩ => by cases h⟩
  | ok fragments =>
    constructor
    · intro h
      cases h
      exact ⟨fragments, rfl, rfl, rfl⟩
    · rintro ⟨_, ⟨⟩, rfl, rfl⟩
      rfl

/-- A pass that applies nothing leaves the document as it is. -/
theorem eq_of_result_pass {document next : Text} (h : (i.pass document).result = .ok (next, 0)) :
    next = document := by
  obtain ⟨fragments, -, rfl, hcount⟩ := result_pass_iff.mp h
  rw [List.length_eq_zero_iff.mp hcount.symm, Replacement.weave_nil]

/-! ## Runs -/

/-- A run of passes goes on where a pass ends, unless it has applied nothing. -/
theorem result_passes_succ_iff {document : Text} {applied n : Nat} {p : Progress} :
    (i.passes document applied (n + 1)).result = .ok p ↔
      ∃ next count, (i.pass document).result = .ok (next, count) ∧
        if count = 0 then p = ⟨next, applied, true⟩
        else (i.passes next (applied + count) n).result = .ok p := by
  rw [passes]
  constructor
  · intro h
    obtain ⟨⟨next, count⟩, hpass, h⟩ := Outcome.result_bind h
    refine ⟨next, count, hpass, ?_⟩
    simp only at h
    split at h
    · next hzero =>
      cases h
      rw [if_pos hzero]
    · next hzero => rwa [if_neg hzero]
  · rintro ⟨next, count, hpass, h⟩
    rw [Outcome.result_bind_ok hpass]
    simp only
    split at h
    · next hzero =>
      rw [if_pos hzero, h]
      rfl
    · next hzero => rwa [if_neg hzero]

/-- The last pass of a run that settles applies nothing. -/
theorem result_pass_of_settled {document : Text} {applied n : Nat} {p : Progress}
    (h : (i.passes document applied n).result = .ok p) (hp : p.settled = true) :
    (i.pass p.document).result = .ok (p.document, 0) := by
  induction n generalizing document applied with
  | zero =>
    cases h
    cases hp
  | succ n ih =>
    obtain ⟨next, count, hpass, h⟩ := result_passes_succ_iff.mp h
    split at h
    · next hzero =>
      rw [hzero] at hpass
      rw [h]
      have heq := eq_of_result_pass hpass
      simp only [heq] at hpass ⊢
      exact hpass
    · exact ih h

/-- A run settles at once where a pass applies nothing. -/
theorem result_passes_of_pass {document : Text}
    (h : (i.pass document).result = .ok (document, 0)) :
    (i.passes document 0 maxPasses).result = .ok ⟨document, 0, true⟩ :=
  result_passes_succ_iff.mpr ⟨document, 0, h, by rw [if_pos rfl]⟩

/-! ## The documents of a run -/

/-- The document is the one over which pass number `k` of a fix goes, counted from zero. -/
inductive Reaches (i : Inspector) (source : Text) : Nat → Text → Prop
  | start : Reaches i source 0 source
  | next {k count : Nat} {document behind : Text} : Reaches i source k document →
    (i.pass document).result = .ok (behind, count) → count ≠ 0 → Reaches i source (k + 1) behind

/-- Pass number `k` of a fix goes over one document only. -/
theorem Reaches.unique {source document document' : Text} {k : Nat}
    (h : i.Reaches source k document) (h' : i.Reaches source k document') :
    document = document' := by
  induction h generalizing document' with
  | start =>
    cases h'
    rfl
  | next _ hpass _ ih =>
    cases h' with
    | next h' hpass' _ =>
      rw [ih h', hpass'] at hpass
      cases hpass
      rfl

/-- A pass that others follow applies something. -/
theorem Reaches.exists_pass_of_lt {source document behind : Text} {k n : Nat}
    (h : i.Reaches source k document) (hn : i.Reaches source n behind) (hlt : k < n) :
    ∃ next count, (i.pass document).result = .ok (next, count) ∧ count ≠ 0 := by
  induction hn with
  | start => cases hlt
  | next hn hpass hcount ih =>
    rcases Nat.lt_succ_iff_lt_or_eq.mp hlt with hlt | rfl
    · exact ih hlt
    · rw [h.unique hn]
      exact ⟨_, _, hpass, hcount⟩

/-- A run of passes ends with a document that its passes reach: before the last of the passes that
are allowed if it settles, and behind it if it does not. -/
theorem exists_reaches_of_result_passes {source document : Text} {k applied n : Nat} {p : Progress}
    (hdocument : i.Reaches source k document)
    (h : (i.passes document applied n).result = .ok p) :
    ∃ j, i.Reaches source (k + j) p.document ∧ if p.settled then j < n else j = n := by
  induction n generalizing k document applied with
  | zero =>
    cases h
    exact ⟨0, hdocument, rfl⟩
  | succ n ih =>
    obtain ⟨next, count, hpass, h⟩ := result_passes_succ_iff.mp h
    split at h
    · next hzero =>
      subst h hzero
      obtain rfl := eq_of_result_pass hpass
      exact ⟨0, hdocument, Nat.zero_lt_succ n⟩
    · next hcount =>
      -- the passes behind the first one are counted from the document that it leaves
      obtain ⟨j, hreaches, hj⟩ := ih (hdocument.next hpass hcount) h
      refine ⟨j + 1, by rwa [Nat.add_comm j 1, ← Nat.add_assoc], ?_⟩
      split at hj
      · next hsettled => rwa [if_pos hsettled, Nat.add_lt_add_iff_right]
      · next hsettled => rw [if_neg hsettled, hj]

/-- A run does not settle exactly if as many passes as are allowed apply something. -/
theorem not_settled_iff_reaches {source : Text} {applied n : Nat} {p : Progress}
    (h : (i.passes source applied n).result = .ok p) :
    p.settled = false ↔ i.Reaches source n p.document := by
  obtain ⟨j, hreaches, hj⟩ := exists_reaches_of_result_passes .start h
  rw [Nat.zero_add] at hreaches
  cases hsettled : p.settled with
  | false =>
    rw [hsettled, if_neg Bool.false_ne_true] at hj
    rw [← hj]
    exact ⟨fun _ => hreaches, fun _ => rfl⟩
  | true =>
    rw [hsettled, if_pos rfl] at hj
    refine ⟨nofun, fun hn => ?_⟩
    obtain ⟨next, count, hpass, hcount⟩ := hreaches.exists_pass_of_lt hn hj
    rw [result_pass_of_settled h hsettled] at hpass
    cases hpass
    exact absurd rfl hcount

/-- The number of applied replacements grows along a run. -/
theorem applied_le_of_result_passes {document : Text} {applied n : Nat} {p : Progress}
    (h : (i.passes document applied n).result = .ok p) : applied ≤ p.applied := by
  induction n generalizing document applied with
  | zero =>
    cases h
    exact Nat.le_refl _
  | succ n ih =>
    obtain ⟨next, count, -, h⟩ := result_passes_succ_iff.mp h
    split at h
    · rw [h]
    · exact Nat.le_of_add_right_le (ih h)

/-- A run of at least one pass applies nothing exactly if its first pass applies nothing. -/
theorem applied_eq_zero_iff {document : Text} {n : Nat} {p : Progress}
    (h : (i.passes document 0 (n + 1)).result = .ok p) :
    p.applied = 0 ↔ (i.pass document).result = .ok (document, 0) := by
  obtain ⟨next, count, hpass, h⟩ := result_passes_succ_iff.mp h
  split at h
  · next hzero =>
    subst h hzero
    rw [hpass, eq_of_result_pass hpass]
    exact ⟨fun _ => rfl, fun _ => rfl⟩
  · next hcount =>
    have hle := applied_le_of_result_passes h
    rw [hpass]
    constructor
    · omega
    · rintro ⟨⟩
      exact absurd rfl hcount

/-! ## Reports -/

theorem result_report {path document : Text} {fixed : Option Text} {applied : Nat} :
    (i.report path document fixed applied).result = (i.warnings document).result.map fun found =>
      ⟨path, found.map (Issue.ofWarning document), fixed, applied⟩ := by
  unfold report
  obtain ⟨notes, _ | found⟩ := i.warnings document <;> rfl

theorem exists_of_result_report {path document : Text} {fixed : Option Text} {applied : Nat}
    {r : Report} (h : (i.report path document fixed applied).result = .ok r) :
    ∃ found, (i.warnings document).result = .ok found ∧
      r = ⟨path, found.map (Issue.ofWarning document), fixed, applied⟩ := by
  rw [result_report] at h
  cases hwarnings : (i.warnings document).result with
  | error e =>
    rw [hwarnings] at h
    cases h
  | ok found =>
    rw [hwarnings] at h
    cases h
    exact ⟨found, rfl, rfl⟩

/-- A fix ends with a report on the document behind its passes. -/
theorem result_fix_iff {path document : Text} {r : Report} :
    (i.fix path document).result = .ok r ↔
      ∃ p, (i.passes document 0 maxPasses).result = .ok p ∧
        (i.report path p.document (some p.document) p.applied).result = .ok r := by
  have behind : ∀ p : Progress, ((do
      unless p.settled do Outcome.note [.fixesPending path maxPasses]
      i.report path p.document (some p.document) p.applied : Outcome Report)).result =
        (i.report path p.document (some p.document) p.applied).result := by
    rintro ⟨_, _, _ | _⟩
    · exact Outcome.result_bind_ok rfl
    · rfl
  rw [fix]
  constructor
  · intro h
    obtain ⟨p, hp, h⟩ := Outcome.result_bind h
    exact ⟨p, hp, (behind p).symm.trans h⟩
  · rintro ⟨p, hp, h⟩
    rw [Outcome.result_bind_ok hp]
    exact (behind p).trans h

theorem result_fix_of_passes (path : Text) {source : Text} {p : Progress} {found : List Warning}
    (hp : (i.passes source 0 maxPasses).result = .ok p)
    (hfound : (i.warnings p.document).result = .ok found) :
    (i.fix path source).result =
      .ok ⟨path, found.map (Issue.ofWarning p.document), some p.document, p.applied⟩ := by
  refine result_fix_iff.mpr ⟨p, hp, ?_⟩
  rw [result_report, hfound]
  rfl

/-- It is noted when the passes of a fix have not settled. -/
theorem settled_of_not_mem_notes {path document : Text} {p : Progress}
    (hp : (i.passes document 0 maxPasses).result = .ok p)
    (h : Note.fixesPending path maxPasses ∉ (i.fix path document).notes) : p.settled = true := by
  by_contra hsettled
  refine h ?_
  rw [fix, Outcome.notes_bind_ok hp, if_neg hsettled, Outcome.notes_bind_ok rfl]
  exact List.mem_append_right _ (List.mem_append_left _ List.mem_cons_self)

end Inspector

end SmartQuotes
