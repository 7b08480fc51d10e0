import SmartQuotes.Proofs.Linter.Pass

/-!
# The warnings of a review

A review warns of each pending fragment once and of no other one, by start and then by stop. The
level decides only whether there are warnings and whether they carry a replacement, which is their
preview. The warnings for fragments of one place follow one another like the fragments; apart from
this it makes no difference in which order the fragments are given.
-/

namespace SmartQuotes

/-- The fragment stands in a script and is of a kind of scripts, or in the template of a document
that has one and is no text of an element in a script. -/
def Fragment.IsInView (templateAware : Bool) (f : Fragment) : Prop :=
  (f.region = .script ∧ f.kind.isOfScripts = true) ∨
    (templateAware = true ∧ f.region = .template ∧ f.kind ≠ .elementText)

theorem Fragment.isVisited_iff {templateAware : Bool} {f : Fragment} :
    f.isVisited (.ofDocument templateAware) = true ↔ f.IsInView templateAware := by
  rw [isVisited, IsInView]
  cases templateAware <;> cases f.region <;> cases f.kind <;>
    simp [Mode.ofDocument, Mode.visits, Kind.isOfScripts]

/-- A fragment is pending if it is in view and one of its straight quotes is not kept. -/
theorem Fragment.isPending_iff {templateAware : Bool} {f : Fragment} :
    f.IsPending (.ofDocument templateAware) ↔ f.IsInView templateAware ∧
      ∃ k c, f.text[k]? = some c ∧ IsStraight c ∧ f.keeps k = false := by
  rw [IsPending, isVisited_iff, holdsStraightQuote_iff]

instance (mode : Mode) (f : Fragment) : Decidable (f.IsPending mode) :=
  inferInstanceAs (Decidable (f.isVisited mode = true ∧ f.holdsStraightQuote = true))

/-- The pending fragments, as they follow one another. -/
def pending (templateAware : Bool) (fragments : List Fragment) : List Fragment :=
  fragments.filter fun f => f.IsPending (.ofDocument templateAware)

theorem mem_pending_iff {templateAware : Bool} {fragments : List Fragment} {f : Fragment} :
    f ∈ pending templateAware fragments ↔
      f ∈ fragments ∧ f.IsPending (.ofDocument templateAware) := by
  rw [pending, List.mem_filter, decide_eq_true_eq]

theorem pending_cons (templateAware : Bool) (f : Fragment) (rest : List Fragment) :
    pending templateAware (f :: rest) =
      if f.IsPending (.ofDocument templateAware) then f :: pending templateAware rest
      else pending templateAware rest := by
  simp only [pending, List.filter_cons, decide_eq_true_eq]

namespace Warning

variable {m : Marks} {level : Level}

/-- The warning for a pending fragment: there is a preview if the correction changes the text, and
at level `fix` it is the replacement. -/
def about (m : Marks) (level : Level) (f : Fragment) : Warning :=
  let preview := if m.correct f = f.text then none else some (m.correct f)
  ⟨⟨f.start, f.stop, preview⟩, if level = .fix then preview else none⟩

theorem ofFragment?_eq (m : Marks) (level : Level) (f : Fragment) :
    ofFragment? m level f = if f.holdsStraightQuote then some (about m level f) else none := by
  rw [ofFragment?, Finding.ofFragment?]
  cases f.holdsStraightQuote with
  | false => rfl
  | true =>
    by_cases htext : m.correct f = f.text
    · simp [about, htext]
    · by_cases hlevel : level = .fix
      · simp [about, htext, hlevel]
      · simp [about, htext, hlevel]

end Warning

variable {m : Marks} {level : Level} {templateAware : Bool} {fragments : List Fragment}

theorem filterMap_visited (m : Marks) (level : Level) (templateAware : Bool)
    (fragments : List Fragment) :
    (fragments.filter (·.isVisited (.ofDocument templateAware))).filterMap
        (Warning.ofFragment? m level) =
      (pending templateAware fragments).map (Warning.about m level) := by
  induction fragments with
  | nil => rfl
  | cons f rest ih =>
    rw [pending_cons]
    by_cases hvisited : f.isVisited (.ofDocument templateAware) = true
    · rw [List.filter_cons_of_pos hvisited, List.filterMap_cons, Warning.ofFragment?_eq, ih]
      by_cases hholds : f.holdsStraightQuote = true
      · rw [if_pos hholds, if_pos ⟨hvisited, hholds⟩, List.map_cons]
      · rw [if_neg hholds, if_neg fun h => hholds h.2]
    · rw [List.filter_cons_of_neg hvisited, if_neg fun h => hvisited h.1, ih]

/-- A review warns of the pending fragments, in the order of their places. -/
theorem inOrder_review (m : Marks) (hlevel : level ≠ .ignore) (templateAware : Bool)
    (fragments : List Fragment) :
    InOrder (fun w : Warning => w.start) (fun w => w.stop)
      ((pending templateAware fragments).map (Warning.about m level))
      (review m level templateAware fragments) := by
  rw [review, if_neg hlevel, ← filterMap_visited]
  exact inOrder_sortBy (fun _ _ => rfl) _

/-- Whatever is reported, it is reported alike at each level. -/
theorem map_toFinding_review {level' : Level} (hlevel : level ≠ .ignore)
    (hlevel' : level' ≠ .ignore) :
    (review m level templateAware fragments).map Warning.toFinding =
      (review m level' templateAware fragments).map Warning.toFinding := by
  have h : InOrder Finding.start Finding.stop _ _ :=
    (inOrder_review m hlevel templateAware fragments).map Warning.toFinding
  have h' : InOrder Finding.start Finding.stop _ _ :=
    (inOrder_review m hlevel' templateAware fragments).map Warning.toFinding
  rw [List.map_map] at h h'
  exact h.unique h'

theorem replacement_of_mem_review {w : Warning}
    (hw : w ∈ review m level templateAware fragments) :
    w.replacement = if level = .fix then w.preview else none := by
  have hlevel := (Inspector.mem_review_iff.mp hw).1
  have hmem := (inOrder_review m hlevel templateAware fragments).perm.mem_iff.mp hw
  obtain ⟨f, -, rfl⟩ := List.mem_map.mp hmem
  rfl

section

variable {fragments' : List Fragment} (hperm : fragments'.Perm fragments)

include hperm

theorem perm_map_about : ((pending templateAware fragments').map (Warning.about m level)).Perm
    ((pending templateAware fragments).map (Warning.about m level)) :=
  (hperm.filter _).map _

/-- If no two fragments have the same place, then it makes no difference in which order they are
given. -/
theorem review_eq_of_perm
    (hplace : ∀ f ∈ fragments, ∀ g ∈ fragments, f.start = g.start → f.stop = g.stop → f = g) :
    review m level templateAware fragments' = review m level templateAware fragments := by
  by_cases hlevel : level = .ignore
  · rw [review, review, if_pos hlevel, if_pos hlevel]
  · apply (inOrder_review m hlevel templateAware fragments).eq_of_perm
      (inOrder_review m hlevel templateAware fragments') (perm_map_about hperm)
    intro w hw v hv hstart hstop
    obtain ⟨f, hf, rfl⟩ := List.mem_map.mp hw
    obtain ⟨g, hg, rfl⟩ := List.mem_map.mp hv
    rw [hplace f (mem_pending_iff.mp hf).1 g (mem_pending_iff.mp hg).1 hstart hstop]

end

/-- A review at level `ignore` is empty. At every other level it warns of the pending fragments and
of no other one, by start and then by stop, of those of one place as they follow one another. What
it reports does not depend on the level; at level `fix` its previews are the replacements, and at
the others there are none. If the fragments are permuted, then at each place of the list there is a
warning for the same span still, and the same one if the spans tell the fragments apart. -/
theorem review_warns_of_pending (m : Marks) (templateAware : Bool) (fragments : List Fragment) :
    (∀ f : Fragment, f.IsPending (.ofDocument templateAware) ↔ f.IsInView templateAware ∧
      ∃ k c, f.text[k]? = some c ∧ IsStraight c ∧ f.keeps k = false) ∧
    review m .ignore templateAware fragments = [] ∧
    ∀ level, level ≠ .ignore →
      InOrder (fun w : Warning => w.start) (fun w => w.stop)
        ((pending templateAware fragments).map (Warning.about m level))
        (review m level templateAware fragments) ∧
      (∀ level', level' ≠ .ignore →
        (review m level' templateAware fragments).map Warning.toFinding =
          (review m level templateAware fragments).map Warning.toFinding) ∧
      (∀ w ∈ review m level templateAware fragments,
        w.replacement = if level = .fix then w.preview else none) ∧
      ∀ fragments', fragments'.Perm fragments →
        (review m level templateAware fragments').Perm
          (review m level templateAware fragments) ∧
        (review m level templateAware fragments').map (fun w => (w.start, w.stop)) =
          (review m level templateAware fragments).map (fun w => (w.start, w.stop)) ∧
        ((∀ f ∈ fragments, ∀ g ∈ fragments, f.start = g.start → f.stop = g.stop → f = g) →
          review m level templateAware fragments' = review m level templateAware fragments) := by
  refine ⟨fun f => Fragment.isPending_iff, rfl, fun level hlevel => ?_⟩
  have horder := inOrder_review m hlevel templateAware fragments
  refine ⟨horder, fun level' hlevel' => map_toFinding_review hlevel' hlevel,
    fun w => replacement_of_mem_review, fun fragments' hperm => ?_⟩
  have horder' := inOrder_review m hlevel templateAware fragments'
  have hperm' : ((pending templateAware fragments').map (Warning.about m level)).Perm _ :=
    perm_map_about hperm
  exact ⟨horder'.perm.trans (hperm'.trans horder.perm.symm), horder.map_place_eq horder' hperm',
    review_eq_of_perm hperm⟩

/-- Of four fragments of a script two are pending: one is not in view, and one holds no quote
besides its delimiters. They are warned of from the left to the right. -/
theorem review_warns_of_pending_of_four :
    let literal : Fragment := ⟨.literal, 4, 10, text "\x22it's\x22", .script, none⟩
    let element : Fragment := ⟨.elementText, 0, 3, text "a'b", .script, none⟩
    let unseen : Fragment := ⟨.markupText, 20, 23, text "a'b", .template, none⟩
    let bare : Fragment := ⟨.literal, 12, 15, text "'x'", .script, none⟩
    let fragments := [literal, unseen, element, bare]
    let fragments' := [bare, element, unseen, literal]
    Level.fix ≠ .ignore ∧ fragments'.Perm fragments ∧
      (∀ f ∈ fragments, ∀ g ∈ fragments, f.start = g.start → f.stop = g.stop → f = g) ∧
      pending false fragments = [literal, element] ∧
      InOrder (fun w : Warning => w.start) (fun w => w.stop)
        ([literal, element].map (Warning.about {} .fix)) (review {} .fix false fragments) ∧
      review {} .fix false fragments = [element, literal].map (Warning.about {} .fix) ∧
      review {} .fix false fragments' = review {} .fix false fragments := by
  intro literal element unseen bare fragments fragments'
  have hlevel : Level.fix ≠ .ignore := by decide
  have hperm : fragments'.Perm fragments := by decide
  have hplace : ∀ f ∈ fragments, ∀ g ∈ fragments, f.start = g.start → f.stop = g.stop → f = g := by
    decide
  have hpending : pending false fragments = [literal, element] := by decide
  obtain ⟨-, -, hreview⟩ := review_warns_of_pending {} false fragments
  obtain ⟨horder, -, -, hpermuted⟩ := hreview .fix hlevel
  rw [hpending] at horder
  exact ⟨hlevel, hperm, hplace, hpending, horder, by decide, (hpermuted fragments' hperm).2.2 hplace⟩

end SmartQuotes
