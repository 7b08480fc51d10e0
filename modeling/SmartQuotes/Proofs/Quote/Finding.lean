import SmartQuotes.Proofs.Quote.Rewrite

/-!
# Findings and corrections

What is found is told from the characters in scope; what a correction changes is told by two
conversions, the second of which may read with spans that were not shifted. They agree nevertheless:
where nothing is found nothing is changed, whatever the marks are, and with marks that hold no
straight quotes each finding stands for a fragment that the correction changes, and that holds fewer
straight quotes behind it (`found_iff_corrected`).
-/

namespace SmartQuotes

namespace Marks

variable {m : Marks} {f : Fragment}

/-- No quote of either family is converted in a fragment without straight quotes in scope. -/
theorem not_converts_of_not_holds (h : f.holdsStraightQuote = false) {g : Family} {q : Char}
    (hq : g.quote = [q]) (hstraight : IsStraight q) : ∀ x ∈ f.scope, g.converts x = false := by
  intro x hx
  obtain ⟨k, hk, rfl⟩ := List.mem_iff_getElem.mp hx
  rw [← Bool.not_eq_true, Fragment.converts_getElem_scope f hq]
  rintro ⟨hkeeps, hat⟩
  have hholds := Fragment.holdsStraightQuote_iff.mpr ⟨k, q, hat, hstraight, hkeeps⟩
  rw [h] at hholds
  cases hholds

/-- A fragment without straight quotes in scope is its own correction, whatever the marks are. -/
theorem correct_eq_of_not_holds (m : Marks) (h : f.holdsStraightQuote = false) :
    m.correct f = f.text := by
  have htext : f.scope.map (·.2) = f.text := Text.map_snd_scope _ _ _
  have honce : m.once f = f.text := by
    rw [once_eq_curl, Family.curl_of_none
      (not_converts_of_not_holds h (single_quote m) (.inl rfl)), htext]
  have hafter : m.excludedAfter f = f.excluded := by rw [excludedAfter, honce, if_pos rfl]
  rw [correct_eq_convert, honce, hafter, Family.convert_eq_curl (double_quote m)]
  exact (Family.curl_of_none
    (not_converts_of_not_holds h (double_quote m) (.inr rfl)) true).trans htext

/-- With marks that hold no straight quotes a correction never adds one, and it changes the text
exactly if it takes one away. -/
theorem countP_correct_lt_iff (hm : m.QuoteFree) (f : Fragment) :
    (m.correct f).countP (fun c => decide (IsStraight c)) <
        f.text.countP (fun c => decide (IsStraight c)) ↔ m.correct f ≠ f.text := by
  obtain ⟨S, hS, -, -⟩ := exists_rewrites_correct hm f
  have hcount := hS.countP_add_length hm
  rw [Ne, hS.eq_iff hm, ← List.length_eq_zero_iff]
  omega

/-- A fragment is changed exactly if one of its straight quotes is in scope. -/
theorem correct_ne_iff (hm : m.QuoteFree) :
    m.correct f ≠ f.text ↔ f.holdsStraightQuote = true := by
  refine ⟨fun hne => ?_, correct_ne_of_holds hm⟩
  by_contra hholds
  exact hne (correct_eq_of_not_holds m (by simpa using hholds))

end Marks

namespace Finding

variable {m : Marks} {f : Fragment}

theorem ofFragment?_eq_none_iff : ofFragment? m f = none ↔ f.holdsStraightQuote = false := by
  rw [ofFragment?]
  cases f.holdsStraightQuote <;> simp

theorem eq_of_ofFragment? {finding : Finding} (h : ofFragment? m f = some finding) :
    finding = ⟨f.start, f.stop, if m.correct f = f.text then none else some (m.correct f)⟩ := by
  rw [ofFragment?] at h
  split at h
  · cases h
    rfl
  · cases h

/-- Something is found exactly if a straight quote is in scope; there is one finding then, for the
whole fragment, and its preview is the correction unless this changes nothing. Where nothing is found
the correction changes nothing. With marks that hold no straight quotes something is found exactly
if the correction changes the text, and exactly if it takes straight quotes away. -/
theorem found_iff_corrected (m : Marks) (f : Fragment) :
    ((ofFragment? m f).isSome ↔ ∃ k c, f.text[k]? = some c ∧ IsStraight c ∧ f.keeps k = false) ∧
      (ofFragment? m f = none → m.correct f = f.text) ∧
      (∀ finding, ofFragment? m f = some finding →
        finding.start = f.start ∧ finding.stop = f.stop ∧
          ∀ t, finding.preview = some t ↔ t = m.correct f ∧ t ≠ f.text) ∧
      (m.QuoteFree →
        ((ofFragment? m f).isSome ↔ m.correct f ≠ f.text) ∧
          (m.correct f ≠ f.text ↔
            (m.correct f).countP (fun c => decide (IsStraight c)) <
              f.text.countP (fun c => decide (IsStraight c)))) := by
  have hsome : (ofFragment? m f).isSome ↔ f.holdsStraightQuote = true := by
    rw [Option.isSome_iff_ne_none, Ne, ofFragment?_eq_none_iff, Bool.not_eq_false]
  refine ⟨hsome.trans Fragment.holdsStraightQuote_iff, fun hnone => ?_, fun finding hfinding => ?_,
    fun hm => ⟨?_, (Marks.countP_correct_lt_iff hm f).symm⟩⟩
  · exact Marks.correct_eq_of_not_holds m (ofFragment?_eq_none_iff.mp hnone)
  · rw [eq_of_ofFragment? hfinding]
    refine ⟨rfl, rfl, fun t => ?_⟩
    by_cases htext : m.correct f = f.text
    · simp only [htext, if_true, reduceCtorEq, false_iff, not_and, not_not]
      exact id
    · simp only [htext, if_false, Option.some.injEq]
      refine ⟨?_, fun ht => ht.1.symm⟩
      rintro rfl
      exact ⟨rfl, htext⟩
  · rw [hsome, Marks.correct_ne_iff hm]

/-- Marks of two characters and of none: the span is not shifted although it has moved, so that only
the single quotes are converted. -/
theorem found_iff_corrected_of_unshifted :
    let m : Marks := { singleOpening := text "ab", singleClosing := [] }
    let f : Fragment :=
      ⟨.templateLiteral, 0, 9, text "\x60'\x22$\x7bx\x7d'\x60", .script, some [⟨3, 7⟩]⟩
    m.QuoteFree ∧ m.correct f = text "\x60ab\x22$\x7bx\x7d\x60" ∧
      (ofFragment? m f).isSome ∧
      (m.correct f).countP (fun c => decide (IsStraight c)) <
        f.text.countP (fun c => decide (IsStraight c)) := by
  intro m f
  have hm : m.QuoteFree := by decide
  have hcorrect : m.correct f = text "\x60ab\x22$\x7bx\x7d\x60" := by decide
  obtain ⟨-, -, -, hfree⟩ := found_iff_corrected m f
  have hne : m.correct f ≠ f.text := by
    rw [hcorrect]
    decide
  exact ⟨hm, hcorrect, (hfree hm).1.mpr hne, (hfree hm).2.mp hne⟩

end Finding

end SmartQuotes
