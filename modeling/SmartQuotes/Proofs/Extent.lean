import SmartQuotes.Proofs.Outcome
import SmartQuotes.Proofs.Text.Slice
import SmartQuotes.Script.Extract

/-!
# Where fragments lie

A fragment lies in a range of a document when it is the slice between its own offsets and these stand
within the range. The fragments of a script lie in the range that was parsed, whichever of the
attempts succeeds; those of an expression that was read in parentheses do so because all others are
dropped.
-/

namespace SmartQuotes

/-- The fragment is the slice of the document between its offsets, within the given ones. -/
structure Fragment.LiesIn (document : Text) (start stop : Int) (f : Fragment) : Prop where
  start_le : start ≤ f.start
  le : f.start ≤ f.stop
  stop_le : f.stop ≤ stop
  text_eq : f.text = document.slice f.start f.stop
  delimited : f.Delimited

theorem Fragment.LiesIn.mono {document : Text} {start stop start' stop' : Int} {f : Fragment}
    (h : f.LiesIn document start stop) (hstart : start' ≤ start) (hstop : stop ≤ stop') :
    f.LiesIn document start' stop' :=
  ⟨Int.le_trans hstart h.start_le, h.le, Int.le_trans h.stop_le hstop, h.text_eq, h.delimited⟩

/-! ## Scripts -/

namespace Script

/-- The fragments of a script are parts of it, in increasing order. -/
theorem parse_sound {mode : Mode} {σ : Source} {fragments : List Fragment}
    (h : parse mode σ = .ok fragments) :
    (∀ f ∈ fragments, σ.Holds f) ∧ fragments.Pairwise Fragment.Before := by
  unfold parse at h
  obtain ⟨behind, -, h⟩ := eq_ok_of_bind h
  cases h
  exact ⟨behind.state.found.holds, behind.state.found.increasing⟩

/-- A part of a script that was cut out of a document lies there in the document. -/
theorem liesIn_of_holds {document : Text} {start stop : Int} {region : Region} {f : Fragment}
    (hstart : 0 ≤ start) (hle : start ≤ stop) (hstop : stop ≤ document.length)
    (h : Source.Holds { text := document.slice start stop, base := start, region } f) :
    f.LiesIn document start stop := by
  obtain ⟨a, b, hab, hb, hfstart, hfstop, htext⟩ := h.part
  have hlength := Text.length_slice hstart hle hstop
  have hb' : (b : Int) ≤ stop - start := by
    rw [← hlength]
    exact Int.ofNat_le.mpr hb
  refine ⟨?_, ?_, ?_, ?_, h.delimited⟩
  · rw [hfstart]
    simp only
    omega
  · rw [hfstart, hfstop]
    omega
  · rw [hfstop]
    simp only
    omega
  · rw [htext, hfstart, hfstop]
    exact Text.extract_slice hstart (by omega)

/-- The fragments of a script are those of one of the two attempts. -/
theorem exists_parse_of_extract {document : Text} {start stop : Int} {region : Region}
    {fragments : List Fragment} (h : extract document start stop region = .ok fragments) :
    ∃ mode : Mode, parse mode { text := document.slice start stop, base := start, region } =
      .ok fragments := by
  unfold extract at h
  simp only at h
  split at h
  · next hmodule =>
    cases h
    exact ⟨_, hmodule⟩
  · cases h
  · split at h
    · next hclassic =>
      cases h
      exact ⟨_, hclassic⟩
    · cases h
    · cases h

theorem liesIn_extract {document : Text} {start stop : Int} {region : Region}
    {fragments : List Fragment} (hstart : 0 ≤ start) (hle : start ≤ stop)
    (hstop : stop ≤ document.length) (h : extract document start stop region = .ok fragments) :
    ∀ f ∈ fragments, f.LiesIn document start stop := by
  obtain ⟨mode, hparse⟩ := exists_parse_of_extract h
  intro f hf
  exact liesIn_of_holds hstart hle hstop ((parse_sound hparse).1 f hf)

theorem extract_parenthesized {t : Text} {a b : Nat} (ha : 1 ≤ a) (hb : b ≤ t.length + 1) :
    (parenthesized t).extract a b = t.extract (a - 1) (b - 1) := by
  apply List.ext_getElem?
  intro i
  rw [Text.getElem?_extract, Text.getElem?_extract]
  by_cases hi : a + i < b
  · rw [if_pos hi, if_pos (by omega), parenthesized, List.getElem?_append_left (by simp; omega),
      List.getElem?_cons, if_neg (by omega)]
    congr 1
    omega
  · rw [if_neg hi, if_neg (by omega)]

/-- A part between the parentheses that were put around a text lies in the range of the text. -/
theorem liesIn_of_holds_parenthesized {document : Text} {start stop : Int} {f : Fragment}
    (hstart : 0 ≤ start) (hle : start ≤ stop) (hstop : stop ≤ document.length)
    (h : Source.Holds { text := parenthesized (document.slice start stop), base := start - 1
                        region := .template } f)
    (hbetween : isBetween start stop f = true) : f.LiesIn document start stop := by
  obtain ⟨a, b, hab, hb, hfstart, hfstop, htext⟩ := h.part
  simp only [isBetween, Bool.and_eq_true, decide_eq_true_eq] at hbetween
  have hlength := Text.length_slice hstart hle hstop
  simp only at hfstart hfstop htext
  refine ⟨hbetween.1, ?_, hbetween.2, ?_, h.delimited⟩
  · omega
  · rw [htext, extract_parenthesized (by omega) (by omega), Text.extract_slice hstart (by omega),
      hfstart, hfstop]
    congr 1 <;> omega

/-- The fragments of an expression are those between its offsets of a script: the expression in
parentheses, or the expression itself. Of a text that is neither there are none. -/
theorem exists_parse_of_extractExpression {document : Text} {start stop : Int}
    {fragments : List Fragment} (h : (extractExpression document start stop).result = .ok fragments) :
    fragments = [] ∨ ∃ found, fragments = found.filter (isBetween start stop) ∧
      (parse .classic { text := parenthesized (document.slice start stop), base := start - 1
                        region := .template } = .ok found ∨
        parse .classic { text := document.slice start stop, base := start, region := .template } =
          .ok found) := by
  unfold extractExpression at h
  simp only at h
  split at h
  · next found hparse =>
    cases h
    exact .inr ⟨found, rfl, .inl hparse⟩
  · cases h
  · split at h
    · next found hparse =>
      cases h
      exact .inr ⟨found, rfl, .inr hparse⟩
    · cases h
    · cases h
      exact .inl rfl

theorem liesIn_extractExpression {document : Text} {start stop : Int} (hstart : 0 ≤ start)
    (hle : start ≤ stop) (hstop : stop ≤ document.length) :
    (extractExpression document start stop).All (Fragment.LiesIn document start stop) := by
  intro fragments h f hf
  rcases exists_parse_of_extractExpression h with rfl | ⟨found, rfl, hparse | hparse⟩
  · cases hf
  · obtain ⟨hf, hbetween⟩ := List.mem_filter.mp hf
    exact liesIn_of_holds_parenthesized hstart hle hstop ((parse_sound hparse).1 f hf) hbetween
  · obtain ⟨hf, -⟩ := List.mem_filter.mp hf
    exact liesIn_of_holds hstart hle hstop ((parse_sound hparse).1 f hf)

/-! ## Order -/

theorem pairwise_extract {document : Text} {start stop : Int} {region : Region}
    {fragments : List Fragment} (h : extract document start stop region = .ok fragments) :
    fragments.Pairwise Fragment.Before := by
  obtain ⟨mode, hparse⟩ := exists_parse_of_extract h
  exact (parse_sound hparse).2

theorem pairwise_extractExpression {document : Text} {start stop : Int}
    {fragments : List Fragment} (h : (extractExpression document start stop).result = .ok fragments) :
    fragments.Pairwise Fragment.Before := by
  rcases exists_parse_of_extractExpression h with rfl | ⟨found, rfl, hparse | hparse⟩
  · exact .nil
  · exact (parse_sound hparse).2.filter _
  · exact (parse_sound hparse).2.filter _

end Script

end SmartQuotes
