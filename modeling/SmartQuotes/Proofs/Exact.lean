import SmartQuotes.Proofs.Markup.Extent

/-!
# Fragments as they are returned

Whatever a fragment is extracted by, from a script, an expression, a template or a whole component,
and whichever attempt at parsing has succeeded, it is the slice of the document between its offsets
and stands in the range it was looked for in. The interpolations of a template literal are told by
their delimiters. That the closing one is a brace rests on the parts of the literal: a part behind an
expression may begin with a backquote as far as the parser is concerned, and nothing is claimed of
the delimiter then.
-/

namespace SmartQuotes

/-- The span is cut out by its delimiters; the closing brace is the first character of the part of
the literal behind it, if this part does not begin with a backquote. -/
structure Span.Delimits (t : Text) (s : Span) : Prop where
  start_nonneg : 0 ≤ s.start
  start_lt : s.start < s.stop
  stop_le : s.stop ≤ t.length
  opening : t.slice s.start (s.start + 2) = ['$', '\x7b']
  closing : t.slice (s.stop - 1) s.stop ≠ ['\x60'] → t.slice (s.stop - 1) s.stop = ['\x7d']

/-- The fragment is an exact slice in the range, and its interpolations are exact in it. -/
structure Fragment.Exact (document : Text) (start stop : Int) (f : Fragment) : Prop where
  start_le : start ≤ f.start
  le : f.start ≤ f.stop
  stop_le : f.stop ≤ stop
  text_eq : f.text = document.slice f.start f.stop
  interpolations : f.kind = .templateLiteral → ∃ spans, f.interpolations = some spans ∧
    spans.Pairwise (fun s t => s.stop ≤ t.start) ∧ ∀ s ∈ spans, s.Delimits f.text

/-! ## Delimiters -/

namespace Text

/-- A slice of two characters is told by what stands at its positions. -/
theorem slice_eq_pair {t : Text} {a : Int} (ha : 0 ≤ a) {c d : Char}
    (hc : t[a.toNat]? = some c) (hd : t[(a + 1).toNat]? = some d) :
    t.slice a (a + 2) = [c, d] := by
  have hsucc : (a + 1).toNat = a.toNat + 1 := by omega
  rw [hsucc] at hd
  apply List.ext_getElem?
  intro i
  rw [getElem?_slice ha (by omega)]
  match i with
  | 0 => rw [if_pos (by omega), Nat.add_zero, hc, List.getElem?_cons_zero]
  | 1 => rw [if_pos (by omega), hd, List.getElem?_cons_succ, List.getElem?_cons_zero]
  | i + 2 => rw [if_neg (by omega), List.getElem?_eq_none (by simp)]

/-- A slice of one character is told by what stands at its position. -/
theorem slice_eq_singleton {t : Text} {a : Int} (ha : 1 ≤ a) {c : Char}
    (hc : t[(a - 1).toNat]? = some c) : t.slice (a - 1) a = [c] := by
  apply List.ext_getElem?
  intro i
  rw [getElem?_slice (by omega) (by omega)]
  match i with
  | 0 => rw [if_pos (by omega), Nat.add_zero, hc, List.getElem?_cons_zero]
  | i + 1 => rw [if_neg (by omega), List.getElem?_eq_none (by simp)]

end Text

theorem Span.Embeds.delimits {t : Text} {s : Span} (h : s.Embeds t) : s.Delimits t := by
  have hnonneg := h.start_nonneg
  have hlt := h.start_lt
  refine ⟨hnonneg, by omega, h.stop_le, Text.slice_eq_pair hnonneg h.dollar h.brace, ?_⟩
  intro hpart
  rcases h.last with hlast | hlast
  · exact absurd (Text.slice_eq_singleton (by omega) hlast) hpart
  · exact Text.slice_eq_singleton (by omega) hlast

theorem Fragment.LiesIn.exact {document : Text} {start stop : Int} {f : Fragment}
    (h : f.LiesIn document start stop) : f.Exact document start stop where
  start_le := h.start_le
  le := h.le
  stop_le := h.stop_le
  text_eq := h.text_eq
  interpolations := by
    intro hkind
    obtain ⟨spans, hspans⟩ := Option.isSome_iff_exists.mp (h.delimited.isSome_iff.mpr hkind)
    refine ⟨spans, hspans, h.delimited.ordered spans hspans, fun s hs => ?_⟩
    exact (h.delimited.embeds spans hspans s hs).delimits

/-! ## All extractors -/

/-- The fragments of a component are sorted by start, then by stop. -/
theorem Markup.pairwise_extractComponent {document : Text} {fragments : List Fragment}
    (h : (extractComponent document).result = .ok fragments) :
    fragments.Pairwise fun f g => f.start < g.start ∨ (f.start = g.start ∧ f.stop ≤ g.stop) := by
  obtain ⟨blocks, -, h⟩ := Outcome.result_bind h
  obtain ⟨found, -, h⟩ := Outcome.result_bind h
  cases h
  exact pairwise_sortBy_of_place Fragment.start Fragment.stop (fun _ _ => rfl) found

/-- The fragments that are extracted from a range of a document are exact slices in that range: those
of a script and those of an expression, which are strictly increasing, those of a template, and, for
the whole document, those of a component, which are sorted. -/
theorem exact_of_extracted {document : Text} {start stop : Int} (hstart : 0 ≤ start)
    (hle : start ≤ stop) (hstop : stop ≤ document.length) :
    (∀ region fragments, Script.extract document start stop region = .ok fragments →
      (∀ f ∈ fragments, f.Exact document start stop) ∧ fragments.Pairwise Fragment.Before) ∧
    (∀ fragments, (Script.extractExpression document start stop).result = .ok fragments →
      (∀ f ∈ fragments, f.Exact document start stop) ∧ fragments.Pairwise Fragment.Before) ∧
    (∀ fragments, (Markup.extractTemplate document start stop).result = .ok fragments →
      ∀ f ∈ fragments, f.Exact document start stop) ∧
    (∀ fragments, (Markup.extractComponent document).result = .ok fragments →
      (∀ f ∈ fragments, f.Exact document 0 document.length) ∧
        fragments.Pairwise fun f g => f.start < g.start ∨ (f.start = g.start ∧ f.stop ≤ g.stop)) := by
  refine ⟨fun region fragments h => ⟨fun f hf => ?_, Script.pairwise_extract h⟩,
    fun fragments h => ⟨fun f hf => ?_, Script.pairwise_extractExpression h⟩,
    fun fragments h f hf => ?_,
    fun fragments h => ⟨fun f hf => ?_, Markup.pairwise_extractComponent h⟩⟩
  · exact (Script.liesIn_extract hstart hle hstop h f hf).exact
  · exact (Script.liesIn_extractExpression hstart hle hstop fragments h f hf).exact
  · exact (Markup.all_extractTemplate hstart hle hstop fragments h f hf).exact
  · exact (Markup.all_extractComponent document fragments h f hf).exact

/-- An expression between braces is read in parentheses; the offsets of its template literal are
those in the document, and the brace in the nested string does not end the interpolation. -/
theorem exact_of_extracted_expression :
    let document := text "a \x7b\x7b `b $\x7b'\x7d'\x7d c` \x7d\x7d"
    let f : Fragment :=
      { kind := .templateLiteral, start := 5, stop := 17, text := text "`b $\x7b'\x7d'\x7d c`"
        region := .template, interpolations := some [⟨3, 9⟩] }
    (0 ≤ (4 : Int) ∧ (4 : Int) ≤ 18 ∧ (18 : Int) ≤ document.length) ∧
      ∃ fragments, (Script.extractExpression document 4 18).result = .ok fragments ∧
        f ∈ fragments ∧ f.Exact document 4 18 ∧ fragments.Pairwise Fragment.Before := by
  intro document f
  have hstop : (18 : Int) ≤ document.length := by decide
  have hextract : (Script.extractExpression document 4 18).result =
      .ok [f, ⟨.literal, 10, 13, text "'\x7d'", .template, none⟩] := by decide +kernel
  obtain ⟨hexact, hordered⟩ :=
    (exact_of_extracted (by decide) (by decide) hstop).2.1 _ hextract
  exact ⟨⟨by decide, by decide, hstop⟩, _, hextract, List.mem_cons_self,
    hexact f List.mem_cons_self, hordered⟩

end SmartQuotes
