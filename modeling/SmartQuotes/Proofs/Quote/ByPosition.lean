import SmartQuotes.Proofs.Quote.Shift

/-!
# Conversion told by positions

A text is converted by a reader that never asks which spans cover a position: it drops spans as it
passes their stops. For spans in the order of their starts, which may overlap, lie in one another,
be empty or reversed, or leave the text, `convert_by_position` tells from each position alone what is
put in its place, and which characters are in scope or uncovered. The quote may be any text; unless
it is one character it is never converted. That a text is handed back at once when the quote does
not occur outside the spans makes no difference, since reading it would copy it.
-/

namespace SmartQuotes

namespace Text

variable {excluded : List Span}

/-- The characters of a text at the positions in scope. -/
def within (t : Text) (trim : Int) (excluded : List Span) : Text :=
  (t.zipIdx.filter fun p => inScopeAt t.length trim excluded p.2).map (·.1)

/-- The characters that the reader finds uncovered are those that no span covers. -/
theorem uncovered_eq_outside (h : Span.Ascending excluded) (t : Text) :
    t.uncovered excluded = t.outside excluded := by
  rw [uncovered, coverage_eq_map h, List.filter_map, List.map_map]
  rfl

/-- The characters that the reader finds in scope are those at the positions in scope. -/
theorem inScope_eq_within (h : Span.Ascending excluded) (t : Text) (trim : Int) :
    t.inScope trim excluded = t.within trim excluded := by
  rw [inScope, scope_eq_map h, List.filter_map, List.map_map]
  rfl

theorem mem_inScope_iff (h : Span.Ascending excluded) {t : Text} {trim : Int} {c : Char} :
    c ∈ t.inScope trim excluded ↔
      ∃ k, t[k]? = some c ∧ inScopeAt t.length trim excluded k = true := by
  rw [inScope_eq_within h, within]
  simp only [List.mem_map, List.mem_filter, Prod.exists, List.mem_zipIdx_iff_getElem?]
  constructor
  · rintro ⟨_, k, ⟨hk, hscope⟩, rfl⟩
    exact ⟨k, hk, hscope⟩
  · rintro ⟨k, hk, hscope⟩
    exact ⟨c, k, ⟨hk, hscope⟩, rfl⟩

end Text

namespace Family

variable {f : Family}

/-- A quote that is not one character is no character of a text. -/
theorem not_converts_of_length_ne (h : f.quote.length ≠ 1) (m : Bool × Char) :
    f.converts m = false := by
  rw [← Bool.not_eq_true]
  intro hm
  simp only [converts, Bool.and_eq_true, beq_iff_eq] at hm
  exact h (by rw [← hm.2, List.length_singleton])

variable (f) in
/-- Whether the quote occurs outside the spans makes no difference to what is returned. -/
theorem convert_eq_curl_scope (t : Text) (trim : Int) (excluded : List Span) :
    f.convert t trim excluded = f.curl true (t.scope trim excluded) := by
  by_cases hlength : f.quote.length = 1
  · obtain ⟨q, hq⟩ := List.length_eq_one_iff.mp hlength
    exact convert_eq_curl hq t trim excluded
  · have hcopy : f.curl true (t.scope trim excluded) = t := by
      rw [curl_of_none fun m _ => not_converts_of_length_ne hlength m, Text.map_snd_scope]
    rw [convert, hcopy, ite_self]

/-- Conversion puts the output of each position one behind the other. -/
theorem convert_eq_flatMap {excluded : List Span} (h : Span.Ascending excluded) (t : Text)
    (trim : Int) :
    f.convert t trim excluded = (List.range t.length).flatMap (f.output t trim excluded) := by
  rw [convert_eq_curl_scope, ← curl_take h (Nat.le_refl _), ← Text.length_scope t trim excluded,
    List.take_length]

variable (f) in
/-- For spans in the order of their starts conversion is told position by position: a quote in scope
becomes a mark, opening and closing ones in turn, and any other character is copied. Whether the
text is read or handed back at once makes no difference. The characters in scope and those that are
uncovered are those at the positions in scope and at the positions that no span covers. -/
theorem convert_by_position (t : Text) (trim : Int) {excluded : List Span}
    (h : Span.Ascending excluded) :
    f.convert t trim excluded = (List.range t.length).flatMap (f.output t trim excluded) ∧
      f.convert t trim excluded = f.curl true (t.scope trim excluded) ∧
      t.inScope trim excluded = t.within trim excluded ∧
      t.uncovered excluded = t.outside excluded :=
  ⟨convert_eq_flatMap h t trim, f.convert_eq_curl_scope t trim excluded,
    Text.inScope_eq_within h t trim, Text.uncovered_eq_outside h t⟩

/-- Spans that overlap, lie in one another, are empty or reversed or leave the text, and a margin
below zero: of five quotes three are converted, and the second of their marks is empty. -/
theorem convert_by_position_of_degenerate :
    let f : Family := ⟨['\x27'], text "<<", []⟩
    let t := text "'a'b'c'd'"
    let excluded : List Span := [⟨-2, 0⟩, ⟨1, 4⟩, ⟨2, 3⟩, ⟨3, 3⟩, ⟨5, 2⟩, ⟨5, 6⟩, ⟨8, 40⟩]
    Span.Ascending excluded ∧ f.convert t (-1) excluded = text "<<a'bc<<d'" ∧
      f.convert t (-1) excluded = (List.range t.length).flatMap (f.output t (-1) excluded) ∧
      f.convert t (-1) excluded = f.curl true (t.scope (-1) excluded) ∧
      t.inScope (-1) excluded = t.within (-1) excluded ∧
      t.uncovered excluded = t.outside excluded := by
  intro f t excluded
  have h : Span.Ascending excluded := by decide
  exact ⟨h, by decide, f.convert_by_position t (-1) h⟩

end Family

end SmartQuotes
