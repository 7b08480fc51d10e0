import SmartQuotes.Proofs.Markup.Partition
import SmartQuotes.Proofs.Markup.Tag

/-!
# Markup in prose

A tag that can be read in a part of a text can be read in the whole text, so that the search for the
end of a run finds every tag and every comment that stands in front of braces that are never closed.
Behind such braces nothing is looked for: they take the rest of the range for prose, tags and
comments included (`locate?_of_holdsMarkupAt`). If all braces of a range are closed, then its prose
holds neither.
-/

namespace SmartQuotes.Markup

/-! ## Markup in prose -/

/-- A tag can be read at a position of the text, or a comment opens there. -/
def HoldsMarkupAt (t : Text) (p : Nat) : Prop :=
  (Tag.ofText? (t.drop p)).isSome ∨ text "<!--" <+: t.drop p

instance (t : Text) (p : Nat) : Decidable (HoldsMarkupAt t p) := instDecidableOr

namespace HoldsMarkupAt

variable {t : Text} {p : Nat}

theorem head?_eq (h : HoldsMarkupAt t p) : (t.drop p).head? = some '<' := by
  rcases h with h | ⟨u, h⟩
  · exact Tag.head?_of_ofText? h
  · rw [← h]
    rfl

/-- The bracket that opens the markup stands in the text. -/
theorem getElem?_eq (h : HoldsMarkupAt t p) : t[p]? = some '<' := by
  rw [← List.head?_drop]
  exact h.head?_eq

theorem append (h : HoldsMarkupAt t p) (u : Text) : HoldsMarkupAt (t ++ u) p := by
  have hlt : p < t.length := (List.getElem?_eq_some_iff.mp h.getElem?_eq).choose
  unfold HoldsMarkupAt
  rw [List.drop_append_of_le_length (Nat.le_of_lt hlt)]
  exact h.imp (fun htag => Tag.isSome_ofText?_append htag u)
    fun hcomment => hcomment.trans (List.prefix_append _ _)

/-- Markup at the start of a text is found there, whatever stands beyond the range. -/
theorem startsMarkup (beyond : Text) (h : HoldsMarkupAt t 0) :
    Piece.startsMarkup beyond t = true := by
  rw [Piece.startsMarkup, Bool.or_eq_true]
  refine h.symm.imp (fun hcomment => ?_) id
  obtain ⟨u, rfl⟩ := hcomment
  exact List.isPrefixOf_iff_prefix.mpr (List.prefix_append (text "<!--") (beyond.take 3))

end HoldsMarkupAt

namespace Part

variable {beyond t u : Text} {c : Char} {parts : List Part}

/-- All markup in prose stands behind braces that open an expression. -/
def Unmarked (parts : List Part) : Prop :=
  ∀ u, prose u ∈ parts → ∀ p, HoldsMarkupAt u p →
    ∃ q, Text.locate? Segment.opening u = some q ∧ q + 2 ≤ p

theorem unmarked_nil_prose (h : Unmarked parts) : Unmarked (prose [] :: parts) := by
  intro u hu p hp
  rcases List.mem_cons.mp hu with heq | hu
  · cases heq
    exact absurd hp.getElem?_eq (by rw [List.getElem?_nil]; exact nofun)
  · exact h u hu p hp

theorem Unmarked.cons {p : Part} (hp : p.isProse = false) (h : Unmarked parts) :
    Unmarked (p :: parts) := by
  intro u hu
  rcases List.mem_cons.mp hu with rfl | hu
  · cases hp
  · exact h u hu

/-- A character in front of prose that neither opens an expression with it nor starts markup. -/
theorem Unmarked.push (hc : ¬ Segment.opening <+: c :: u) (hmarkup : ¬ HoldsMarkupAt (c :: u) 0)
    (h : Unmarked (prose u :: parts)) : Unmarked (prose (c :: u) :: parts) := by
  intro v hv p hp
  rcases List.mem_cons.mp hv with heq | hv
  · cases heq
    cases p with
    | zero => exact absurd hp hmarkup
    | succ p =>
      obtain ⟨q, hq, hle⟩ := h u List.mem_cons_self p hp
      refine ⟨q + 1, ?_, by omega⟩
      rw [Text.locate?, if_neg fun hstarts => hc (List.isPrefixOf_iff_prefix.mp hstarts), hq]
      rfl
  · exact h v (List.mem_cons_of_mem _ hv) p hp

theorem unmarked_list (beyond t : Text) : Unmarked (list beyond t) := by
  have pushed : ∀ (c : Char) (r : Text), (c = '\x7b' → r.head? ≠ some '\x7b') →
      (c = '<' → Piece.startsMarkup beyond (c :: r) = false) →
      Unmarked (list beyond r) → Unmarked (Part.push c (list beyond r)) := by
    intro c r hbrace hmarkup h
    obtain ⟨u, rest, hlist⟩ := exists_list_eq beyond r
    have htext := flatMap_toText_list beyond r
    rw [hlist] at h htext ⊢
    refine h.push (fun hstarts => ?_) fun hzero => ?_
    · obtain ⟨rfl, v, rfl⟩ := List.cons_prefix_cons.mp hstarts
      refine hbrace rfl ?_
      rw [← htext]
      rfl
    · -- what can be read in the prose can be read in the range
      have hc : c = '<' := Option.some.inj hzero.getElem?_eq
      have hstarts := (hzero.append (rest.flatMap toText)).startsMarkup beyond
      have hrange : c :: u ++ rest.flatMap toText = c :: r := by
        rw [← htext]
        rfl
      rw [hrange, hmarkup hc] at hstarts
      cases hstarts
  fun_induction list beyond t with
  | case1 => exact unmarked_nil_prose (fun u hu => by cases hu)
  | case2 r hcomment found ih => exact unmarked_nil_prose (ih.cons rfl)
  | case3 r hcomment hnone ih =>
    refine pushed _ _ (fun hc => absurd hc (by decide)) (fun _ => ?_) ih
    rw [Piece.startsMarkup, hnone, Option.isSome_none, Bool.or_false]
    simpa using hcomment
  | case4 r hcomment g hg ih => exact unmarked_nil_prose (ih.cons rfl)
  | case5 r hnone =>
    intro u hu p hp
    cases List.mem_singleton.mp hu
    refine ⟨0, ?_, ?_⟩
    · rw [Text.locate?]
      exact if_pos (List.isPrefixOf_iff_prefix.mpr ⟨r, rfl⟩)
    · have hat := hp.getElem?_eq
      by_contra hlt
      rcases (by omega : p = 0 ∨ p = 1) with rfl | rfl
      · cases hat
      · cases hat
  | case6 r n hsome ih => exact unmarked_nil_prose (ih.cons rfl)
  | case7 c r hc hbrace ih =>
    refine pushed _ _ (fun hc hhead => ?_) (fun hbracket => absurd hbracket hc) ih
    obtain ⟨u, hu⟩ := List.head?_eq_some_iff.mp hhead
    exact hbrace u hc hu

/-- Prose holds markup only behind its first opening braces. These are never closed, and the prose
is the last part, unlike any other. -/
theorem locate?_of_holdsMarkupAt (hu : prose u ∈ list beyond t) {p : Nat}
    (hp : HoldsMarkupAt u p) : ∃ q, Text.locate? Segment.opening u = some q ∧ q + 2 ≤ p ∧
      Text.locate? Segment.closing (u.drop (q + 2)) = none ∧
      ∃ front, list beyond t = front ++ [prose u] ∧ prose u ∉ front := by
  obtain ⟨q, hq, hle⟩ := unmarked_list beyond t u hu p hp
  have hunbraced := unbraced_list beyond t
  have hfirst := hunbraced.none u hu
  rw [Segment.firstEmbedded?, hq, Option.bind_some, Option.map_eq_none_iff] at hfirst
  have hfront : prose u ∉ (list beyond t).dropLast := by
    intro hmem
    rw [hunbraced.last u hmem] at hq
    cases hq
  have hne : list beyond t ≠ [] := List.ne_nil_of_mem hu
  have happend := List.dropLast_append_getLast hne
  rw [← happend, List.mem_append, or_iff_right hfront, List.mem_singleton] at hu
  refine ⟨q, hq, hle, hfirst, _, ?_, hfront⟩
  rw [hu]
  exact happend.symm

theorem mem_of_mem_placed {start : Int} {x : Int × Part} (hx : x ∈ placed start parts) :
    x.2 ∈ parts := by
  induction parts generalizing start with
  | nil => cases hx
  | cons p parts ih =>
    rcases List.mem_cons.mp hx with rfl | hx
    · exact List.mem_cons_self
    · exact List.mem_cons_of_mem _ (ih hx)

/-- A part that is not among the front ones ends with the range. -/
theorem stop_of_mem_placed {start : Int} {front : List Part} {p : Part} {x : Int × Part}
    (hx : x ∈ placed start (front ++ [p])) (hfront : x.2 ∉ front) :
    x.1 + x.2.toText.length = start + ((front ++ [p]).flatMap toText).length := by
  induction front generalizing start with
  | nil =>
    cases List.mem_singleton.mp hx
    rw [List.nil_append, List.flatMap_singleton]
  | cons a front ih =>
    rw [List.mem_cons, not_or] at hfront
    rcases List.mem_cons.mp hx with rfl | hx
    · exact absurd rfl hfront.1
    · rw [ih hx hfront.2, List.cons_append, length_flatMap_cons]
      omega

end Part

/-! ## Prose among the fragments -/

variable {document : Text} {start stop : Int} {fragments : List Fragment}

/-- A fragment of prose is a part of the template. -/
theorem exists_prose_of_mem_extractTemplate (hstart : 0 ≤ start) (hle : start ≤ stop)
    (hstop : stop ≤ document.length)
    (h : (extractTemplate document start stop).result = .ok fragments) {f : Fragment}
    (hf : f ∈ fragments) (hkind : f.kind = .markupText) :
    (f.start, Part.prose f.text) ∈ Part.placed start
        (Part.list (document.drop (Text.bound document.length stop)) (document.slice start stop)) ∧
      f.stop = f.start + f.text.length := by
  have htext := Part.flatMap_toText_list (document.drop (Text.bound document.length stop))
    (document.slice start stop)
  rw [extractTemplate_eq_concat hstart hle hstop] at h
  generalize Part.list (document.drop (Text.bound document.length stop))
    (document.slice start stop) = parts at h htext
  have hlength : start + (parts.flatMap Part.toText).length = stop := by
    rw [htext, Text.length_slice hstart hle hstop]
    omega
  obtain ⟨lists, hlists, rfl⟩ := Outcome.exists_of_concat_map
    (R := fun x l => Part.Extracts document x l ∧
      document.slice x.1 (x.1 + x.2.toText.length) = x.2.toText)
    (fun x hx l hl => by
      have hlow := Part.le_of_mem_placed hx
      obtain ⟨hhigh, hslice⟩ := Part.slice_of_mem_placed hstart hlength htext hx
      exact ⟨Part.extracts_of_extract (by omega) (by omega) hslice hl, hslice⟩) h
  obtain ⟨⟨i, part⟩, hx, l, ⟨hl, hslice⟩, hf⟩ := Outcome.exists_of_mem_flatten hlists hf
  have hyields := hl.yields f hf
  cases part with
  | prose u =>
    obtain ⟨-, rfl⟩ := hyields
    simp only [fragmentAt, Part.toText] at hslice ⊢
    rw [hslice]
    exact ⟨hx, rfl⟩
  | embedded u => exact absurd hkind (hyields.kind_ne rfl)
  | comment u => exact absurd hkind (hyields.kind_ne rfl)
  | tag g => exact absurd hkind (hyields.kind_ne rfl)

/-- A tag or a comment in prose stands behind braces that are not closed up to the end of the range;
so there is none if all braces of the range are closed. -/
theorem prose_unmarked_of_closed (hstart : 0 ≤ start) (hle : start ≤ stop)
    (hstop : stop ≤ document.length)
    (h : (extractTemplate document start stop).result = .ok fragments) :
    (∀ f ∈ fragments, f.kind = .markupText → ∀ p, HoldsMarkupAt f.text p →
      ∃ q, Text.locate? Segment.opening f.text = some q ∧ q + 2 ≤ p ∧
        Text.locate? Segment.closing (f.text.drop (q + 2)) = none ∧ f.stop = stop) ∧
    ((∀ q, Segment.opening <+: (document.slice start stop).drop q →
        (Text.locate? Segment.closing ((document.slice start stop).drop (q + 2))).isSome) →
      ∀ f ∈ fragments, f.kind = .markupText → ∀ p, ¬ HoldsMarkupAt f.text p) := by
  have htext := Part.flatMap_toText_list (document.drop (Text.bound document.length stop))
    (document.slice start stop)
  have hlength := Text.length_slice hstart hle hstop
  have hmarked : ∀ f ∈ fragments, f.kind = .markupText → ∀ p, HoldsMarkupAt f.text p →
      ∃ q, Text.locate? Segment.opening f.text = some q ∧ q + 2 ≤ p ∧
        Text.locate? Segment.closing (f.text.drop (q + 2)) = none ∧ f.stop = stop ∧
        ∃ front, document.slice start stop = front ++ f.text := by
    intro f hf hkind p hp
    obtain ⟨hplaced, hend⟩ := exists_prose_of_mem_extractTemplate hstart hle hstop h hf hkind
    obtain ⟨q, hq, hqp, hnone, front, hlist, hfront⟩ :=
      Part.locate?_of_holdsMarkupAt (Part.mem_of_mem_placed hplaced) hp
    rw [hlist] at hplaced htext
    have hlast := Part.stop_of_mem_placed hplaced hfront
    rw [htext] at hlast
    refine ⟨q, hq, hqp, hnone, ?_, front.flatMap Part.toText, ?_⟩
    · simp only [Part.toText] at hlast
      omega
    · rw [← htext, List.flatMap_append, List.flatMap_singleton]
      rfl
  refine ⟨fun f hf hkind p hp => ?_, fun hclosed f hf hkind p hp => ?_⟩
  · obtain ⟨q, hq, hqp, hnone, hend, -⟩ := hmarked f hf hkind p hp
    exact ⟨q, hq, hqp, hnone, hend⟩
  · obtain ⟨q, hq, -, hnone, -, front, hrange⟩ := hmarked f hf hkind p hp
    have hopening : Segment.opening <+: (document.slice start stop).drop (front.length + q) := by
      rw [hrange, ← List.drop_drop, List.drop_left, Text.drop_eq_of_locate? hq]
      exact List.prefix_append _ _
    have hsome := hclosed _ hopening
    rw [hrange, Nat.add_assoc, ← List.drop_drop, List.drop_left, hnone] at hsome
    cases hsome

/-- A lone bracket, a tag between braces and one in a comment: no prose holds markup. -/
theorem prose_unmarked_of_lone_bracket :
    let document := text "a < b\x7b\x7b 'c<d>' \x7d\x7d<!-- <e> --><f g=\"h\">'i'"
    let fragments : List Fragment := [fragmentAt document .markupText 0 5,
      fragmentAt document .literal 8 14, fragmentAt document .attributeValue 34 37,
      fragmentAt document .markupText 38 41]
    ((0 : Int) ≤ 0 ∧ (0 : Int) ≤ 41 ∧ (41 : Int) ≤ document.length) ∧
      (extractTemplate document 0 41).result = .ok fragments ∧
      ∀ f ∈ fragments, f.kind = .markupText → ∀ p, ¬ HoldsMarkupAt f.text p := by
  intro document fragments
  have hstop : (41 : Int) ≤ document.length := by decide
  have hparts : Part.list (document.drop (Text.bound document.length 41)) (document.slice 0 41) =
      [.prose (text "a < b"), .embedded (text " 'c<d>' "), .prose [], .comment (text "<!-- <e> -->"),
        .prose [], .tag ⟨false, text "f", text " g=\"h\""⟩, .prose (text "'i'")] := by
    unfold document
    cbv
  have hattributes : Attribute.list (text " g=\"h\"") = [⟨text "g", 4, text "h"⟩] := by cbv
  have hextract : (extractTemplate document 0 41).result = .ok fragments := by
    rw [extractTemplate_eq_concat (by decide) (by decide) hstop, hparts]
    simp only [Part.placed, List.map, Part.extract, extractTag, hattributes]
    decide +kernel
  have hclosed : ∀ q, Segment.opening <+: (document.slice 0 41).drop q →
      (Text.locate? Segment.closing ((document.slice 0 41).drop (q + 2))).isSome := by
    intro q hq
    have hinside : q < 41 := by
      by_contra hge
      have hlength : (document.slice 0 41).length = 41 := by decide
      rw [List.drop_of_length_le (by omega)] at hq
      cases List.prefix_nil.mp hq
    have hall : ∀ q < 41, Segment.opening <+: (document.slice 0 41).drop q →
        (Text.locate? Segment.closing ((document.slice 0 41).drop (q + 2))).isSome := by
      decide
    exact hall q hinside hq
  exact ⟨⟨by decide, by decide, hstop⟩, hextract,
    (prose_unmarked_of_closed (by decide) (by decide) hstop hextract).2 hclosed⟩

/-- Braces that are never closed: the tags behind them are prose, and the quotes around the value of
an attribute are converted with it. -/
theorem prose_holds_tag_of_unclosed :
    let document := text "<p>\x7b\x7b oops</p><b title=\"it's\">x</b>"
    let f : Fragment := fragmentAt document .markupText 3 35
    (extractTemplate document 0 35).result = .ok [f] ∧
      f.text = text "\x7b\x7b oops</p><b title=\"it's\">x</b>" ∧
      HoldsMarkupAt f.text 11 ∧
      Marks.correct {} f = text "\x7b\x7b oops</p><b title=“it‘s”>x</b>" := by
  intro document f
  have hparts : Part.list (document.drop (Text.bound document.length 35)) (document.slice 0 35) =
      [.prose [], .tag ⟨false, text "p", []⟩,
        .prose (text "\x7b\x7b oops</p><b title=\"it's\">x</b>")] := by
    unfold document
    cbv
  have hattributes : Attribute.list [] = [] := by cbv
  have hextract : (extractTemplate document 0 35).result = .ok [f] := by
    rw [extractTemplate_eq_concat (by decide) (by decide) (by decide), hparts]
    simp only [Part.placed, List.map, Part.extract, extractTag, hattributes]
    decide +kernel
  refine ⟨hextract, by decide, ?_, by decide⟩
  unfold HoldsMarkupAt f
  decide +kernel

end SmartQuotes.Markup
