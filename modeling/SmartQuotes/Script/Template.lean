import SmartQuotes.Script.Record

/-!
# Template literals

A template literal is read part by part. Between two parts stands an embedded expression; its span
takes in the end of the part in front of it and the first character of the part behind it.
-/

namespace SmartQuotes.Script

namespace Token

/-- The token is a part of a template that stands in the text. -/
def PartOf (t : Text) (p : Token) : Prop :=
  ∃ head body, (head = '\x60' ∨ head = '\x7d') ∧
    t.drop p.start = head :: (body ++ partEnd p.closes ++ t.drop p.stop) ∧
    p.stop = p.start + 1 + body.length + (partEnd p.closes).length

namespace PartOf

variable {t : Text} {p : Token}

theorem start_lt (h : p.PartOf t) : p.start + 1 + (partEnd p.closes).length ≤ p.stop := by
  obtain ⟨head, body, -, -, hstop⟩ := h
  omega

theorem stop_le (h : p.PartOf t) : p.stop ≤ t.length := by
  obtain ⟨head, body, -, htext, hstop⟩ := h
  have hlength := congrArg List.length htext
  simp only [List.length_drop, List.length_cons, List.length_append] at hlength
  omega

theorem head_eq (h : p.PartOf t) : t[p.start]? = some '\x60' ∨ t[p.start]? = some '\x7d' := by
  obtain ⟨head, body, hhead, htext, -⟩ := h
  rw [← Nat.add_zero p.start, ← List.getElem?_drop, htext, List.getElem?_cons_zero, Option.some_inj,
    Option.some_inj]
  exact hhead

theorem drop_end (h : p.PartOf t) :
    t.drop (p.stop - (partEnd p.closes).length) = partEnd p.closes ++ t.drop p.stop := by
  obtain ⟨head, body, -, htext, hstop⟩ := h
  have hplace : p.stop - (partEnd p.closes).length = p.start + (body.length + 1) := by omega
  rw [hplace, ← List.drop_drop, htext, List.drop_succ_cons, List.append_assoc, List.drop_left]

end PartOf

theorem partOf_of_lexes {t : Text} {c : Cursor} {l : Lexed} (h : Lexes c l) (hc : c.Within t)
    (hkind : l.token.kind = .template) : l.token.PartOf t := by
  obtain ⟨hstop, head, rest, hrest, hhead, body, hbody, hindex⟩ := h.part hkind
  have hwithin : l.cursor.rest = t.drop l.cursor.index := h.follows.within hc
  refine ⟨head, body, hhead, ?_, ?_⟩
  · rw [h.start_eq, ← hc, hrest, hbody, hwithin, hstop]
  · rw [hstop, h.start_eq, hindex]

end Token

/-! ## Reading part by part -/

/-- A template literal up to and with one of its parts: the offset of its first character, the part,
and the spans of the expressions in front of the part, relative to the first character and the last
span first. -/
structure TemplateRun (σ : Source) where
  start : Nat
  part : Token
  spans : List Span
  start_le : start ≤ part.start
  partOf : part.PartOf σ.text
  embeds : ∀ s ∈ spans, s.stop ≤ part.start + 1 - start ∧ s.Embeds (σ.text.drop start)
  ordered : spans.Pairwise fun s t => t.stop ≤ s.start

namespace TemplateRun

variable {σ : Source}

/-- The first part of a template literal. -/
def ofHead (p : Token) (h : p.PartOf σ.text) : TemplateRun σ :=
  ⟨p.start, p, [], Nat.le_refl _, h, nofun, .nil⟩

/-- The span of the expression between the last part and the next one. -/
def gap (r : TemplateRun σ) (p : Token) : Span :=
  ⟨(r.part.stop : Int) - 2 - r.start, (p.start : Int) + 1 - r.start⟩

theorem embeds_gap (r : TemplateRun σ) (hpart : r.part.closes = false) {p : Token}
    (h : p.PartOf σ.text) (hp : r.part.stop ≤ p.start) :
    (r.gap p).Embeds (σ.text.drop r.start) := by
  have hstart := r.start_le
  have hlt := r.partOf.start_lt
  have hend := r.partOf.drop_end
  rw [hpart] at hlt hend
  have hat : ∀ i, σ.text[r.part.stop - 2 + i]? = ('$' :: '\x7b' :: σ.text.drop r.part.stop)[i]? := by
    intro i
    rw [← List.getElem?_drop]
    exact congrArg (·[i]?) hend
  have hlen : (partEnd false).length = 2 := rfl
  refine ⟨?_, ?_, ?_, ?_, ?_⟩
  · simp only [gap]
    omega
  · simp only [gap]
    omega
  · rw [List.getElem?_drop]
    have hplace : r.start + (r.gap p).start.toNat = r.part.stop - 2 + 0 := by
      simp only [gap]
      omega
    rw [hplace, hat]
    rfl
  · rw [List.getElem?_drop]
    have hplace : r.start + ((r.gap p).start + 1).toNat = r.part.stop - 2 + 1 := by
      simp only [gap]
      omega
    rw [hplace, hat]
    rfl
  · rw [List.getElem?_drop]
    have hplace : r.start + ((r.gap p).stop - 1).toNat = p.start := by
      simp only [gap]
      omega
    rw [hplace]
    exact h.head_eq

/-- Go on with the next part. -/
def extend (r : TemplateRun σ) (hpart : r.part.closes = false) (p : Token) (h : p.PartOf σ.text)
    (hp : r.part.stop ≤ p.start) : TemplateRun σ where
  start := r.start
  part := p
  spans := r.gap p :: r.spans
  start_le := by
    have := r.start_le
    have := r.partOf.start_lt
    omega
  partOf := h
  embeds := by
    have hstart := r.start_le
    have hlt := r.partOf.start_lt
    intro s hs
    rcases List.mem_cons.mp hs with rfl | hs
    · refine ⟨?_, r.embeds_gap hpart h hp⟩
      simp only [gap]
      omega
    · obtain ⟨hstop, hembeds⟩ := r.embeds s hs
      exact ⟨by omega, hembeds⟩
  ordered := by
    have hstart := r.start_le
    have hlt := r.partOf.start_lt
    refine List.pairwise_cons.mpr ⟨fun s hs => ?_, r.ordered⟩
    obtain ⟨hstop, -⟩ := r.embeds s hs
    rw [hpart, partEnd] at hlt
    simp only [Bool.false_eq_true, if_false, List.length_cons, List.length_nil] at hlt
    simp only [gap]
    omega

/-- The template literal that ends with the part. -/
def fragment (r : TemplateRun σ) : Fragment :=
  { kind := .templateLiteral, start := σ.base + r.start, stop := σ.base + r.part.stop
    text := σ.text.extract r.start r.part.stop, region := σ.region
    interpolations := some r.spans.reverse }

theorem holds_fragment (r : TemplateRun σ) : σ.Holds r.fragment where
  part := by
    have hstart := r.start_le
    have hlt := r.partOf.start_lt
    have hstop := r.partOf.stop_le
    have hlength := σ.length_eq
    exact ⟨r.start, r.part.stop, by omega, by omega, rfl, rfl, rfl⟩
  region_eq := rfl
  isOfScripts := rfl
  delimited := by
    have hstart := r.start_le
    have hlt := r.partOf.start_lt
    refine ⟨⟨fun _ => rfl, fun _ => rfl⟩, ?_, ?_⟩
    · rintro _ ⟨⟩
      exact List.pairwise_reverse.mpr r.ordered
    · rintro _ ⟨⟩ s hs
      obtain ⟨hstop, hembeds⟩ := r.embeds s (List.mem_reverse.mp hs)
      have htake : r.fragment.text = (σ.text.drop r.start).take (r.part.stop - r.start) :=
        List.drop_take
      rw [htake]
      exact hembeds.take (by omega)

end TemplateRun

end SmartQuotes.Script
