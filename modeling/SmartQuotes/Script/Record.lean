import SmartQuotes.Quote.Fragment
import SmartQuotes.Script.Advance

/-!
# Recorded fragments

The fragments of a script are recorded as the nodes that hold them are completed: one for each span,
in increasing order. Each is a part of the script; the interpolations are known of template literals
and of nothing else, and each of them reads as an embedded expression with its delimiters.
-/

namespace SmartQuotes

namespace Span

/-- The span starts in the text with a dollar sign and an opening brace and ends with a closing
brace, or with the backquote of a template that stands where the brace should. -/
structure Embeds (t : Text) (s : Span) : Prop where
  start_nonneg : 0 ≤ s.start
  start_lt : s.start + 3 ≤ s.stop
  dollar : t[s.start.toNat]? = some '$'
  brace : t[(s.start + 1).toNat]? = some '\x7b'
  last : t[(s.stop - 1).toNat]? = some '\x60' ∨ t[(s.stop - 1).toNat]? = some '\x7d'

theorem Embeds.stop_le {t : Text} {s : Span} (h : s.Embeds t) : s.stop ≤ t.length := by
  have hlt : (s.stop - 1).toNat < t.length := by
    rcases h.last with hlast | hlast
    · exact (List.getElem?_eq_some_iff.mp hlast).choose
    · exact (List.getElem?_eq_some_iff.mp hlast).choose
  omega

theorem Embeds.take {t : Text} {s : Span} (h : s.Embeds t) {n : Nat} (hn : s.stop ≤ n) :
    s.Embeds (t.take n) := by
  obtain ⟨hnonneg, hlt, hdollar, hbrace, hlast⟩ := h
  refine ⟨hnonneg, hlt, ?_, ?_, ?_⟩
  · rw [List.getElem?_take_of_lt (by omega), hdollar]
  · rw [List.getElem?_take_of_lt (by omega), hbrace]
  · rw [List.getElem?_take_of_lt (by omega)]
    exact hlast

end Span

namespace Fragment

/-- The order by start, then by stop, of fragments with different spans. -/
def Before (f g : Fragment) : Prop := f.start < g.start ∨ f.start = g.start ∧ f.stop < g.stop

theorem Before.trans {f g h : Fragment} (hfg : f.Before g) (hgh : g.Before h) : f.Before h := by
  rw [Before] at hfg hgh ⊢
  omega

/-- The interpolations are known exactly if the fragment is a template literal; they follow one
another, and each reads as an embedded expression. -/
structure Delimited (f : Fragment) : Prop where
  isSome_iff : f.interpolations.isSome ↔ f.kind = .templateLiteral
  ordered : ∀ spans, f.interpolations = some spans →
    spans.Pairwise fun s t => s.stop ≤ t.start
  embeds : ∀ spans, f.interpolations = some spans → ∀ s ∈ spans, s.Embeds f.text

end Fragment

namespace Script

/-- The text to parse, where it stands in its document, and the region of its fragments. -/
structure Source where
  text : Text
  base : Int
  region : Region
  length : Nat := text.length
  length_eq : length = text.length := by rfl

/-- The fragment is a part of the script, with its offsets in the document. -/
structure Source.Holds (σ : Source) (f : Fragment) : Prop where
  part : ∃ start stop : Nat, start ≤ stop ∧ stop ≤ σ.length ∧ f.start = σ.base + start ∧
    f.stop = σ.base + stop ∧ f.text = σ.text.extract start stop
  region_eq : f.region = σ.region
  isOfScripts : f.kind.isOfScripts = true
  delimited : f.Delimited

/-- Put a fragment into an increasing list, in the place of one with the same span. -/
def insertFragment (f : Fragment) : List Fragment → List Fragment
  | [] => [f]
  | g :: rest =>
    if f.start < g.start || (f.start == g.start && f.stop < g.stop) then f :: g :: rest
    else if f.start == g.start && f.stop == g.stop then f :: rest
    else g :: insertFragment f rest

theorem mem_insertFragment {f g : Fragment} {l : List Fragment} (h : g ∈ insertFragment f l) :
    g = f ∨ g ∈ l := by
  fun_induction insertFragment f l with
  | case1 => exact .inl (List.mem_singleton.mp h)
  | case2 => exact List.mem_cons.mp h
  | case3 _ _ _ _ =>
    exact (List.mem_cons.mp h).imp_right (List.mem_cons_of_mem _)
  | case4 a rest _ _ ih =>
    rcases List.mem_cons.mp h with rfl | h
    · exact .inr List.mem_cons_self
    · exact (ih h).imp_right (List.mem_cons_of_mem _)

theorem pairwise_insertFragment (f : Fragment) {l : List Fragment}
    (h : l.Pairwise Fragment.Before) : (insertFragment f l).Pairwise Fragment.Before := by
  fun_induction insertFragment f l with
  | case1 => exact List.pairwise_singleton _ _
  | case2 g rest hlt =>
    refine List.pairwise_cons.mpr ⟨fun x hx => ?_, h⟩
    simp only [Bool.or_eq_true, Bool.and_eq_true, decide_eq_true_eq, beq_iff_eq] at hlt
    rcases List.mem_cons.mp hx with rfl | hx
    · exact hlt
    · exact Fragment.Before.trans hlt ((List.pairwise_cons.mp h).1 x hx)
  | case3 g rest _ heq =>
    simp only [Bool.and_eq_true, beq_iff_eq] at heq
    refine List.pairwise_cons.mpr ⟨fun x hx => ?_, (List.pairwise_cons.mp h).2⟩
    have hbefore := (List.pairwise_cons.mp h).1 x hx
    rw [Fragment.Before] at hbefore ⊢
    rwa [heq.1, heq.2]
  | case4 g rest hlt heq ih =>
    refine List.pairwise_cons.mpr ⟨fun x hx => ?_, ih (List.pairwise_cons.mp h).2⟩
    rcases mem_insertFragment hx with rfl | hx
    · simp only [Bool.or_eq_true, Bool.and_eq_true, decide_eq_true_eq, beq_iff_eq] at hlt heq
      rw [Fragment.Before]
      omega
    · exact (List.pairwise_cons.mp h).1 x hx

/-- The fragments recorded so far. -/
structure Found (σ : Source) where
  fragments : List Fragment
  holds : ∀ f ∈ fragments, σ.Holds f
  increasing : fragments.Pairwise Fragment.Before

namespace Found

variable {σ : Source}

/-- Nothing is recorded. -/
def none : Found σ := ⟨[], nofun, .nil⟩

/-- Record a fragment. -/
def insert (found : Found σ) (f : Fragment) (h : σ.Holds f) : Found σ where
  fragments := insertFragment f found.fragments
  holds g hg := by
    rcases mem_insertFragment hg with rfl | hg
    · exact h
    · exact found.holds g hg
  increasing := pairwise_insertFragment f found.increasing

end Found

end Script

end SmartQuotes
