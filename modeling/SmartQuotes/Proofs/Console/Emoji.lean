import Mathlib.Data.List.Infix
import SmartQuotes.Console.Emoji

/-!
# Texts without emoji

A code stands in a text if a name, with the ending of a code, stands behind a colon in it. Where no
code names an emoji, all of the text is left as it is.
-/

namespace SmartQuotes.Console.Emoji

/-- No code in the text names an emoji. -/
def IsCodeFree (t : Text) : Prop :=
  ∀ name : Text, ∀ style ∈ styles, ':' :: (name ++ style.1) <:+: t →
    ofName? (Text.lower name) = none

theorem IsCodeFree.of_isInfix {t u : Text} (h : IsCodeFree t) (hu : u <:+: t) : IsCodeFree u :=
  fun name style hstyle hcode => h name style hstyle (hcode.trans hu)

/-- A code is found where some name stands in front of the ending of a code. -/
theorem isCodeFree_iff {t : Text} : IsCodeFree t ↔
    ∀ u ∈ t.tails, u.head? = some ':' → ∀ name ∈ u.tail.inits, ∀ style ∈ styles,
      name ++ style.1 <+: u.tail → ofName? (Text.lower name) = none := by
  constructor
  · intro h u hu hcolon name _ style hstyle hcode
    refine h name style hstyle (List.IsInfix.trans ?_ (List.mem_tails _ _ |>.mp hu).isInfix)
    cases u with
    | nil => cases hcolon
    | cons c v =>
      obtain rfl := Option.some.inj hcolon
      exact (List.cons_prefix_cons.mpr ⟨rfl, hcode⟩).isInfix
  · rintro h name style hstyle ⟨a, b, hab⟩
    refine h (':' :: (name ++ style.1) ++ b) ?_ rfl name ?_ style hstyle ?_
    · rw [List.mem_tails, ← hab, List.append_assoc]
      exact List.suffix_append _ _
    · rw [List.mem_inits, List.cons_append, List.tail_cons, List.append_assoc]
      exact List.prefix_append _ _
    · exact List.prefix_append _ _

instance (t : Text) : Decidable (IsCodeFree t) := decidable_of_iff' _ isCodeFree_iff

theorem ending_ne_nil {style : Text × Text} (h : style ∈ styles) : style.1 ≠ [] := by
  revert style
  decide

/-- A code is written as its name with an ending, and stands in front of what is left. -/
theorem code?_spec {t : Text} {k : Code t} (h : code? t = some k) :
    (∃ style ∈ styles, k.written = k.name ++ style.1) ∧ t = k.written ++ k.rest := by
  induction t with
  | nil => cases h
  | cons c t ih =>
    rw [code?] at h
    split at h
    · next ending style hfound =>
      have hstarts := List.find?_some hfound
      obtain ⟨rest, hrest⟩ := List.isPrefixOf_iff_prefix.mp hstarts
      have hne := ending_ne_nil (List.mem_of_find?_eq_some hfound)
      cases h
      refine ⟨⟨_, List.mem_of_find?_eq_some hfound, rfl⟩, ?_⟩
      cases ending with
      | nil => exact absurd rfl hne
      | cons d ending =>
        obtain ⟨rfl, rfl⟩ := List.cons.inj hrest
        simp
    · split at h
      · cases h
      · obtain ⟨k', hk', rfl⟩ := Option.map_eq_some_iff.mp h
        obtain ⟨⟨style, hstyle, hwritten⟩, ht⟩ := ih hk'
        exact ⟨⟨style, hstyle, congrArg (c :: ·) hwritten⟩, congrArg (c :: ·) ht⟩

/-- A text whose codes name no emoji is left as it is. -/
theorem replace_eq_self {t : Text} (h : IsCodeFree t) : replace t = t := by
  fun_induction replace t with
  | case1 => rfl
  | case2 t k hk ih =>
    obtain ⟨⟨style, hstyle, hwritten⟩, ht⟩ := code?_spec hk
    have hname : ofName? k.name.lower = none := by
      refine h k.name style hstyle ⟨[], k.rest, ?_⟩
      rw [← hwritten, List.nil_append, List.cons_append, ← ht]
    have hrest : IsCodeFree k.rest := h.of_isInfix ⟨':' :: k.written, [], by
      rw [List.append_nil, List.cons_append, ← ht]⟩
    rw [ih hrest, Code.shown, hname]
    exact congrArg (':' :: ·) ht.symm
  | case3 t hk ih => rw [ih (h.of_isInfix (List.infix_cons_iff.mpr (Or.inr List.infix_rfl)))]
  | case4 c t _ ih => rw [ih (h.of_isInfix (List.infix_cons_iff.mpr (Or.inr List.infix_rfl)))]

end SmartQuotes.Console.Emoji
