import SmartQuotes.Console.Width

/-!
# How texts fill the cells of a terminal

A text falls into clusters that hold all of it. Widths add up wherever a character that takes a cell
follows one that is no joiner: a cluster begins there. A text that takes no more cells than there
are is not cut, only filled up with spaces.
-/

namespace SmartQuotes

theorem total_cons (n : Nat) (ns : List Nat) : total (n :: ns) = n + total ns := rfl

theorem total_append (ms ns : List Nat) : total (ms ++ ns) = total ms + total ns := by
  induction ms with
  | nil => exact (Nat.zero_add _).symm
  | cons m ms ih => rw [List.cons_append, total_cons, total_cons, ih, Nat.add_assoc]

namespace Console

/-- The character that ties the one in front of it to the one behind it. -/
def joiner : Char := '\u200d'

namespace Cluster

/-- The cells that clusters take. -/
def widths (ks : List Cluster) : Nat := total (ks.map (·.width))

theorem widths_cons (k : Cluster) (ks : List Cluster) :
    widths (k :: ks) = k.width + widths ks := rfl

theorem widths_append (ks ls : List Cluster) : widths (ks ++ ls) = widths ks + widths ls := by
  rw [widths, List.map_append, total_append]
  rfl

/-- Clusters hold all of the text. -/
theorem flatMap_gather (k : Cluster) (last : Option Char) (t : Text) :
    (gather k last t).flatMap (·.text) = k.text ++ t := by
  fun_induction gather k last t with
  | case1 k last => simp
  | case2 k last c t ih => rw [ih]; simp [extend]
  | case3 k last t _ h ih => rw [ih]; simp [extend]
  | case4 k last t _ h ih => rw [ih]; simp [extend]
  | case5 k last c t _ hc h ih => rw [ih]; simp [extend]
  | case6 k last c t _ hc h ih => rw [List.flatMap_cons, ih]; simp

theorem gather_of_ne_joiner {c : Char} (hc : c ≠ joiner) (k : Cluster) (last : Option Char)
    (t : Text) : gather k last (c :: t) =
      if c = '\ufe0f' then
        if last.any fun l => Text.Class.within l.toNat widened then
          gather { k.extend [c] with width := k.width + 1 } none t
        else gather (k.extend [c]) last t
      else if cells c = 0 then gather (k.extend [c]) last t
      else k :: gather ⟨[c], cells c⟩ (some c) t := by
  rw [gather]
  exact fun _ _ hjoiner _ => hc hjoiner

/-- A character that takes a cell begins a cluster. -/
theorem gather_of_cells {c : Char} (hc : 0 < cells c) (k : Cluster) (last : Option Char)
    (t : Text) : gather k last (c :: t) = k :: clusters (c :: t) := by
  have hjoiner : c ≠ joiner := by
    rintro rfl
    exact absurd hc (by decide)
  have hvariation : c ≠ '\ufe0f' := by
    rintro rfl
    exact absurd hc (by decide)
  have hne : cells c ≠ 0 := Nat.pos_iff_ne_zero.mp hc
  rw [gather_of_ne_joiner hjoiner, if_neg hvariation, if_neg hne, clusters, if_neg hne]

theorem getLast?_ne_of_cons {α : Type} {a x : α} {l : List α} (h : (x :: l).getLast? ≠ some a) :
    l.getLast? ≠ some a := by
  intro hl
  rw [List.getLast?_cons, hl] at h
  exact h rfl

/-- Behind a text that does not end in a joiner, a character that takes a cell begins a cluster. -/
theorem gather_append {k : Cluster} {last : Option Char} {a b : Text} {c : Char}
    (ha : a.getLast? ≠ some joiner) (hc : 0 < cells c) :
    gather k last (a ++ c :: b) = gather k last a ++ clusters (c :: b) := by
  have ne : ∀ {d : Char} {t : Text}, (∀ e u, d = joiner → t = e :: u → False) →
      (d :: t).getLast? ≠ some joiner → d ≠ joiner := by
    intro d t hpair h hd
    cases t with
    | nil => exact h (congrArg some hd)
    | cons e u => exact hpair e u hd rfl
  fun_induction gather k last a with
  | case1 k last => exact gather_of_cells hc k last b
  | case2 k last d t ih => exact ih (getLast?_ne_of_cons (getLast?_ne_of_cons ha))
  | case3 k last t hwide _ ih =>
    rw [List.cons_append, gather_of_ne_joiner (by decide), if_pos rfl, if_pos hwide,
      ih (getLast?_ne_of_cons ha)]
  | case4 k last t hwide _ ih =>
    rw [List.cons_append, gather_of_ne_joiner (by decide), if_pos rfl, if_neg hwide,
      ih (getLast?_ne_of_cons ha)]
  | case5 k last d t hpair hd hcells ih =>
    rw [List.cons_append, gather_of_ne_joiner (ne hpair ha), if_neg hd, if_pos hcells,
      ih (getLast?_ne_of_cons ha)]
  | case6 k last d t hpair hd hcells ih =>
    rw [List.cons_append, gather_of_ne_joiner (ne hpair ha), if_neg hd, if_neg hcells,
      ih (getLast?_ne_of_cons ha), List.cons_append]

/-- A cluster does not become narrower by what is gathered into it. -/
theorem width_le_gather (k : Cluster) (last : Option Char) (t : Text) :
    k.width ≤ widths (gather k last t) := by
  fun_induction gather k last t with
  | case1 k last => exact Nat.le_add_right _ _
  | case2 k last c t ih => exact ih
  | case3 k last t _ _ ih => exact Nat.le_trans (Nat.le_succ _) ih
  | case4 k last t _ _ ih => exact ih
  | case5 k last c t _ _ _ ih => exact ih
  | case6 k last c t _ _ _ ih => exact Nat.le_add_right _ _

theorem widths_gather_le_append (k : Cluster) (last : Option Char) (a b : Text) :
    widths (gather k last a) ≤ widths (gather k last (a ++ b)) := by
  fun_induction gather k last a with
  | case1 k last => exact width_le_gather k last b
  | case2 k last c t ih => exact ih
  | case3 k last t hwide _ ih =>
    rwa [List.cons_append, gather_of_ne_joiner (by decide), if_pos rfl, if_pos hwide]
  | case4 k last t hwide _ ih =>
    rwa [List.cons_append, gather_of_ne_joiner (by decide), if_pos rfl, if_neg hwide]
  | case5 k last c t hpair hc hcells ih =>
    by_cases hjoiner : c = joiner
    · -- a joiner at the end takes in what stands behind it
      cases t with
      | nil => exact width_le_gather k last (c :: b)
      | cons d u => exact (hpair d u hjoiner rfl).elim
    · rwa [List.cons_append, gather_of_ne_joiner hjoiner, if_neg hc, if_pos hcells]
  | case6 k last c t hpair hc hcells ih =>
    have hjoiner : c ≠ joiner := by
      rintro rfl
      exact hcells (by decide)
    rw [List.cons_append, gather_of_ne_joiner hjoiner, if_neg hc, if_neg hcells, widths_cons,
      widths_cons]
    exact Nat.add_le_add_left ih _

end Cluster

open Cluster

/-- The clusters of a text hold all of it. -/
theorem flatMap_clusters (t : Text) : (clusters t).flatMap (·.text) = t := by
  cases t with
  | nil => rfl
  | cons c t => exact flatMap_gather _ _ t

theorem width_nil : width [] = 0 := rfl

/-- Widths add up where a cluster begins. -/
theorem width_append {a b : Text} (ha : a.getLast? ≠ some joiner)
    (hb : ∀ c ∈ b.head?, 0 < cells c) : width (a ++ b) = width a + width b := by
  cases a with
  | nil => rw [List.nil_append, width_nil, Nat.zero_add]
  | cons c a =>
    cases b with
    | nil => rw [List.append_nil, width_nil, Nat.add_zero]
    | cons d b =>
      have hclusters : clusters (c :: a ++ d :: b) = clusters (c :: a) ++ clusters (d :: b) :=
        gather_append (getLast?_ne_of_cons ha) (hb d rfl)
      rw [width, hclusters]
      exact widths_append _ _

theorem width_le_append (a b : Text) : width a ≤ width (a ++ b) := by
  cases a with
  | nil => exact Nat.zero_le _
  | cons c a => exact widths_gather_le_append _ _ a b

/-! ## Texts that begin and end with clusters of their own -/

/-- The text begins with a character that takes a cell and does not end in a joiner, so that it
takes as many cells beside other such texts as alone. -/
def IsSolid (t : Text) : Prop := (∀ c ∈ t.head?, 0 < cells c) ∧ t.getLast? ≠ some joiner

theorem isSolid_nil : IsSolid [] := ⟨nofun, nofun⟩

theorem isSolid_singleton {c : Char} (h : 0 < cells c) : IsSolid [c] := by
  refine ⟨fun d hd => Option.some.inj hd ▸ h, fun hc => ?_⟩
  obtain rfl : c = joiner := Option.some.inj hc
  exact absurd h (by decide)

theorem IsSolid.append {a b : Text} (ha : IsSolid a) (hb : IsSolid b) : IsSolid (a ++ b) := by
  constructor
  · intro c hc
    rw [List.head?_append, Option.mem_def, Option.or_eq_some_iff] at hc
    rcases hc with hc | ⟨-, hc⟩
    · exact ha.1 c hc
    · exact hb.1 c hc
  · intro hjoiner
    rw [List.getLast?_append, Option.or_eq_some_iff] at hjoiner
    rcases hjoiner with h | ⟨-, h⟩
    · exact hb.2 h
    · exact ha.2 h

theorem IsSolid.width_append {a b : Text} (ha : IsSolid a) (hb : IsSolid b) :
    width (a ++ b) = width a + width b := Console.width_append ha.2 hb.1

theorem isSolid_replicate {c : Char} (h : 0 < cells c) (n : Nat) :
    IsSolid (List.replicate n c) := by
  induction n with
  | zero => exact isSolid_nil
  | succ n ih => exact (isSolid_singleton h).append ih

theorem width_singleton (c : Char) : width [c] = cells c := rfl

theorem width_replicate {c : Char} (h : cells c = 1) (n : Nat) :
    width (List.replicate n c) = n := by
  have hpos : 0 < cells c := h ▸ Nat.one_pos
  induction n with
  | zero => rfl
  | succ n ih =>
    have hsplit : List.replicate (n + 1) c = [c] ++ List.replicate n c := rfl
    rw [hsplit, (isSolid_singleton hpos).width_append (isSolid_replicate hpos n), ih,
      width_singleton, h, Nat.add_comm]

theorem cells_space : cells ' ' = 1 := by decide

theorem isSolid_spaces (n : Nat) : IsSolid (spaces n) := isSolid_replicate (by decide) n

theorem width_spaces (n : Nat) : width (spaces n) = n := width_replicate cells_space n

/-- A text that does not take more cells than there are is filled up with spaces. -/
theorem fitTo_of_le {n : Nat} {t : Text} (h : width t ≤ n) :
    fitTo n t = t ++ spaces (n - width t) := by
  have hkept : ∀ {n : Nat} {ks : List Cluster}, widths ks ≤ n → takeCells n ks = ks := by
    intro n ks hks
    induction ks generalizing n with
    | nil => rfl
    | cons k ks ih =>
      rw [widths_cons] at hks
      rw [takeCells, if_pos (by omega), ih (by omega)]
  have hfits : takeCells n (clusters t) = clusters t := hkept h
  rw [fitTo, hfits, flatMap_clusters]
  rfl

/-- A text that takes all the cells there are is left as it is. -/
theorem fitTo_of_eq {n : Nat} {t : Text} (h : width t = n) : fitTo n t = t := by
  rw [fitTo_of_le (Nat.le_of_eq h), h, Nat.sub_self]
  exact List.append_nil t

theorem cropTo_of_le {n : Nat} {t : Text} (h : width t ≤ n) : cropTo n t = t := if_pos h

end Console

end SmartQuotes
