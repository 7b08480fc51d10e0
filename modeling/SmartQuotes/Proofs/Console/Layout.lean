import Mathlib.Data.List.Chain
import SmartQuotes.Console.Layout
import SmartQuotes.Proofs.Console.Width

/-!
# Lines that are long enough

A text of which each line fits in its column is laid out line by line, and nothing but spaces is
added. Apart from tabs, this holds for lines in which the characters behind blanks take a cell, so
that the widths of the words add up, and at the end of which no blanks are dropped
(`columnLines_of_fits`).
-/

namespace SmartQuotes.Console

open Text.Class (isBlank)

/-- The second character takes a cell if the first one is blank. -/
def Apart (a b : Char) : Prop := isBlank a = true → 0 < cells b

instance : DecidableRel Apart := fun a b =>
  inferInstanceAs (Decidable (isBlank a = true → 0 < cells b))

/-- The line stays as it is where there is room for it: it has no tabs, its words begin with
characters that take a cell, it does not end in a joiner, and blanks at its end are dropped only
where the line is too long. -/
structure IsSteady (line : Text) : Prop where
  tabs : '\t' ∉ line
  apart : (' ' :: line).IsChain Apart
  joiner : line.getLast? ≠ some joiner
  blanks : ∀ c ∈ line.getLast?, isBlank c = true → line.length ≤ width line

theorem isSteady_iff {line : Text} : IsSteady line ↔
    '\t' ∉ line ∧ (' ' :: line).IsChain Apart ∧ line.getLast? ≠ some joiner ∧
      line.getLast?.all (fun c => !isBlank c || line.length ≤ width line) = true := by
  have hblanks : line.getLast?.all (fun c => !isBlank c || line.length ≤ width line) = true ↔
      ∀ c ∈ line.getLast?, isBlank c = true → line.length ≤ width line := by
    simp [Option.all_eq_true, imp_iff_not_or]
  rw [hblanks]
  exact ⟨fun h => ⟨h.tabs, h.apart, h.joiner, h.blanks⟩, fun ⟨ht, ha, hj, hb⟩ => ⟨ht, ha, hj, hb⟩⟩

instance (line : Text) : Decidable (IsSteady line) := decidable_of_iff' _ isSteady_iff

theorem IsSteady.isSolid {line : Text} (h : IsSteady line) : IsSolid line :=
  ⟨fun c hc => (List.isChain_cons.mp h.apart).1 c hc rfl, h.joiner⟩

variable {size : Nat} {overflow : Overflow}

/-! ## Words -/

theorem stripEnd_isPrefix (t : Text) : stripEnd t <+: t := by
  rw [stripEnd, ← List.reverse_suffix, List.reverse_reverse]
  exact List.dropWhile_suffix _

theorem width_stripEnd_le (t : Text) : width (stripEnd t) ≤ width t := by
  obtain ⟨blanks, ht⟩ := stripEnd_isPrefix t
  conv_rhs => rw [← ht]
  exact width_le_append _ _

theorem layWords_cons {line w : Text} {ws : List Text} {used : Nat} (h : used + width w ≤ size) :
    layWords size overflow line used (w :: ws) =
      layWords size overflow (line ++ w) (used + width w) ws := by
  have hneeded : used + width (stripEnd w) ≤ size :=
    (Nat.add_le_add_left (width_stripEnd_le w) _).trans h
  rw [layWords]
  exact if_pos hneeded

theorem cells_of_head? {t : Text} (h : ∃ c ∈ t.head?, 0 < cells c) {c : Char} (hc : c ∈ t.head?) :
    0 < cells c := by
  obtain ⟨d, hd, hcells⟩ := h
  obtain rfl := Option.some.inj (hc.symm.trans hd)
  exact hcells

/-- Words that fit behind a line are put there. -/
theorem layWords_wordsAfter {line word : Text} {ends : Bool} (t : Text)
    (hfits : width (line ++ word ++ t) ≤ size) (hline : line.getLast? ≠ some joiner)
    (hword : ∃ c ∈ word.head?, 0 < cells c)
    (hends : ends = true → ∃ c ∈ word.getLast?, isBlank c = true)
    (hapart : (word ++ t).IsChain Apart) :
    layWords size overflow line (width line) (wordsAfter word true ends t) =
      [line ++ word ++ t] := by
  induction t generalizing line word ends with
  | nil =>
    rw [List.append_nil] at hfits ⊢
    have hadd := width_append hline fun c hc => cells_of_head? hword hc
    rw [wordsAfter, if_pos rfl, layWords_cons (hadd ▸ hfits), layWords]
  | cons c t ih =>
    have htext : line ++ (word ++ [c]) ++ t = line ++ word ++ c :: t := by simp
    have hword' : ∃ d ∈ (word ++ [c]).head?, 0 < cells d := by
      obtain ⟨d, hd, hcells⟩ := hword
      exact ⟨d, List.mem_head?_append_of_mem_head? hd, hcells⟩
    have hapart' : (word ++ [c] ++ t).IsChain Apart := by rwa [List.append_assoc]
    by_cases hblank : isBlank c = true
    · rw [wordsAfter, if_pos hblank, ← htext]
      refine ih (htext ▸ hfits) hline hword' (fun _ => ⟨c, ?_, hblank⟩) hapart'
      exact List.getLast?_concat
    · cases ends with
      | false =>
        rw [wordsAfter, if_neg hblank, if_neg Bool.false_ne_true, ← htext]
        exact ih (htext ▸ hfits) hline hword' (by exact nofun) hapart'
      | true =>
        -- the word ends in a blank, so that a new word begins
        obtain ⟨d, hd, hdblank⟩ := hends rfl
        obtain ⟨-, happart, hboundary⟩ := List.isChain_append.mp hapart
        have hadd := width_append hline fun c hc => cells_of_head? hword hc
        have hle : width (line ++ word) ≤ size := (width_le_append _ (c :: t)).trans hfits
        have hline' : (line ++ word).getLast? ≠ some joiner := by
          rw [List.getLast?_append, hd]
          rintro ⟨⟩
          exact absurd hdblank (by decide)
        have htext' : line ++ word ++ [c] ++ t = line ++ word ++ c :: t := List.append_assoc ..
        rw [wordsAfter, if_neg hblank, if_pos rfl, layWords_cons (hadd ▸ hle), ← hadd, ← htext']
        exact ih (htext' ▸ hfits) hline' ⟨c, rfl, hboundary d hd c rfl hdblank⟩ (by exact nofun)
          happart

/-- Blanks in front belong to the first word; a text of blanks has no words. -/
theorem layWords_words {word : Text} (t : Text) (hfits : width (word ++ t) ≤ size)
    (hword : ∀ c ∈ (word ++ t).head?, 0 < cells c) (hapart : (word ++ t).IsChain Apart) :
    wordsAfter word false false t = [] ∨
      layWords size overflow [] 0 (wordsAfter word false false t) = [word ++ t] := by
  induction t generalizing word with
  | nil => exact Or.inl rfl
  | cons c t ih =>
    have htext : word ++ [c] ++ t = word ++ c :: t := by rw [List.append_assoc]; rfl
    rw [wordsAfter, ← htext]
    split
    · exact ih (htext ▸ hfits) (htext ▸ hword) (htext ▸ hapart)
    · rw [if_neg Bool.false_ne_true]
      have hhead : ∃ d ∈ (word ++ [c]).head?, 0 < cells d := by
        obtain ⟨d, hd⟩ : ∃ d, (word ++ [c]).head? = some d :=
          ⟨_, List.head?_eq_some_head (List.append_ne_nil_of_right_ne_nil _ (List.cons_ne_nil _ _))⟩
        refine ⟨d, hd, hword d ?_⟩
        rw [← htext]
        exact List.mem_head?_append_of_mem_head? hd
      have hlaid : layWords size overflow [] 0 (wordsAfter (word ++ [c]) true false t) =
          [[] ++ (word ++ [c]) ++ t] :=
        layWords_wordsAfter t (htext ▸ hfits) (by exact nofun) hhead (by exact nofun)
          (htext ▸ hapart)
      exact Or.inr hlaid

/-- A line that fits is not broken. -/
theorem breakLine_of_fits {line : Text} (h : IsSteady line) (hfits : width line ≤ size) :
    breakLine size overflow line = [line] := by
  have hwords : words line = [] ∨ layWords size overflow [] 0 (words line) = [[] ++ line] :=
    layWords_words line hfits h.isSolid.1 h.apart.tail
  rw [breakLine]
  split
  · rfl
  · next hne => exact hwords.resolve_left hne

/-! ## Lines -/

theorem stripEnd_eq_self {t : Text} (h : ∀ c ∈ t.getLast?, isBlank c = false) : stripEnd t = t := by
  rw [stripEnd]
  cases hreverse : t.reverse with
  | nil => rw [List.reverse_eq_nil_iff.mp hreverse]; rfl
  | cons c r =>
    have hc : isBlank c = false := h c (by rw [← List.head?_reverse, hreverse]; rfl)
    rw [List.dropWhile_cons, hc, if_neg Bool.false_ne_true, ← hreverse, List.reverse_reverse]

/-- Blanks at the end of a line that fits stay. -/
theorem trimEnd_of_fits {line : Text} (h : IsSteady line) (hfits : width line ≤ size) :
    trimEnd size line = line := by
  rw [trimEnd]
  by_cases hblank : ∃ c ∈ line.getLast?, isBlank c = true
  · obtain ⟨c, hc, hblank⟩ := hblank
    have hlength : line.length - size = 0 :=
      Nat.sub_eq_zero_of_le ((h.blanks c hc hblank).trans hfits)
    rw [hlength, Nat.min_zero, Nat.sub_zero, List.take_length]
  · have hstrip : stripEnd line = line := by
      refine stripEnd_eq_self fun c hc => ?_
      exact Bool.eq_false_iff.mpr fun hb => hblank ⟨c, hc, hb⟩
    rw [hstrip, Nat.sub_self, Nat.zero_min, Nat.sub_zero, List.take_length]

theorem truncate_of_fits {line : Text} (hfits : width line ≤ size) :
    truncate size overflow line = line := if_pos hfits

theorem expandTabs_eq_self {part : Text} {used : Nat} {t : Text} (h : '\t' ∉ t) :
    expandTabs part used t = part ++ t := by
  induction t generalizing part with
  | nil => rw [expandTabs, List.append_nil]
  | cons c t ih =>
    rw [List.mem_cons, not_or] at h
    rw [expandTabs, if_neg (Ne.symm h.1), ih h.2, List.append_assoc]
    rfl

/-- A text whose lines fit in a column is laid out line by line. -/
theorem columnLines_of_fits {t : Text} (wraps : Bool)
    (h : ∀ line ∈ t.splitOn (· == '\n'), IsSteady line ∧ width line ≤ size) :
    columnLines size wraps t = (t.splitOn (· == '\n')).map (alignLeft size) := by
  rw [columnLines, List.map_eq_flatMap]
  refine List.flatMap_congr fun line hline => ?_
  obtain ⟨hsteady, hfits⟩ := h line hline
  have hlines : (if wraps then breakLine size .ellipsis line else [line]) = [line] := by
    cases wraps with
    | true => exact breakLine_of_fits hsteady hfits
    | false => rfl
  simp only [expandTabs_eq_self hsteady.tabs, List.nil_append]
  rw [hlines, List.map_singleton, trimEnd_of_fits hsteady hfits, truncate_of_fits hfits]

/-- A heading that fits stands on a line of its own. -/
theorem headingLines_of_fits {t : Text} (h : IsSteady t) (hfits : width t ≤ size)
    (hlast : ∀ c ∈ t.getLast?, isBlank c = false) :
    headingLines size t = [alignCenter size t] := by
  rw [headingLines, breakLine_of_fits h hfits, List.map_singleton, trimEnd_of_fits h hfits,
    stripEnd_eq_self hlast, truncate_of_fits hfits]

end SmartQuotes.Console
