import SmartQuotes.Proofs.Text.Slice
import SmartQuotes.Text.Position

/-!
# Offsets and places in lines

An offset of a text and its line and column determine each other. Both directions go along the text:
behind a character the line and the column of an offset are those in the rest of the text, with the
line counted up behind a line feed, and the column only in the first line behind any other character.
-/

namespace SmartQuotes.Text

variable {t : Text}

/-- The lines of a text, without the line feeds that end them. -/
def lines (t : Text) : List Text := t.splitOn (· = '\n')

theorem lines_nil : lines [] = [[]] := rfl

theorem lines_lineFeed (t : Text) : lines ('\n' :: t) = [] :: lines t := rfl

theorem lines_ne_nil (t : Text) : lines t ≠ [] := by
  cases t with
  | nil => exact List.cons_ne_nil _ _
  | cons c t =>
    rw [lines, splitOn]
    split
    · exact List.cons_ne_nil _ _
    · split <;> exact List.cons_ne_nil _ _

/-- A character that ends no line stands at the front of the first one. -/
theorem exists_lines_cons {c : Char} (hc : c ≠ '\n') (t : Text) :
    ∃ line rest, lines t = line :: rest ∧ lines (c :: t) = (c :: line) :: rest := by
  obtain ⟨line, rest, h⟩ := List.exists_cons_of_ne_nil (lines_ne_nil t)
  refine ⟨line, rest, h, ?_⟩
  rw [lines] at h
  rw [lines, splitOn, if_neg (by simpa using hc), h]

/-! ## From an offset to its line and column -/

theorem lineColumn_natCast (t : Text) (i : Nat) :
    t.lineColumn i = ((t.take i).count '\n' + 1,
      match lastLineFeed (t.take i) with
      | none => (i : Int) + 1
      | some k => (i : Int) - k) := by
  have hbefore : t.slice 0 i = t.take i := slice_natCast 0 i
  rw [← hbefore]
  rfl

theorem lineColumn_zero (t : Text) : t.lineColumn 0 = (1, 1) := lineColumn_natCast t 0

theorem lastLineFeed_eq_none_iff : lastLineFeed t = none ↔ t.count '\n' = 0 := by
  induction t with
  | nil => simp [lastLineFeed]
  | cons c t ih =>
    rw [lastLineFeed, List.count_cons]
    cases h : lastLineFeed t with
    | none =>
      rw [h] at ih
      by_cases hc : c = '\n' <;> simp [hc, ih.mp]
    | some k =>
      have hcount : t.count '\n' ≠ 0 := by
        rw [Ne, ← ih, h]
        exact nofun
      exact iff_of_false nofun fun hzero => hcount (Nat.eq_zero_of_add_eq_zero_right hzero)

theorem lineColumn_cons (c : Char) (t : Text) (i : Nat) :
    lineColumn (c :: t) (i + 1 : Nat) =
      if c = '\n' then ((t.lineColumn i).1 + 1, (t.lineColumn i).2)
      else if (t.lineColumn i).1 = 1 then (1, (t.lineColumn i).2 + 1)
      else t.lineColumn i := by
  rw [lineColumn_natCast, lineColumn_natCast, List.take_succ_cons, List.count_cons, lastLineFeed]
  have hnone := lastLineFeed_eq_none_iff (t := t.take i)
  cases h : lastLineFeed (t.take i) with
  | none =>
    rw [hnone.mp h]
    by_cases hc : c = '\n'
    · simp [hc]
    · simp [hc]
  | some k =>
    have hcount : (t.take i).count '\n' ≠ 0 := by
      rw [Ne, ← hnone, h]
      exact nofun
    have hcolumn : ((i + 1 : Nat) : Int) - (k + 1 : Nat) = i - k := by omega
    simp only [hcolumn]
    by_cases hc : c = '\n'
    · simp [hc]
    · simp [hc, hcount]

theorem one_le_line (t : Text) (i : Nat) : 1 ≤ (t.lineColumn i).1 := by
  rw [lineColumn_natCast]
  exact Nat.le_add_left 1 _

theorem column_of_line_one {i : Nat} (h : (t.lineColumn i).1 = 1) : (t.lineColumn i).2 = i + 1 := by
  rw [lineColumn_natCast] at h ⊢
  have hnone := lastLineFeed_eq_none_iff.mpr (Nat.succ.inj h)
  simp only [hnone]

/-- The first place stands in an earlier line, or in front of the second one in the same line. -/
def PlaceLt (p q : Nat × Int) : Prop := p.1 < q.1 ∨ (p.1 = q.1 ∧ p.2 < q.2)

theorem PlaceLt.irrefl (p : Nat × Int) : ¬ PlaceLt p p := by
  rintro (h | ⟨-, h⟩)
  · exact Nat.lt_irrefl _ h
  · exact Int.lt_irrefl _ h

/-- Further to the right in a text means further on in a line or in a later line. -/
theorem lineColumn_lt {i j : Nat} (hij : i < j) (hj : j ≤ t.length) :
    PlaceLt (t.lineColumn i) (t.lineColumn j) := by
  induction t generalizing i j with
  | nil => exact absurd hj (by simp; omega)
  | cons c t ih =>
    obtain ⟨j, rfl⟩ : ∃ k, j = k + 1 := ⟨j - 1, by omega⟩
    have hj' : j ≤ t.length := Nat.le_of_succ_le_succ hj
    cases i with
    | zero =>
      have hzero : lineColumn (c :: t) (0 : Nat) = (1, 1) := lineColumn_zero _
      rw [hzero]
      by_cases hline : (lineColumn (c :: t) (j + 1 : Nat)).1 = 1
      · right
        refine ⟨hline.symm, ?_⟩
        rw [column_of_line_one hline]
        dsimp only
        omega
      · left
        have := one_le_line (c :: t) (j + 1)
        dsimp only
        omega
    | succ i =>
      have hlt := ih (Nat.lt_of_succ_lt_succ hij) hj'
      have hi := one_le_line t i
      rw [lineColumn_cons, lineColumn_cons]
      unfold PlaceLt at hlt ⊢
      by_cases hc : c = '\n'
      · rw [if_pos hc, if_pos hc]
        dsimp only
        omega
      · rw [if_neg hc, if_neg hc]
        by_cases hiline : (lineColumn t i).1 = 1
        · by_cases hjline : (lineColumn t j).1 = 1
          · rw [if_pos hiline, if_pos hjline]
            dsimp only
            omega
          · rw [if_pos hiline, if_neg hjline]
            dsimp only
            omega
        · rw [if_neg hiline, if_neg (by omega)]
          exact hlt

theorem lineColumn_inj {i j : Nat} (hi : i ≤ t.length) (hj : j ≤ t.length)
    (h : t.lineColumn i = t.lineColumn j) : i = j := by
  rcases Nat.lt_trichotomy i j with hlt | heq | hgt
  · exact absurd (lineColumn_lt hlt hj) (h ▸ PlaceLt.irrefl _)
  · exact heq
  · exact absurd (lineColumn_lt hgt hi) (h ▸ PlaceLt.irrefl _)

/-- An offset stands in a line that there is, and not behind the end of this line. -/
theorem exists_line_of_le {i : Nat} (hi : i ≤ t.length) :
    ∃ n column : Nat, ∃ line, t.lineColumn i = (n + 1, (column : Int) + 1) ∧
      (lines t)[n]? = some line ∧ column ≤ line.length := by
  induction t generalizing i with
  | nil =>
    obtain rfl : i = 0 := Nat.le_zero.mp hi
    exact ⟨0, 0, [], lineColumn_zero [], rfl, Nat.le_refl _⟩
  | cons c t ih =>
    cases i with
    | zero =>
      obtain ⟨line, rest, hlines⟩ := List.exists_cons_of_ne_nil (lines_ne_nil (c :: t))
      exact ⟨0, 0, line, lineColumn_zero _, by rw [hlines]; rfl, Nat.zero_le _⟩
    | succ i =>
      obtain ⟨n, column, line, hplace, hline, hcolumn⟩ := ih (Nat.le_of_succ_le_succ hi)
      rw [lineColumn_cons, hplace]
      by_cases hc : c = '\n'
      · subst hc
        exact ⟨n + 1, column, line, rfl, hline, hcolumn⟩
      · obtain ⟨head, rest, hrest, hcons⟩ := exists_lines_cons hc t
        rw [if_neg hc, hcons]
        rw [hrest] at hline
        cases n with
        | zero =>
          obtain rfl : head = line := Option.some.inj hline
          exact ⟨0, column + 1, c :: head, rfl, rfl, Nat.succ_le_succ hcolumn⟩
        | succ n => exact ⟨n + 1, column, line, rfl, hline, hcolumn⟩

/-! ## From a line and a column to the offset -/

theorem offsetOf_one (t : Text) (column : Int) : t.offsetOf 1 column = min column t.length := by
  simp [offsetOf, afterLineFeeds]

theorem offsetOf_lineFeed (t : Text) (n : Nat) (column : Int) :
    offsetOf ('\n' :: t) ((n + 1 : Nat) + 1) column = offsetOf t (n + 1) column + 1 := by
  have hn : (((n + 1 : Nat) : Int) + 1 - 1).toNat = n + 1 := by omega
  have hn' : ((n : Int) + 1 - 1).toNat = n := by omega
  rw [offsetOf, offsetOf, hn, hn', afterLineFeeds, if_pos rfl]
  cases afterLineFeeds n t with
  | none => simp
  | some k => simp; omega

theorem offsetOf_cons {c : Char} (hc : c ≠ '\n') (t : Text) (n : Nat) (column : Int) :
    offsetOf (c :: t) ((n + 1 : Nat) + 1) column = offsetOf t ((n + 1 : Nat) + 1) column + 1 := by
  have hn : (((n + 1 : Nat) : Int) + 1 - 1).toNat = n + 1 := by omega
  rw [offsetOf, offsetOf, hn, afterLineFeeds, if_neg hc]
  cases afterLineFeeds (n + 1) t with
  | none => simp
  | some k => simp; omega

/-- A column of a line that there is stands at an offset of the text. -/
theorem exists_offsetOf {n column : Nat} {line : Text} (hline : (lines t)[n]? = some line)
    (hcolumn : column ≤ line.length) :
    ∃ i : Nat, t.offsetOf (n + 1) column = i ∧ i ≤ t.length ∧
      t.lineColumn i = (n + 1, (column : Int) + 1) := by
  induction t generalizing n column line with
  | nil =>
    rw [lines_nil] at hline
    obtain ⟨rfl, rfl⟩ : n = 0 ∧ line = [] := by
      cases n with
      | zero => exact ⟨rfl, (Option.some.inj hline).symm⟩
      | succ n => exact nomatch hline
    obtain rfl : column = 0 := Nat.le_zero.mp hcolumn
    exact ⟨0, rfl, Nat.le_refl 0, lineColumn_zero []⟩
  | cons c t ih =>
    by_cases hc : c = '\n'
    · subst hc
      rw [lines_lineFeed] at hline
      cases n with
      | zero =>
        obtain rfl : line = [] := (Option.some.inj hline).symm
        obtain rfl : column = 0 := Nat.le_zero.mp hcolumn
        exact ⟨0, rfl, Nat.zero_le _, lineColumn_zero _⟩
      | succ n =>
        obtain ⟨i, hoffset, hi, hplace⟩ := ih hline hcolumn
        refine ⟨i + 1, ?_, Nat.succ_le_succ hi, ?_⟩
        · rw [offsetOf_lineFeed, hoffset, Int.natCast_succ]
        · rw [lineColumn_cons, if_pos rfl, hplace]
    · obtain ⟨head, rest, hrest, hcons⟩ := exists_lines_cons hc t
      rw [hcons] at hline
      rw [hrest] at ih
      cases n with
      | zero =>
        obtain rfl : line = c :: head := (Option.some.inj hline).symm
        cases column with
        | zero => exact ⟨0, offsetOf_one _ 0, Nat.zero_le _, lineColumn_zero _⟩
        | succ column =>
          obtain ⟨i, hoffset, hi, hplace⟩ := ih (n := 0) rfl (Nat.le_of_succ_le_succ hcolumn)
          refine ⟨i + 1, ?_, Nat.succ_le_succ hi, ?_⟩
          · have hone : ((0 : Nat) : Int) + 1 = 1 := rfl
            rw [hone, offsetOf_one] at hoffset ⊢
            rw [List.length_cons]
            omega
          · rw [lineColumn_cons, if_neg hc, hplace, if_pos rfl, Int.natCast_succ]
      | succ n =>
        obtain ⟨i, hoffset, hi, hplace⟩ := ih (n := n + 1) hline hcolumn
        refine ⟨i + 1, ?_, Nat.succ_le_succ hi, ?_⟩
        · rw [offsetOf_cons hc, hoffset, Int.natCast_succ]
        · rw [lineColumn_cons, if_neg hc, hplace, if_neg (by simp)]

/-- An offset is found again from its line and column. -/
theorem offsetOf_lineColumn {i : Nat} (hi : i ≤ t.length) :
    t.offsetOf (t.lineColumn i).1 ((t.lineColumn i).2 - 1) = i := by
  obtain ⟨n, column, line, hplace, hline, hcolumn⟩ := exists_line_of_le hi
  obtain ⟨j, hoffset, hj, hplace'⟩ := exists_offsetOf hline hcolumn
  obtain rfl := lineColumn_inj hj hi (hplace'.trans hplace.symm)
  rw [hplace, Int.add_sub_cancel]
  exact hoffset

theorem lineColumn_offsetOf {n column : Nat} {line : Text} (hline : (lines t)[n]? = some line)
    (hcolumn : column ≤ line.length) :
    t.lineColumn (t.offsetOf (n + 1) column) = (n + 1, (column : Int) + 1) := by
  obtain ⟨i, hoffset, -, hplace⟩ := exists_offsetOf hline hcolumn
  rw [hoffset, hplace]

end SmartQuotes.Text
