import SmartQuotes.Text.Basic

/-!
# Slices between offsets

Between bounds that are not negative a slice is an extract; positions of an extract are those of the
text behind its start.
-/

namespace SmartQuotes.Text

variable {t : Text}

theorem getElem?_extract (a b i : Nat) :
    (t.extract a b)[i]? = if a + i < b then t[a + i]? else none := by
  rw [extract, List.getElem?_drop, List.getElem?_take]

theorem length_extract (a b : Nat) : (t.extract a b).length = min b t.length - a := by
  rw [extract, List.length_drop, List.length_take]

theorem extract_extract {a b c d : Nat} (h : a + d ≤ b) :
    (t.extract a b).extract c d = t.extract (a + c) (a + d) := by
  apply List.ext_getElem?
  intro i
  rw [getElem?_extract, getElem?_extract, getElem?_extract, ← Nat.add_assoc]
  by_cases hi : c + i < d
  · rw [if_pos hi, if_pos (by omega), if_pos (by omega), Nat.add_assoc]
  · rw [if_neg hi, if_neg (by omega)]

theorem extract_drop (n a b : Nat) : extract (t.drop n) a b = t.extract (n + a) (n + b) := by
  rw [extract, extract, List.take_drop, List.drop_drop]

theorem slice_eq_extract {a b : Int} (ha : 0 ≤ a) (hb : 0 ≤ b) :
    t.slice a b = t.extract a.toNat b.toNat := by
  apply List.ext_getElem?
  intro i
  have hbound : ∀ {c : Int}, 0 ≤ c → bound t.length c = min c.toNat t.length := by
    intro c hc
    rw [bound, if_neg (by omega)]
  rw [slice, List.getElem?_take, List.getElem?_drop, getElem?_extract, hbound ha, hbound hb]
  by_cases hi : a.toNat + i < t.length
  · by_cases hib : a.toNat + i < b.toNat
    · rw [if_pos (by omega), if_pos hib, Nat.min_eq_left (by omega)]
    · rw [if_neg (by omega), if_neg hib]
  · rw [if_neg (by omega)]
    split
    · rw [List.getElem?_eq_none (by omega)]
    · rfl

theorem slice_natCast (a b : Nat) : t.slice a b = t.extract a b := by
  rw [slice_eq_extract (by omega) (by omega), Int.toNat_natCast, Int.toNat_natCast]

theorem length_slice {a b : Int} (ha : 0 ≤ a) (hab : a ≤ b) (hb : b ≤ t.length) :
    ((t.slice a b).length : Int) = b - a := by
  rw [slice_eq_extract ha (by omega), length_extract]
  omega

theorem getElem?_slice {a b : Int} (ha : 0 ≤ a) (hb : 0 ≤ b) (i : Nat) :
    (t.slice a b)[i]? = if a + i < b then t[a.toNat + i]? else none := by
  rw [slice_eq_extract ha hb, getElem?_extract]
  congr 1
  rw [eq_iff_iff]
  omega

/-- Where a stretch of a text starts it can be cut out of the text. -/
theorem extract_of_drop_eq_append {k : Nat} {a b : Text} (h : t.drop k = a ++ b) (hne : a ≠ []) :
    k + a.length ≤ t.length ∧ t.extract k (k + a.length) = a ∧ t.drop (k + a.length) = b := by
  have hpos := List.length_pos_iff.mpr hne
  have hlength := congrArg List.length h
  rw [List.length_drop, List.length_append] at hlength
  refine ⟨by omega, ?_, ?_⟩
  · rw [extract, List.drop_take, h, Nat.add_sub_cancel_left, List.take_left]
  · rw [← List.drop_drop, h, List.drop_left]

theorem slice_append_append (a b c : Text) :
    (a ++ (b ++ c)).slice a.length (a.length + b.length : Nat) = b := by
  rw [slice_natCast, extract, List.drop_take, List.drop_left, Nat.add_sub_cancel_left,
    List.take_left]

theorem slice_append_drop {a b : Nat} (h : a ≤ b) : t.slice a b ++ t.drop b = t.drop a := by
  rw [slice_natCast, extract, List.drop_take]
  have hdrop : t.drop b = (t.drop a).drop (b - a) := by
    rw [List.drop_drop, Nat.add_sub_cancel' h]
  rw [hdrop, List.take_append_drop]

/-- A slice of a slice. -/
theorem extract_slice {a b : Int} (ha : 0 ≤ a) {c d : Nat} (h : a + d ≤ b) :
    (t.slice a b).extract c d = t.slice (a + c) (a + d) := by
  rw [slice_eq_extract ha (by omega), slice_eq_extract (by omega) (by omega),
    extract_extract (by omega)]
  congr 1 <;> omega

end SmartQuotes.Text
