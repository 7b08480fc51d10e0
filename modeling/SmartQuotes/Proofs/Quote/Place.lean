import Mathlib.Tactic.Ring
import SmartQuotes.Proofs.Quote.Cover
import SmartQuotes.Quote.Conversion

/-!
# Places in a converted text

Conversion puts marks in the place of quotes, so that the characters behind a mark move by the
growth of the text. `Family.gain` is the growth of a stretch of text; `Family.place` is the place of
a character in the converted text. Shifting moves each excluded span by the gain in front of it
(`shift_eq_map`), and since no quote inside a span is converted, the shifted spans cover the places
of the covered characters and of no others (`covered_shift`).
-/

namespace SmartQuotes.Family

variable (f : Family)

/-! ## Conversion of stretches -/

/-- Whether the next quote behind a stretch becomes an opening mark. -/
def turn (open_ : Bool) : List (Bool × Char) → Bool
  | [] => open_
  | m :: rest => turn (if f.converts m then !open_ else open_) rest

theorem curl_append (open_ : Bool) (a b : List (Bool × Char)) :
    f.curl open_ (a ++ b) = f.curl open_ a ++ f.curl (f.turn open_ a) b := by
  induction a generalizing open_ with
  | nil => rfl
  | cons m a ih =>
    simp only [List.cons_append, curl, turn]
    split
    · rw [ih, List.append_assoc]
    · rw [ih, List.cons_append]

theorem turn_append (open_ : Bool) (a b : List (Bool × Char)) :
    f.turn open_ (a ++ b) = f.turn (f.turn open_ a) b := by
  induction a generalizing open_ with
  | nil => rfl
  | cons m a ih => exact ih _

variable {f} in
theorem curl_of_none {l : List (Bool × Char)} (h : ∀ m ∈ l, f.converts m = false) (open_ : Bool) :
    f.curl open_ l = l.map (·.2) := by
  induction l with
  | nil => rfl
  | cons m l ih =>
    rw [curl, h m (by simp), if_neg (by simp), ih fun n hn => h n (by simp [hn]), List.map_cons]

variable {f} in
theorem turn_of_none {l : List (Bool × Char)} (h : ∀ m ∈ l, f.converts m = false) (open_ : Bool) :
    f.turn open_ l = open_ := by
  induction l with
  | nil => rfl
  | cons m l ih =>
    rw [turn, h m (by simp), if_neg (by simp), ih fun n hn => h n (by simp [hn])]

variable {f} in
/-- Only a quote outside the excluded spans is converted. -/
theorem none_of_not_occurs {q : Char} (hq : f.quote = [q]) {t : Text} {trim : Int}
    {excluded : List Span} (h : f.occurs t excluded = false) :
    ∀ m ∈ t.scope trim excluded, f.converts m = false := by
  intro m hm
  by_contra hc
  simp only [converts, hq, Bool.not_eq_false, Bool.and_eq_true, beq_iff_eq, List.cons.injEq,
    and_true] at hc
  have hmem := Text.mem_uncovered_of_mem_scope hm hc.1
  rw [hc.2, ← Text.occursIn_singleton] at hmem
  rw [occurs, hq, hmem] at h
  exact Bool.noConfusion h

variable {f} in
/-- A text in which the quote does not occur is its own conversion. -/
theorem convert_eq_curl {q : Char} (hq : f.quote = [q]) (t : Text) (trim : Int)
    (excluded : List Span) :
    f.convert t trim excluded = f.curl true (t.scope trim excluded) := by
  rw [convert]
  split
  · rfl
  · next hoccurs =>
    rw [curl_of_none (none_of_not_occurs hq (by simpa using hoccurs)), Text.map_snd_scope]

/-! ## Gains -/

/-- By how much conversion lengthens a stretch. -/
def gain (open_ : Bool) (l : List (Bool × Char)) : Int := (f.curl open_ l).length - l.length

@[simp] theorem gain_nil (open_ : Bool) : f.gain open_ [] = 0 := rfl

theorem gain_append (open_ : Bool) (a b : List (Bool × Char)) :
    f.gain open_ (a ++ b) = f.gain open_ a + f.gain (f.turn open_ a) b := by
  simp only [gain, curl_append, List.length_append, Int.natCast_add]
  omega

variable {f} in
theorem gain_cons_of_converts {m : Bool × Char} (h : f.converts m = true) (open_ : Bool)
    (l : List (Bool × Char)) :
    f.gain open_ (m :: l) = ((f.mark open_).length - 1) + f.gain (!open_) l := by
  simp only [gain, curl, h, if_true, List.length_append, List.length_cons, Int.natCast_add]
  omega

variable {f} in
theorem gain_cons_of_not_converts {m : Bool × Char} (h : f.converts m = false) (open_ : Bool)
    (l : List (Bool × Char)) : f.gain open_ (m :: l) = f.gain open_ l := by
  simp only [gain, curl, h, Bool.false_eq_true, if_false, List.length_cons]
  omega

variable {f} in
theorem gain_of_none {l : List (Bool × Char)} (h : ∀ m ∈ l, f.converts m = false) (open_ : Bool) :
    f.gain open_ l = 0 := by
  rw [gain, curl_of_none h, List.length_map]
  omega

theorem neg_length_le_gain (open_ : Bool) (l : List (Bool × Char)) :
    -(l.length : Int) ≤ f.gain open_ l := by
  simp only [gain]
  omega

/-- The gain of a scope in front of position `x`. -/
def gainTo (l : List (Bool × Char)) (x : Int) : Int := f.gain true (l.take x.toNat)

theorem take_toNat_eq_append (l : List (Bool × Char)) {x y : Int} (h : x ≤ y) :
    l.take y.toNat = l.take x.toNat ++ (l.drop x.toNat).take (y.toNat - x.toNat) := by
  have hxy : x.toNat ≤ y.toNat := Int.toNat_le_toNat h
  rw [← List.take_add, Nat.add_sub_cancel' hxy]

/-- Positions stay in order when they are moved by the gain in front of them. -/
theorem add_gainTo_mono (l : List (Bool × Char)) {x y : Int} (h : x ≤ y) :
    x + f.gainTo l x ≤ y + f.gainTo l y := by
  rw [gainTo, gainTo, take_toNat_eq_append l h, gain_append]
  have hgain := f.neg_length_le_gain (f.turn true (l.take x.toNat))
    ((l.drop x.toNat).take (y.toNat - x.toNat))
  have hlen : ((l.drop x.toNat).take (y.toNat - x.toNat)).length ≤ y.toNat - x.toNat :=
    List.length_take_le _ _
  omega

variable {f} in
/-- Where nothing is converted between two positions their gains are equal. -/
theorem gainTo_eq_of_none {l : List (Bool × Char)} {x y : Int} (h : x ≤ y)
    (hnone : ∀ (k : Nat) (hk : k < l.length), x ≤ k → k < y → f.converts l[k] = false) :
    f.gainTo l y = f.gainTo l x := by
  have hbetween : ∀ m ∈ (l.drop x.toNat).take (y.toNat - x.toNat), f.converts m = false := by
    intro m hm
    obtain ⟨k, hk, rfl⟩ := List.mem_iff_getElem.mp hm
    rw [List.length_take, List.length_drop] at hk
    rw [List.getElem_take, List.getElem_drop]
    exact hnone (x.toNat + k) (by omega) (by omega) (by omega)
  rw [gainTo, take_toNat_eq_append l h, gain_append, gain_of_none hbetween, Int.add_zero, gainTo]

/-! ## Places -/

/-- The place of position `k` of a scope in the converted text. -/
def place (l : List (Bool × Char)) (k : Nat) : Nat := (f.curl true (l.take k)).length

theorem place_eq {l : List (Bool × Char)} {k : Nat} (hk : k ≤ l.length) :
    (f.place l k : Int) = k + f.gainTo l k := by
  simp only [place, gainTo, gain, Int.toNat_natCast, List.length_take]
  omega

theorem place_mono {l : List (Bool × Char)} {j k : Nat} (hjk : j ≤ k) (hk : k ≤ l.length) :
    f.place l j ≤ f.place l k := by
  have h := f.add_gainTo_mono l (x := j) (y := k) (by omega)
  rw [← place_eq f hk, ← place_eq f (Nat.le_trans hjk hk)] at h
  omega

variable {f} in
/-- A character that is not converted takes one place. -/
theorem place_succ_of_not_converts {l : List (Bool × Char)} {k : Nat} (hk : k < l.length)
    (h : f.converts l[k] = false) : f.place l (k + 1) = f.place l k + 1 := by
  have hgain : f.gainTo l ((k : Int) + 1) = f.gainTo l k := by
    refine gainTo_eq_of_none (by omega) fun j hj hkj hjk => ?_
    obtain rfl : j = k := by omega
    exact h
  have hk0 := place_eq f (Nat.le_of_lt hk)
  have hk1 := place_eq f (l := l) (k := k + 1) hk
  rw [Int.natCast_add, Int.natCast_one, hgain] at hk1
  omega

variable {f} in
/-- A margin of which nothing is converted keeps its width in front. -/
theorem le_place_iff {l : List (Bool × Char)} {k w : Nat} (hk : k < l.length)
    (hlow : ∀ (j : Nat) (hj : j < l.length), j < w → f.converts l[j] = false) :
    w ≤ f.place l k ↔ w ≤ k := by
  have unmoved : ∀ n ≤ w, n ≤ l.length → f.place l n = n := by
    intro n hn hlen
    have hgain : f.gainTo l n = f.gainTo l 0 :=
      gainTo_eq_of_none (by omega) fun j hj _ hjn => hlow j hj (by omega)
    have hzero : f.gainTo l 0 = 0 := rfl
    have := f.place_eq hlen
    omega
  rcases Nat.lt_or_ge k w with h | h
  · rw [unmoved k (by omega) (by omega)]
  · have hmono := f.place_mono h (Nat.le_of_lt hk)
    rw [unmoved w (Nat.le_refl _) (by omega)] at hmono
    omega

variable {f} in
/-- A margin of which nothing is converted keeps its width behind. -/
theorem place_add_lt_iff {l : List (Bool × Char)} {k w : Nat} (hk : k < l.length)
    (hkeep : f.converts l[k] = false)
    (hhigh : ∀ (j : Nat) (hj : j < l.length), l.length ≤ j + w → f.converts l[j] = false) :
    f.place l k + w < (f.curl true l).length ↔ k + w < l.length := by
  have hend : f.place l l.length = (f.curl true l).length := by rw [place, List.take_length]
  have margin : ∀ n ≤ l.length, l.length ≤ n + w →
      f.place l n + (l.length - n) = (f.curl true l).length := by
    intro n hn hlen
    have hgain : f.gainTo l l.length = f.gainTo l n :=
      gainTo_eq_of_none (by omega) fun j hj hnj _ => hhigh j hj (by omega)
    have h1 := f.place_eq hn
    have h2 := f.place_eq (Nat.le_refl l.length)
    omega
  rcases Nat.lt_or_ge (k + w) l.length with h | h
  · have h1 := f.place_mono (l := l) (j := k + 1) (k := l.length - w) (by omega) (by omega)
    have h2 := margin (l.length - w) (by omega) (by omega)
    rw [place_succ_of_not_converts hk hkeep] at h1
    omega
  · have := margin k (by omega) h
    omega

/-! ## Gains by number -/

/-- The growth of a text of which `n` quotes are converted. -/
def gainOf (n : Nat) : Int :=
  ((n + 1) / 2 : Nat) * ((f.opening.length : Int) - 1) + (n / 2 : Nat) * ((f.closing.length : Int) - 1)

/-- Conversion that starts with a closing mark gains what one with exchanged marks does. -/
theorem gain_eq (l : List (Bool × Char)) :
    f.gain true l = f.gainOf (l.countP f.converts) ∧
      f.gain false l = gainOf ⟨f.quote, f.closing, f.opening⟩ (l.countP f.converts) := by
  induction l with
  | nil => exact ⟨by simp [gainOf], by simp [gainOf]⟩
  | cons m l ih =>
    by_cases hm : f.converts m = true
    · rw [gain_cons_of_converts hm, gain_cons_of_converts hm, List.countP_cons_of_pos hm]
      simp only [Bool.not_true, Bool.not_false, ih, gainOf, mark, if_true, Bool.false_eq_true,
        if_false]
      have hhalf : (l.countP f.converts + 1 + 1) / 2 = l.countP f.converts / 2 + 1 := by omega
      rw [hhalf]
      push_cast
      constructor <;> ring
    · have hm' : f.converts m = false := by simpa using hm
      rw [gain_cons_of_not_converts hm', gain_cons_of_not_converts hm',
        List.countP_cons_of_neg hm]
      exact ih

/-- The lengths of marks of which some opening and closing ones gain nothing together. -/
def Cancels : Prop :=
  (f.opening.length = 2 ∧ f.closing.length = 0) ∨ (f.opening.length = 0 ∧ f.closing.length = 2) ∨
    (f.opening.length = 0 ∧ f.closing.length = 3)

/-- If nothing is gained in the end, then nothing is gained on the way, or marks cancel out and one
place is gained or lost on the way. -/
theorem gainOf_of_gainOf_eq_zero {n k : Nat} (h : f.gainOf n = 0) (hk : k ≤ n) :
    f.gainOf k = 0 ∨ (f.Cancels ∧ -1 ≤ f.gainOf k ∧ f.gainOf k ≤ 1) := by
  simp only [gainOf, Cancels] at h ⊢
  generalize f.opening.length = o at h ⊢
  generalize f.closing.length = c at h ⊢
  match o, c with
  | 0, 0 | 0, 1 | 0, 2 | 0, 3 | 1, 0 | 1, 1 | 2, 0 => omega
  | 0, c + 4 =>
    have : ((n / 2 : Nat) : Int) * 3 ≤ (n / 2 : Nat) * (((c + 4 : Nat) : Int) - 1) :=
      Int.mul_le_mul_of_nonneg_left (by omega) (by omega)
    have hone : n / 2 = 0 → ((n / 2 : Nat) : Int) * (((c + 4 : Nat) : Int) - 1) = 0 := by
      intro hn
      rw [hn, Int.natCast_zero, Int.zero_mul]
    have hk0 : k = 0 := by omega
    subst hk0
    simp
  | 1, c + 2 =>
    have : ((n / 2 : Nat) : Int) * 1 ≤ (n / 2 : Nat) * (((c + 2 : Nat) : Int) - 1) :=
      Int.mul_le_mul_of_nonneg_left (by omega) (by omega)
    have hk0 : k / 2 = 0 := by omega
    simp [hk0]
  | o + 3, 0 =>
    have : (((n + 1) / 2 : Nat) : Int) * 2 ≤ ((n + 1) / 2 : Nat) * (((o + 3 : Nat) : Int) - 1) :=
      Int.mul_le_mul_of_nonneg_left (by omega) (by omega)
    have hk0 : k = 0 := by omega
    subst hk0
    simp
  | o + 2, c + 1 =>
    have h1 : (((n + 1) / 2 : Nat) : Int) * 1 ≤ ((n + 1) / 2 : Nat) * (((o + 2 : Nat) : Int) - 1) :=
      Int.mul_le_mul_of_nonneg_left (by omega) (by omega)
    have h2 : 0 ≤ ((n / 2 : Nat) : Int) * (((c + 1 : Nat) : Int) - 1) :=
      Int.mul_nonneg (by omega) (by omega)
    have hk0 : k = 0 := by omega
    subst hk0
    simp

/-! ## Shifted spans -/

theorem pass_of_le {start : Int} {i : Nat} (h : start ≤ i) (open_ : Bool) (total total' : Int)
    (l : List (Bool × Char)) :
    pass start total (f.growth open_ total' i l) = (total, f.growth open_ total' i l) := by
  induction l generalizing i with
  | nil => rfl
  | cons m l ih =>
    simp only [growth]
    split
    · rw [pass, if_neg (by omega)]
    · exact ih (by omega)

/-- Passing the quotes in front of a position adds up their gain. -/
theorem pass_growth (start : Int) (open_ : Bool) (total : Int) (i : Nat)
    (l : List (Bool × Char)) :
    let front := l.take (start - i).toNat
    pass start total (f.growth open_ total i l) =
      (total + f.gain open_ front,
        f.growth (f.turn open_ front) (total + f.gain open_ front) (i + front.length)
          (l.drop (start - i).toNat)) := by
  induction l generalizing open_ total i with
  | nil => simp [growth, pass]
  | cons m l ih =>
    by_cases hstart : start ≤ i
    · have hzero : (start - i).toNat = 0 := by omega
      simp only [pass_of_le f hstart, hzero, List.take_zero, List.drop_zero, gain_nil, turn,
        Int.add_zero, List.length_nil, Nat.add_zero]
    · have hsucc : (start - i).toNat = (start - (i + 1 : Nat)).toNat + 1 := by omega
      simp only [hsucc, List.take_succ_cons, List.drop_succ_cons, List.length_cons]
      by_cases hm : f.converts m = true
      · rw [growth, if_pos hm]
        simp only
        rw [pass, if_pos (by omega), ih, gain_cons_of_converts hm, turn, if_pos hm]
        simp only [Int.add_assoc, Nat.add_assoc, Nat.add_comm 1]
      · have hm' : f.converts m = false := by simpa using hm
        rw [growth, if_neg hm, ih, gain_cons_of_not_converts hm', turn, if_neg hm]
        simp only [Nat.add_assoc, Nat.add_comm 1]

/-- A span moved by the gain in front of it. -/
def moved (l : List (Bool × Char)) (s : Span) : Span :=
  ⟨s.start + f.gainTo l s.start, s.stop + f.gainTo l s.start⟩

/-- `n` characters have been passed, none of them behind the start of a span. -/
theorem move_growth (l : List (Bool × Char)) {spans : List Span} {n : Nat} (hn : n ≤ l.length)
    (hsorted : Span.Ascending spans) (hfront : ∀ s ∈ spans, n ≤ s.start.toNat) :
    move (f.gain true (l.take n))
      (f.growth (f.turn true (l.take n)) (f.gain true (l.take n)) n (l.drop n)) spans =
      spans.map (f.moved l) := by
  induction spans generalizing n with
  | nil => rfl
  | cons s spans ih =>
    have hns : n ≤ s.start.toNat := hfront s (by simp)
    obtain ⟨hs, hspans⟩ := List.pairwise_cons.mp hsorted
    -- everything in front of the span, cut at the end of the text
    let k := min s.start.toNat l.length
    have hsplit : l.take k = l.take n ++ (l.drop n).take (s.start - n).toNat := by
      rw [← List.take_add, List.take_eq_take_iff]
      simp only [k]
      omega
    have hdrop : (l.drop n).drop (s.start - n).toNat = l.drop k := by
      rw [List.drop_drop]
      simp only [k]
      by_cases hlen : s.start.toNat ≤ l.length
      · congr 1
        omega
      · rw [List.drop_eq_nil_of_le (by omega), List.drop_eq_nil_of_le (by omega)]
    have hgain : f.gain true (l.take n) +
        f.gain (f.turn true (l.take n)) ((l.drop n).take (s.start - n).toNat) =
        f.gain true (l.take k) := by
      rw [hsplit, gain_append]
    have hturn : f.turn (f.turn true (l.take n)) ((l.drop n).take (s.start - n).toNat) =
        f.turn true (l.take k) := by
      rw [hsplit, turn_append]
    have hlength : n + ((l.drop n).take (s.start - n).toNat).length = k := by
      simp only [List.length_take, List.length_drop, k]
      omega
    have hto : f.gain true (l.take k) = f.gainTo l s.start := by
      rw [gainTo]
      congr 1
      rw [List.take_eq_take_iff]
      omega
    have hpass := f.pass_growth s.start (f.turn true (l.take n)) (f.gain true (l.take n)) n
      (l.drop n)
    simp only [hgain, hturn, hdrop, hlength] at hpass
    simp only [move, hpass, List.map_cons, moved, ← hto]
    congr 1
    refine ih (Nat.min_le_right _ _) hspans fun t ht => ?_
    have := Int.toNat_le_toNat (hs t ht)
    omega

variable {f}

theorem moved_of_none {l : List (Bool × Char)} (h : ∀ m ∈ l, f.converts m = false) (s : Span) :
    f.moved l s = s := by
  have hgain : f.gainTo l s.start = 0 :=
    gain_of_none (fun m hm => h m (List.mem_of_mem_take hm)) true
  rw [moved, hgain, Int.add_zero, Int.add_zero]

/-- Shifting moves each span by the gain in front of it. -/
theorem shift_eq_map {q : Char} (hq : f.quote = [q]) {excluded : List Span}
    (h : Span.Ascending excluded) (t : Text) (trim : Int) :
    f.shift t trim excluded = excluded.map (f.moved (t.scope trim excluded)) := by
  rw [shift]
  split
  · exact f.move_growth (t.scope trim excluded) (n := 0) (Nat.zero_le _) h
      (fun _ _ => Nat.zero_le _)
  · next hoccurs =>
    have hnone : ∀ m ∈ t.scope trim excluded, f.converts m = false :=
      none_of_not_occurs hq (by simpa using hoccurs)
    rw [List.map_congr_left (fun s _ => moved_of_none hnone s), List.map_id']

theorem ordered_map_moved (l : List (Bool × Char)) {excluded : List Span}
    (h : Span.Ordered excluded)
    (hnone : ∀ (k : Nat) (hk : k < l.length), Span.covered excluded k = true →
      f.converts l[k] = false) : Span.Ordered (excluded.map (f.moved l)) := by
  rw [Span.Ordered, List.pairwise_map]
  refine h.imp_of_mem fun {a b} ha hb hab => ⟨f.add_gainTo_mono l hab.1, ?_⟩
  simp only [moved]
  rcases Int.le_total a.start a.stop with hle | hle
  · have hgain : f.gainTo l a.stop = f.gainTo l a.start :=
      gainTo_eq_of_none hle fun k hk hstart hstop =>
        hnone k hk (Span.covered_iff.mpr ⟨a, ha, hstart, hstop⟩)
    have := f.add_gainTo_mono l hab.2
    omega
  · have := f.add_gainTo_mono l hab.1
    omega

/-- Moved spans cover the places that covered characters take and no others. -/
theorem covered_map_moved {l : List (Bool × Char)} {excluded : List Span}
    (hnone : ∀ (k : Nat) (hk : k < l.length), Span.covered excluded k = true →
      f.converts l[k] = false)
    {k p : Nat} (hk : k < l.length) (hlow : f.place l k ≤ p) (hhigh : p < f.place l (k + 1)) :
    Span.covered (excluded.map (f.moved l)) p = Span.covered excluded k := by
  have hplace := f.place_eq (Nat.le_of_lt hk)
  have hnext := f.place_eq (l := l) (k := k + 1) hk
  rw [Bool.eq_iff_iff, Span.covered_iff, Span.covered_iff]
  constructor
  · rintro ⟨s', hs', hstart, hstop⟩
    obtain ⟨s, hs, rfl⟩ := List.mem_map.mp hs'
    simp only [moved] at hstart hstop
    refine ⟨s, hs, ?_, ?_⟩
    · by_contra hlt
      have := f.add_gainTo_mono l (x := (k + 1 : Nat)) (y := s.start) (by omega)
      omega
    · by_contra hge
      have hle : s.start ≤ s.stop := by omega
      have hgain : f.gainTo l s.stop = f.gainTo l s.start :=
        gainTo_eq_of_none hle fun j hj hj1 hj2 =>
          hnone j hj (Span.covered_iff.mpr ⟨s, hs, hj1, hj2⟩)
      have := f.add_gainTo_mono l (x := s.stop) (y := k) (by omega)
      omega
  · rintro ⟨s, hs, hstart, hstop⟩
    have hkeep : f.converts l[k] = false :=
      hnone k hk (Span.covered_iff.mpr ⟨s, hs, hstart, hstop⟩)
    rw [place_succ_of_not_converts hk hkeep] at hhigh
    have hgain : f.gainTo l k = f.gainTo l s.start :=
      gainTo_eq_of_none hstart fun j hj hj1 hj2 =>
        hnone j hj (Span.covered_iff.mpr ⟨s, hs, hj1, by omega⟩)
    refine ⟨f.moved l s, List.mem_map_of_mem hs, ?_, ?_⟩
    · simp only [moved]
      omega
    · simp only [moved]
      omega

end SmartQuotes.Family
