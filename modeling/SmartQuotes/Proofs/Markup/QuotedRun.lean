import Mathlib.Data.List.TakeWhile
import SmartQuotes.Proofs.Markup.Partition
import SmartQuotes.Proofs.Markup.Tag

/-!
# Quoted runs and quoted values

The text of the attributes of a tag is read twice: the end of the tag is found by pairing the quotes
from left to right, and the values are found by looking for a name with an equals sign and a quote
behind it. The first reading cuts the text into quoted runs and characters outside them. The second
one finds a run exactly if the name stands outside the runs, and so it does for all values unless
there is an equals sign in a run that is not the value of an attribute (`values_run_iff`).
-/

namespace SmartQuotes.Markup

theorem drop_append_quote (body : Text) (quote : Char) (rest : Text) :
    (body ++ quote :: rest).drop (body.length + 1) = rest := by
  rw [← List.drop_drop, List.drop_left, List.drop_succ_cons, List.drop_zero]

/-! ## Quoted runs -/

/-- A quoted run in the text of the attributes of a tag. `offset` is that of the first character
between the quotes. -/
structure QuotedRun where
  offset : Nat
  body : Text
deriving DecidableEq, Repr

namespace QuotedRun

/-- The quoted runs in a text whose first character has the given offset, with the quotes paired
from left to right. -/
def listFrom (offset : Nat) (t : Text) : List QuotedRun :=
  match t with
  | [] => []
  | c :: r =>
    if isQuote c then
      match h : cutAfter? c r with
      | none => []
      | some (run, rest) =>
        have := congrArg List.length (append_of_cutAfter? h)
        ⟨offset + 1, run.dropLast⟩ :: listFrom (offset + 1 + run.length) rest
    else listFrom (offset + 1) r
termination_by t.length
decreasing_by all_goals (simp only [List.length_cons, List.length_append] at *; omega)

/-- The quoted runs. -/
def list (t : Text) : List QuotedRun := listFrom 0 t

/-- Whether a position is that of a character of the run or of the quotes around it. -/
def Covers (r : QuotedRun) (p : Nat) : Prop := r.offset ≤ p + 1 ∧ p ≤ r.offset + r.body.length

instance (r : QuotedRun) (p : Nat) : Decidable (r.Covers p) := instDecidableAnd

variable {offset : Nat} {t : Text} {r : QuotedRun}

theorem listFrom_quote {q : Char} (hq : isQuote q = true) {body rest : Text} (hbody : q ∉ body) :
    listFrom offset (q :: (body ++ q :: rest)) =
      ⟨offset + 1, body⟩ :: listFrom (offset + 1 + (body.length + 1)) rest := by
  rw [listFrom, if_pos hq]
  split
  · next hnone =>
    rw [cutAfter?_append_quote hbody] at hnone
    cases hnone
  · next hsome =>
    rw [cutAfter?_append_quote hbody] at hsome
    cases hsome
    simp only [List.length_append, List.length_singleton, List.dropLast_concat]

/-- Characters that are not quotes are passed over. -/
theorem listFrom_append {w : Text} (hw : ∀ c ∈ w, isQuote c = false) (rest : Text) :
    listFrom offset (w ++ rest) = listFrom (offset + w.length) rest := by
  induction w generalizing offset with
  | nil => rfl
  | cons c w ih =>
    rw [List.forall_mem_cons] at hw
    rw [List.cons_append, listFrom, if_neg (by rw [hw.1]; exact Bool.false_ne_true), ih hw.2,
      List.length_cons, Nat.add_right_comm, Nat.add_assoc]

/-- The run is written in a text, whose first character has the given offset, where it is said to
stand. -/
def StandsIn (offset : Nat) (t : Text) (r : QuotedRun) : Prop :=
  ∃ k q rest, r.offset = offset + k + 1 ∧ t.drop k = q :: (r.body ++ q :: rest) ∧
    isQuote q = true ∧ q ∉ r.body

theorem StandsIn.of_drop {n : Nat} (h : r.StandsIn (offset + n) (t.drop n)) :
    r.StandsIn offset t := by
  obtain ⟨k, q, rest, hoffset, hdrop, hquote⟩ := h
  rw [List.drop_drop] at hdrop
  exact ⟨n + k, q, rest, by omega, hdrop, hquote⟩

theorem standsIn_of_mem_listFrom (h : r ∈ listFrom offset t) : r.StandsIn offset t := by
  fun_induction listFrom offset t with
  | case1 => cases h
  | case2 => cases h
  | case3 offset c t hquote run rest hcut _ ih =>
    obtain ⟨body, hbody, rfl, rfl⟩ := cutAfter?_eq_some_iff.mp hcut
    rw [List.dropLast_concat] at h
    rcases List.mem_cons.mp h with rfl | h
    · exact ⟨0, c, rest, rfl, rfl, hquote, hbody⟩
    · rw [List.length_append, List.length_singleton, Nat.add_assoc] at ih h
      refine .of_drop (n := 1 + (body.length + 1)) ?_
      rw [Nat.add_comm 1, List.drop_succ_cons, drop_append_quote, Nat.add_comm (body.length + 1)]
      exact ih h
  | case4 offset c t _ ih => exact .of_drop (n := 1) (ih h)

theorem le_offset_of_mem_listFrom (h : r ∈ listFrom offset t) : offset + 1 ≤ r.offset := by
  obtain ⟨k, q, rest, hoffset, -⟩ := standsIn_of_mem_listFrom h
  omega

/-- The runs follow one another, each between its quotes. -/
theorem pairwise_listFrom (offset : Nat) (t : Text) :
    (listFrom offset t).Pairwise fun r s => r.offset + r.body.length + 2 ≤ s.offset := by
  fun_induction listFrom offset t with
  | case1 => exact .nil
  | case2 => exact .nil
  | case3 offset c t hquote run rest hcut _ ih =>
    refine List.pairwise_cons.mpr ⟨fun s hs => ?_, ih⟩
    have hlow := le_offset_of_mem_listFrom hs
    have hpos := length_pos_of_cutAfter? hcut
    simp only [List.length_dropLast]
    omega
  | case4 offset c t _ ih => exact ih

/-- Two runs are the same, or one of them ends before the other one starts. -/
theorem eq_or_apart {s : QuotedRun} (hr : r ∈ listFrom offset t) (hs : s ∈ listFrom offset t) :
    r = s ∨ r.offset + r.body.length + 2 ≤ s.offset ∨ s.offset + s.body.length + 2 ≤ r.offset := by
  have happart := pairwise_listFrom offset t
  refine List.Pairwise.forall_of_forall_of_flip
    (R := fun r s : QuotedRun => r = s ∨ r.offset + r.body.length + 2 ≤ s.offset ∨
      s.offset + s.body.length + 2 ≤ r.offset) (fun _ _ => .inl rfl) ?_ ?_ hr hs
  · exact happart.imp fun h => .inr (.inl h)
  · exact happart.imp fun h => .inr (.inr h)

end QuotedRun

/-! ## Reading from the middle -/

/-- Behind a position outside the runs the reading goes on as if it had started there. -/
theorem QuotedRun.listFrom_drop {offset k : Nat} {t : Text} (ht : IsPaired t)
    (hk : ∀ r ∈ listFrom offset t, ¬ r.Covers (offset + k)) :
    listFrom (offset + k) (t.drop k) <:+ listFrom offset t := by
  induction ht generalizing offset k with
  | nil => simpa only [List.drop_nil, listFrom] using List.suffix_refl _
  | @char c t _ hquote _ ih =>
    cases k with
    | zero => exact List.suffix_refl _
    | succ k =>
      have hskip : listFrom offset (c :: t) = listFrom (offset + 1) t :=
        listFrom_append (w := [c]) (List.forall_mem_singleton.mpr hquote) t
      rw [hskip] at hk ⊢
      rw [List.drop_succ_cons]
      rw [Nat.add_comm k, ← Nat.add_assoc] at hk ⊢
      exact ih hk
  | @run q body t hquote hbody _ ih =>
    cases k with
    | zero => exact List.suffix_refl _
    | succ k =>
      rw [listFrom_quote hquote hbody] at hk ⊢
      rw [List.forall_mem_cons] at hk
      obtain ⟨m, rfl⟩ : ∃ m, k = body.length + 1 + m := by
        have hout := hk.1
        simp only [Covers, not_and, not_le] at hout
        exact ⟨k - (body.length + 1), by omega⟩
      have hadd : offset + (body.length + 1 + m + 1) =
          offset + 1 + (body.length + 1) + m := by omega
      rw [hadd] at hk ⊢
      rw [List.drop_succ_cons, ← List.drop_drop, drop_append_quote]
      exact (ih hk.2).trans (List.suffix_cons _ _)

/-! ## Names in front of values -/

namespace Attribute

/-- The value as a quoted run. -/
def run (a : Attribute) : QuotedRun := ⟨a.offset, a.value⟩

/-- The attribute is written at a position of a text, whose first character has the given offset:
the name, blanks, an equals sign, blanks, and the value between two quotes that it does not hold. -/
def IsWrittenAt (offset : Nat) (t : Text) (p : Nat) (a : Attribute) : Prop :=
  ∃ gap gap' q rest,
    t.drop p = a.name ++ (gap ++ '=' :: (gap' ++ q :: (a.value ++ q :: rest))) ∧
      a.offset = offset + p + (a.name.length + (gap.length + gap'.length + 2)) ∧
      a.name ≠ [] ∧ (∀ c ∈ a.name, isNameChar c = true) ∧
      (∀ c ∈ gap, Text.Class.isBlank c = true) ∧ (∀ c ∈ gap', Text.Class.isBlank c = true) ∧
      isQuote q = true ∧ q ∉ a.value

variable {offset p : Nat} {t : Text} {a : Attribute}

theorem IsWrittenAt.of_drop {n : Nat} (h : a.IsWrittenAt (offset + n) (t.drop n) p) :
    a.IsWrittenAt offset t (n + p) := by
  obtain ⟨gap, gap', q, rest, hdrop, hoffset, hwritten⟩ := h
  rw [List.drop_drop] at hdrop
  exact ⟨gap, gap', q, rest, hdrop, by omega, hwritten⟩

theorem IsWrittenAt.of_drop_tail {n m : Nat} {c : Char} {r : Text} (hn : 0 < n)
    (h : a.IsWrittenAt (offset + n + m) (r.drop (n - 1 + m)) p) :
    a.IsWrittenAt offset (c :: r) (n + m + p) := by
  refine .of_drop (n := n + m) ?_
  have hnext : n + m = n - 1 + m + 1 := by omega
  rwa [hnext, List.drop_succ_cons, ← hnext, ← Nat.add_assoc]

theorem isQuote_of_isNameChar {c : Char} (h : isNameChar c = true) : isQuote c = false := by
  simp only [isNameChar, Bool.not_eq_true', Bool.or_eq_false_iff] at h
  exact h.1.1.1.1.2

theorem isQuote_of_isBlank {c : Char} (h : Text.Class.isBlank c = true) : isQuote c = false := by
  rw [isQuote, Bool.or_eq_false_iff, beq_eq_false_iff_ne, beq_eq_false_iff_ne]
  constructor
  · rintro rfl
    cases h
  · rintro rfl
    cases h

/-- What is read behind a name. -/
theorem eq_append_of_tail {before : Nat} {value : Text}
    (h : (tail t).quoted = some (before, value)) :
    ∃ gap gap' q rest, t = gap ++ '=' :: (gap' ++ q :: (value ++ q :: rest)) ∧
      before = gap.length + gap'.length + 2 ∧
      (∀ c ∈ gap, Text.Class.isBlank c = true) ∧ (∀ c ∈ gap', Text.Class.isBlank c = true) ∧
      isQuote q = true ∧ q ∉ value := by
  have hblank : ∀ u : Text, ∀ c ∈ u.takeWhile Text.Class.isBlank, Text.Class.isBlank c = true :=
    fun u c hc => List.mem_takeWhile_imp hc
  have happend : ∀ u : Text, u.takeWhile Text.Class.isBlank ++
      u.drop (u.takeWhile Text.Class.isBlank).length = u :=
    fun u => List.prefix_iff_eq_append.mp ( List.takeWhile_prefix _)
  unfold tail at h
  simp only at h
  split at h
  · next r hgap =>
    split at h
    · cases h
    · next q r' hgap' =>
      split at h
      · next hquote =>
        split at h
        · cases h
        · next run rest hcut =>
          cases h
          obtain ⟨body, hbody, rfl, rfl⟩ := cutAfter?_eq_some_iff.mp hcut
          rw [List.dropLast_concat]
          refine ⟨_, _, q, rest, ?_, by omega, hblank t, hblank r, hquote, hbody⟩
          rw [← hgap', happend, ← hgap, happend]
      · split at h
        · cases h
        · cases h
  · cases h

/-- A value that is found is written behind a name, and the name stands in none of the values that
are found. -/
theorem exists_name_of_mem_listFrom (h : a ∈ listFrom offset t) :
    ∃ p, a.IsWrittenAt offset t p ∧ ∀ b ∈ listFrom offset t, ¬ b.run.Covers (offset + p) := by
  fun_induction listFrom offset t with
  | case1 => cases h
  | case2 offset c r hname name behind rest _ ih =>
    obtain ⟨p, hwritten, hout⟩ := ih h
    refine ⟨name.length + behind.width + p, .of_drop_tail (Nat.succ_pos _) hwritten, ?_⟩
    rwa [← Nat.add_assoc, ← Nat.add_assoc]
  | case3 offset c r hname name behind rest before value hquoted ih =>
    rcases List.mem_cons.mp h with rfl | h
    · obtain ⟨gap, gap', q, rest', hdrop, hbefore, hwritten⟩ := eq_append_of_tail hquoted
      refine ⟨0, ⟨gap, gap', q, rest', ?_, ?_, List.cons_ne_nil _ _, ?_, hwritten⟩, ?_⟩
      · have happend : name ++ r.drop (name.length - 1) = c :: r :=
          congrArg (c :: ·) (List.prefix_iff_eq_append.mp ( List.takeWhile_prefix isNameChar))
        rw [List.drop_zero, ← happend, hdrop]
      · simp only
        omega
      · exact List.forall_mem_cons.mpr ⟨hname, fun c hc => List.mem_takeWhile_imp hc⟩
      · rintro b hb ⟨hlow, -⟩
        rcases List.mem_cons.mp hb with rfl | hb
        · simp only [run, name, List.length_cons] at hlow
          omega
        · have hbounds := (bounds_of_mem_listFrom hb).1
          simp only [run] at hlow
          omega
    · obtain ⟨p, hwritten, hout⟩ := ih h
      have hwidth : behind.width = before + value.length + 1 := (value_of_tail hquoted).1
      refine ⟨name.length + behind.width + p, .of_drop_tail (Nat.succ_pos _) hwritten, ?_⟩
      rw [← Nat.add_assoc, ← Nat.add_assoc]
      refine List.forall_mem_cons.mpr ⟨?_, hout⟩
      rintro ⟨-, hhigh⟩
      simp only [run] at hhigh
      omega
  | case4 offset c r _ ih =>
    obtain ⟨p, hwritten, hout⟩ := ih h
    refine ⟨1 + p, .of_drop hwritten, ?_⟩
    rwa [← Nat.add_assoc]

/-- The characters from the name up to the value hold an equals sign and no quotes. -/
theorem IsWrittenAt.front (h : a.IsWrittenAt 0 t p) :
    ∃ front q rest, t.drop p = front ++ q :: (a.value ++ q :: rest) ∧
      a.offset = p + front.length + 1 ∧ '=' ∈ front ∧ (∀ c ∈ front, isQuote c = false) ∧
      isQuote q = true ∧ q ∉ a.value := by
  obtain ⟨gap, gap', q, rest, hdrop, hoffset, -, hname, hgap, hgap', hquote, hvalue⟩ := h
  refine ⟨a.name ++ (gap ++ '=' :: gap'), q, rest, ?_, ?_, ?_, ?_, hquote, hvalue⟩
  · rw [hdrop]
    simp only [List.append_assoc, List.cons_append]
  · simp only [List.length_append, List.length_cons]
    omega
  · simp
  · intro c hc
    rw [List.mem_append, List.mem_append, List.mem_cons] at hc
    rcases hc with hc | hc | rfl | hc
    · exact isQuote_of_isNameChar (hname c hc)
    · exact isQuote_of_isBlank (hgap c hc)
    · rfl
    · exact isQuote_of_isBlank (hgap' c hc)

/-- A value whose name stands outside the runs is a run. -/
theorem IsWrittenAt.run_mem (h : a.IsWrittenAt 0 t p) (ht : IsPaired t)
    (hp : ∀ r ∈ QuotedRun.list t, ¬ r.Covers p) : a.run ∈ QuotedRun.list t := by
  obtain ⟨front, q, rest, hdrop, hoffset, -, hfront, hquote, hvalue⟩ := h.front
  have hsuffix := QuotedRun.listFrom_drop (k := p) ht (by rwa [Nat.zero_add])
  rw [hdrop, QuotedRun.listFrom_append hfront, QuotedRun.listFrom_quote hquote hvalue,
    Nat.zero_add, ← hoffset] at hsuffix
  exact hsuffix.subset List.mem_cons_self

/-- A run with the name in it goes on beyond the equals sign, and at least up to the value. -/
theorem IsWrittenAt.of_covers (h : a.IsWrittenAt 0 t p) {r : QuotedRun}
    (hr : r ∈ QuotedRun.list t) (hp : r.Covers p) :
    '=' ∈ r.body ∧ r.offset < a.offset ∧ a.offset ≤ r.offset + r.body.length + 1 := by
  obtain ⟨front, q, rest, hdrop, hoffset, hequals, hfront, -⟩ := h.front
  obtain ⟨k, q', rest', hk, hrun, hquote, -⟩ := QuotedRun.standsIn_of_mem_listFrom hr
  obtain ⟨hlow, hhigh⟩ := hp
  obtain ⟨e, he⟩ := List.mem_iff_getElem?.mp hequals
  have helt : e < front.length := (List.getElem?_eq_some_iff.mp he).choose
  have hrunAt : ∀ i, t[k + i]? = (q' :: (r.body ++ q' :: rest'))[i]? := by
    intro i
    rw [← hrun, List.getElem?_drop]
  have hfrontAt : ∀ i < front.length, t[p + i]? = front[i]? := by
    intro i hi
    rw [← List.getElem?_drop, hdrop, List.getElem?_append_left hi]
  -- a quote does not stand between the name and the value
  have hbeyond : ∀ i, t[k + i]? = some q' → p ≤ k + i → p + front.length ≤ k + i := by
    intro i hi hpi
    by_contra hlt
    have hat := hfrontAt (k + i - p) (by omega)
    rw [Nat.add_sub_cancel' hpi, hi] at hat
    rw [hfront q' (List.mem_of_getElem? hat.symm)] at hquote
    cases hquote
  have hopen := hbeyond 0 (hrunAt 0)
  have hclose := hbeyond (r.body.length + 1) (by
    rw [hrunAt, List.getElem?_cons_succ, List.getElem?_append_right (Nat.le_refl _), Nat.sub_self]
    rfl) (by omega)
  refine ⟨?_, by omega, by omega⟩
  have hat := hfrontAt e helt
  obtain ⟨i, hi⟩ : ∃ i, p + e = k + (i + 1) := ⟨p + e - k - 1, by omega⟩
  rw [he, hi, hrunAt, List.getElem?_cons_succ, List.getElem?_append_left (by omega)] at hat
  exact List.mem_of_getElem? hat

/-- A value is one of the runs exactly if its name stands in none of them. -/
theorem IsWrittenAt.run_mem_iff (h : a.IsWrittenAt 0 t p) (ht : IsPaired t) :
    a.run ∈ QuotedRun.list t ↔ ∀ r ∈ QuotedRun.list t, ¬ r.Covers p := by
  refine ⟨fun ha r hr hp => ?_, h.run_mem ht⟩
  obtain ⟨-, hlow, hhigh⟩ := h.of_covers hr hp
  -- the run with the name in it overlaps the value and starts in front of it
  rcases QuotedRun.eq_or_apart hr ha with rfl | hapart | hapart
  · exact absurd hlow (Nat.lt_irrefl _)
  · simp only [run] at hapart
    omega
  · simp only [run] at hapart
    omega

/-- The values that are found are runs if each run with an equals sign in it is one of them. -/
theorem run_mem_of_no_stray (ht : IsPaired t)
    (hstray : ∀ r ∈ QuotedRun.list t, '=' ∈ r.body → ∃ b ∈ list t, b.run = r) (ha : a ∈ list t) :
    a.run ∈ QuotedRun.list t := by
  obtain ⟨p, hwritten, hout⟩ := exists_name_of_mem_listFrom ha
  refine hwritten.run_mem ht fun r hr hp => ?_
  obtain ⟨b, hb, rfl⟩ := hstray r hr (hwritten.of_covers hr hp).1
  refine hout b hb ?_
  rwa [Nat.zero_add]

end Attribute

/-! ## Fragments of tags -/

/-- The fragment is the run with its quotes, or it stands between them. -/
def QuotedRun.Holds (base : Int) (r : QuotedRun) (f : Fragment) : Prop :=
  if f.kind = .attributeValue then
    f.start = base + r.offset - 1 ∧ f.stop = base + r.offset + r.body.length + 1
  else base + r.offset ≤ f.start ∧ f.stop ≤ base + r.offset + r.body.length

theorem Attribute.Yields.holds {document : Text} {base : Int} {a : Attribute} {f : Fragment}
    (h : a.Yields document base f) : a.run.Holds base f := by
  unfold Yields at h
  split at h
  · subst h
    exact ⟨rfl, rfl⟩
  · cases h
  · obtain ⟨hscript, hstart, -, hstop⟩ := h
    have hkind : f.kind ≠ .attributeValue := by
      intro hkind
      rw [hkind] at hscript
      cases hscript
    rw [QuotedRun.Holds, if_neg hkind]
    exact ⟨hstart, hstop⟩

/-- A value that is found in a tag is one of the runs by which the end of the tag was found exactly
if the name in front of it stands in none of them. If each run with an equals sign in it is a value
that is found, then all values are runs, and each fragment of the tag is a run with its quotes or
stands between the quotes of one. -/
theorem values_run_iff {t : Text} {g : Tag} (h : Tag.ofText? t = some g) :
    (∀ a ∈ Attribute.list g.attributes, (∃ p, a.IsWrittenAt 0 g.attributes p) ∧
      ∀ p, a.IsWrittenAt 0 g.attributes p →
        (a.run ∈ QuotedRun.list g.attributes ↔
          ∀ r ∈ QuotedRun.list g.attributes, ¬ r.Covers p)) ∧
    ((∀ r ∈ QuotedRun.list g.attributes, '=' ∈ r.body →
        ∃ a ∈ Attribute.list g.attributes, a.run = r) →
      (∀ a ∈ Attribute.list g.attributes, a.run ∈ QuotedRun.list g.attributes) ∧
      ∀ (document : Text) (start : Int) (fragments : List Fragment), 0 ≤ start →
        start + g.toText.length ≤ document.length →
        (extractTag document start g).result = .ok fragments →
          ∀ f ∈ fragments, ∃ r ∈ QuotedRun.list g.attributes, r.Holds (start + g.head.length) f) := by
  have hpaired := (Tag.ofText?_eq_some_iff.mp h).wellFormed.attributes
  refine ⟨fun a ha => ⟨?_, fun p hp => hp.run_mem_iff hpaired⟩, fun hstray => ?_⟩
  · obtain ⟨p, hp, -⟩ := Attribute.exists_name_of_mem_listFrom ha
    exact ⟨p, hp⟩
  · have hvalues : ∀ a ∈ Attribute.list g.attributes, a.run ∈ QuotedRun.list g.attributes :=
      fun a ha => Attribute.run_mem_of_no_stray hpaired hstray ha
    refine ⟨hvalues, fun document start fragments hstart hstop hfragments f hf => ?_⟩
    obtain ⟨-, a, ha, hyields⟩ := (extractTag_spec hstart hstop hfragments).1 f hf
    exact ⟨a.run, hvalues a ha, hyields.holds⟩

/-- A run without a name, and an equals sign in a value: all values are runs. -/
theorem values_run_of_equals_in_value :
    let document := text "<a \"b\" :c = \"'d=e'\" f=g h='i'>"
    let g : Tag := ⟨false, text "a", text " \"b\" :c = \"'d=e'\" f=g h='i'"⟩
    let fragments : List Fragment :=
      [fragmentAt document .literal 13 18, fragmentAt document .attributeValue 26 29]
    Tag.ofText? document = some g ∧
      QuotedRun.list g.attributes = [⟨2, text "b"⟩, ⟨11, text "'d=e'"⟩, ⟨25, text "i"⟩] ∧
      Attribute.list g.attributes =
        [⟨text ":c", 11, text "'d=e'"⟩, ⟨text "h", 25, text "i"⟩] ∧
      (extractTag document 0 g).result = .ok fragments ∧
      ∀ f ∈ fragments, ∃ r ∈ QuotedRun.list g.attributes, r.Holds 2 f := by
  intro document g fragments
  have htag : Tag.ofText? document = some g := by
    unfold document g
    cbv
  have hruns : QuotedRun.list g.attributes =
      [⟨2, text "b"⟩, ⟨11, text "'d=e'"⟩, ⟨25, text "i"⟩] := by
    unfold g
    cbv
  have hvalues : Attribute.list g.attributes =
      [⟨text ":c", 11, text "'d=e'"⟩, ⟨text "h", 25, text "i"⟩] := by
    unfold g
    cbv
  have hfragments : (extractTag document 0 g).result = .ok fragments := by
    simp only [extractTag, hvalues, List.map]
    decide +kernel
  have hstray : ∀ r ∈ QuotedRun.list g.attributes, '=' ∈ r.body →
      ∃ a ∈ Attribute.list g.attributes, a.run = r := by
    rw [hruns, hvalues]
    decide
  exact ⟨htag, hruns, hvalues, hfragments,
    ((values_run_iff htag).2 hstray).2 document 0 fragments (by decide) (by decide) hfragments⟩

/-- An equals sign in a run without a name: the closing quote of the run opens a value, which goes on
beyond the quotes of the next attribute, so that these are converted with it. -/
theorem value_spans_runs_of_stray :
    let document := text "<p \"x=\" y='z' w=\"v\">"
    let g : Tag := ⟨false, text "p", text " \"x=\" y='z' w=\"v\""⟩
    let f : Fragment := fragmentAt document .attributeValue 6 17
    Tag.ofText? document = some g ∧
      QuotedRun.list g.attributes = [⟨2, text "x="⟩, ⟨9, text "z"⟩, ⟨15, text "v"⟩] ∧
      Attribute.list g.attributes = [⟨text "x", 5, text " y='z' w="⟩] ∧
      (extractTag document 0 g).result = .ok [f] ∧
      Marks.correct {} f = text "\" y=‘z’ w=\"" := by
  intro document g f
  have htag : Tag.ofText? document = some g := by
    unfold document g
    cbv
  have hruns : QuotedRun.list g.attributes =
      [⟨2, text "x="⟩, ⟨9, text "z"⟩, ⟨15, text "v"⟩] := by
    unfold g
    cbv
  have hvalues : Attribute.list g.attributes = [⟨text "x", 5, text " y='z' w="⟩] := by
    unfold g
    cbv
  refine ⟨htag, hruns, hvalues, ?_, by decide⟩
  simp only [extractTag, hvalues, List.map]
  decide +kernel

end SmartQuotes.Markup
