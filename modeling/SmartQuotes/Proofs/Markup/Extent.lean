import SmartQuotes.Document
import SmartQuotes.Proofs.Extent
import SmartQuotes.Proofs.Text.Order

/-!
# Where the fragments of markup lie

The pieces of a template and the segments of a run put together give back the text that was cut, so
that the offsets at which they are extracted are those at which they stand. A quoted value stands
inside its tag with a quote at each end, and the body of a block ends within its document.
-/

namespace SmartQuotes

namespace Text

variable {part t : Text} {n : Nat}

/-- The part stands in the text at a place, and at no earlier one. -/
def IsFirstAt (part t : Text) (n : Nat) : Prop := part <+: t.drop n ∧ ∀ m < n, ¬ part <+: t.drop m

theorem locate?_eq_some_iff : locate? part t = some n ↔ IsFirstAt part t n := by
  induction t generalizing n with
  | nil =>
    simp only [locate?, IsFirstAt, List.drop_nil, List.prefix_nil, ← List.isEmpty_iff]
    split
    · next hempty =>
      rw [Option.some.injEq]
      refine ⟨fun h => ⟨hempty, fun m hm => absurd hm (h ▸ Nat.not_lt_zero m)⟩, fun h => ?_⟩
      by_contra hn
      exact h.2 0 (Nat.pos_of_ne_zero (Ne.symm hn)) hempty
    · next hempty => exact iff_of_false (Option.some_ne_none n).symm fun h => hempty h.1
  | cons c t ih =>
    rw [locate?]
    split
    · next hstarts =>
      rw [List.isPrefixOf_iff_prefix] at hstarts
      rw [Option.some.injEq]
      refine ⟨fun h => h ▸ ⟨hstarts, fun m hm => absurd hm (Nat.not_lt_zero m)⟩, fun h => ?_⟩
      by_contra hn
      exact h.2 0 (Nat.pos_of_ne_zero (Ne.symm hn)) hstarts
    · next hstarts =>
      rw [List.isPrefixOf_iff_prefix] at hstarts
      rw [Option.map_eq_some_iff]
      constructor
      · rintro ⟨k, hk, rfl⟩
        obtain ⟨hpart, hfirst⟩ := ih.mp hk
        refine ⟨hpart, fun m hm => ?_⟩
        cases m with
        | zero => exact hstarts
        | succ m => exact hfirst m (Nat.lt_of_succ_lt_succ hm)
      · rintro ⟨hpart, hfirst⟩
        cases n with
        | zero => exact absurd hpart hstarts
        | succ n =>
          exact ⟨n, ih.mpr ⟨hpart, fun m hm => hfirst (m + 1) (Nat.succ_lt_succ hm)⟩, rfl⟩

theorem IsFirstAt.exists_append (h : IsFirstAt part t n) :
    ∃ body rest, t = body ++ (part ++ rest) ∧ body.length = n := by
  obtain ⟨⟨rest, hrest⟩, hfirst⟩ := h
  have hle : n ≤ t.length := by
    by_contra hlt
    rw [List.drop_eq_nil_of_le (by omega)] at hrest
    obtain ⟨rfl, -⟩ := List.append_eq_nil_iff.mp hrest
    exact hfirst 0 (by omega) List.nil_prefix
  exact ⟨t.take n, rest, by rw [hrest, List.take_append_drop], List.length_take_of_le hle⟩

theorem isInfix_iff_exists_drop : part <:+: t ↔ ∃ n, part <+: t.drop n := by
  constructor
  · rintro ⟨front, rest, rfl⟩
    exact ⟨front.length, rest, by rw [List.append_assoc, List.drop_left]⟩
  · rintro ⟨n, hn⟩
    exact hn.isInfix.trans (List.drop_suffix n t).isInfix

theorem locate?_eq_none_iff : locate? part t = none ↔ ¬ part <:+: t := by
  rw [isInfix_iff_exists_drop, Option.eq_none_iff_forall_ne_some]
  constructor
  · intro h hstands
    -- the first of the places at which the part stands would be found
    classical
    exact h (Nat.find hstands) (locate?_eq_some_iff.mpr
      ⟨Nat.find_spec hstands, fun m hm => Nat.find_min hstands hm⟩)
  · exact fun h n hn => h ⟨n, (locate?_eq_some_iff.mp hn).1⟩

theorem drop_eq_of_locate? (h : locate? part t = some n) :
    t.drop n = part ++ t.drop (n + part.length) := by
  obtain ⟨⟨rest, hrest⟩, -⟩ := locate?_eq_some_iff.mp h
  rw [← List.drop_drop, ← hrest, List.drop_left]

end Text

namespace Markup

/-! ## Segments and pieces -/

namespace Segment

/-- The first embedded expression stands with its braces where it is said to stand. -/
theorem eq_append_of_firstEmbedded? {t : Text} {i n : Nat} (h : firstEmbedded? t = some (i, n)) :
    t = t.take i ++ (toText (embedded ((t.drop (i + 2)).take n)) ++ t.drop (i + 2 + n + 2)) := by
  obtain ⟨j, hopening, hrest⟩ := Option.bind_eq_some_iff.mp h
  obtain ⟨m, hclosing, heq⟩ := Option.map_eq_some_iff.mp hrest
  cases heq
  have hfront : t.drop i = opening ++ t.drop (i + 2) := Text.drop_eq_of_locate? hopening
  have hback : (t.drop (i + 2)).drop n = closing ++ t.drop (i + 2 + n + 2) := by
    rw [Text.drop_eq_of_locate? hclosing, List.drop_drop]
    rfl
  rw [toText, List.append_assoc, ← hback, List.append_assoc, List.take_append_drop, ← hfront,
    List.take_append_drop]

/-- The segments put together give back the run. -/
theorem flatMap_toText_list (t : Text) : (list t).flatMap toText = t := by
  fun_induction list t with
  | case1 t => exact List.append_nil t
  | case2 t i n h _ ih =>
    rw [List.flatMap_cons, List.flatMap_cons, ih]
    exact (eq_append_of_firstEmbedded? h).symm

end Segment

theorem length_pos_of_cutAfter? {quote : Char} {t run rest : Text}
    (h : cutAfter? quote t = some (run, rest)) : 0 < run.length := by
  cases t with
  | nil => cases h
  | cons c t =>
    simp only [cutAfter?] at h
    split at h
    · cases h
      exact Nat.zero_lt_one
    · split at h
      · cases h
      · cases h
        exact Nat.succ_pos _

theorem append_cutAttributes (t : Text) : (cutAttributes t).1 ++ (cutAttributes t).2 = t := by
  fun_induction cutAttributes t with
  | case1 => rfl
  | case2 => rfl
  | case3 => rfl
  | case4 c t _ _ run _ hcut _ more rest hrest ih =>
    rw [hrest] at ih
    rw [List.cons_append, List.cons_append, List.append_assoc, ih, append_of_cutAfter? hcut]
  | case5 c t _ _ more rest hrest ih =>
    rw [hrest] at ih
    rw [List.cons_append, ih]

namespace Tag

theorem append_of_withName? {closing : Bool} {t : Text} {n : Nat} {g : Tag}
    (h : withName? closing t n = some g) :
    g.closing = closing ∧ ∃ rest, g.name ++ g.attributes ++ '>' :: rest = t := by
  induction n with
  | zero => cases h
  | succ n ih =>
    simp only [withName?] at h
    split at h
    · next hhead =>
      cases h
      obtain ⟨rest, hrest⟩ := List.head?_eq_some_iff.mp hhead
      refine ⟨rfl, rest, ?_⟩
      rw [List.append_assoc, ← hrest, append_cutAttributes, List.take_append_drop]
    · exact ih h

/-- A tag that is read at the start of a text is written there. -/
theorem append_of_ofText? {t : Text} {g : Tag} (h : ofText? t = some g) :
    ∃ rest, g.toText ++ rest = t := by
  unfold ofText? at h
  split at h
  · obtain ⟨hclosing, rest, hrest⟩ := append_of_withName? h
    refine ⟨rest, ?_⟩
    rw [toText, head, if_pos hclosing, ← hrest]
    simp only [List.append_assoc, List.cons_append, List.nil_append]
  · obtain ⟨hclosing, rest, hrest⟩ := append_of_withName? h
    refine ⟨rest, ?_⟩
    rw [toText, head, if_neg (by rw [hclosing]; exact Bool.false_ne_true), ← hrest]
    simp only [List.append_assoc, List.cons_append, List.nil_append]
  · cases h

theorem length_toText_pos (g : Tag) : 0 < g.toText.length := by
  rw [toText, List.length_append]
  exact Nat.lt_add_left _ Nat.zero_lt_one

end Tag

namespace Piece

theorem takeComment_eq_take (t : Text) : ∃ n, takeComment t = t.take n ∧ (0 < t.length → 0 < n) := by
  unfold takeComment
  split
  · exact ⟨t.length, t.take_length.symm, id⟩
  · exact ⟨_, rfl, fun _ => by omega⟩

theorem takeComment_append_drop (c : Char) (r : Text) :
    takeComment (c :: r) ++ r.drop ((takeComment (c :: r)).length - 1) = c :: r := by
  obtain ⟨n, htake, hpos⟩ := takeComment_eq_take (c :: r)
  have hlength : 0 < (takeComment (c :: r)).length := by
    rw [htake, List.length_take, List.length_cons]
    have := hpos (Nat.succ_pos _)
    omega
  have hdrop : r.drop ((takeComment (c :: r)).length - 1) =
      (c :: r).drop (takeComment (c :: r)).length := by
    rw [← Nat.sub_add_cancel hlength, List.drop_succ_cons, Nat.add_sub_cancel]
  rw [hdrop, htake, List.length_take]
  rcases Nat.le_total n (c :: r).length with hn | hn
  · rw [Nat.min_eq_left hn, List.take_append_drop]
  · rw [Nat.min_eq_right hn, List.take_of_length_le hn, List.drop_length, List.append_nil]

theorem toText_append_drop {c : Char} {r : Text} {g : Tag} (h : Tag.ofText? (c :: r) = some g) :
    g.toText ++ r.drop (g.toText.length - 1) = c :: r := by
  obtain ⟨rest, hrest⟩ := Tag.append_of_ofText? h
  have hdrop : r.drop (g.toText.length - 1) = (c :: r).drop g.toText.length := by
    rw [← Nat.sub_add_cancel g.length_toText_pos, List.drop_succ_cons, Nat.add_sub_cancel]
  rw [hdrop, ← hrest, List.drop_left]

/-- The pieces put together give back the template. -/
theorem flatMap_toText_list (beyond t : Text) : (list beyond t).flatMap toText = t := by
  fun_induction list beyond t with
  | case1 t _ => exact List.append_nil t
  | case2 t c r hcut _ _ _ _ ih =>
    rw [List.flatMap_cons, List.flatMap_cons, ih, toText, toText, takeComment_append_drop, ← hcut,
      append_cutRun]
  | case3 t c r hcut _ _ _ _ =>
    rw [List.flatMap_cons, List.flatMap_cons, List.flatMap_nil, List.append_nil, toText, toText,
      ← hcut, append_cutRun]
  | case4 t c r hcut _ _ _ g htag ih =>
    rw [List.flatMap_cons, List.flatMap_cons, ih, toText, toText, toText_append_drop htag, ← hcut,
      append_cutRun]

end Piece

/-! ## Attributes -/

namespace Attribute

theorem bounds_of_tail {t : Text} {before : Nat} {value : Text}
    (h : (tail t).quoted = some (before, value)) :
    2 ≤ before ∧ before + value.length + 1 ≤ t.length := by
  unfold tail at h
  simp only at h
  split at h
  · next r hgap =>
    split at h
    · cases h
    · next c r' hgap' =>
      split at h
      · split at h
        · cases h
        · next run rest hcut =>
          cases h
          have hlength := congrArg List.length hgap
          have hlength' := congrArg List.length hgap'
          have hrun := congrArg List.length (append_of_cutAfter? hcut)
          have hpos := length_pos_of_cutAfter? hcut
          simp only [List.length_drop, List.length_cons, List.length_append] at hlength hlength' hrun
          rw [List.length_dropLast]
          omega
      · split at h
        · cases h
        · cases h
  · cases h

/-- A quoted value stands inside the text of the attributes, behind a name, an equals sign and a
quote, and in front of a quote. -/
theorem bounds_of_mem_listFrom {offset : Nat} {t : Text} {a : Attribute}
    (h : a ∈ listFrom offset t) :
    offset + 3 ≤ a.offset ∧ a.offset + a.value.length + 1 ≤ offset + t.length := by
  fun_induction listFrom offset t with
  | case1 => cases h
  | case2 offset c r _ name behind rest _ ih =>
    have hih := ih h
    rw [List.length_drop] at hih
    simp only [name, List.length_cons] at hih ⊢
    omega
  | case3 offset c r _ name behind rest before value hquoted ih =>
    have hname : (r.takeWhile isNameChar).length ≤ r.length :=
      (List.takeWhile_prefix isNameChar).length_le
    rcases List.mem_cons.mp h with rfl | h
    · have htail := bounds_of_tail hquoted
      rw [List.length_drop] at htail
      simp only [name, List.length_cons] at htail ⊢
      omega
    · have hih := ih h
      rw [List.length_drop] at hih
      simp only [name, List.length_cons] at hih ⊢
      omega
  | case4 offset c r _ ih =>
    have hih := ih h
    rw [List.length_cons]
    omega

/-- What is passed over behind a name ends with the quote behind the value. -/
theorem value_of_tail {t : Text} {before : Nat} {value : Text}
    (h : (tail t).quoted = some (before, value)) :
    (tail t).width = before + value.length + 1 ∧
      t.extract before (before + value.length) = value := by
  unfold tail at h ⊢
  simp only at h ⊢
  split at h
  · next r hgap =>
    split at h
    · cases h
    · next c r' hgap' =>
      split at h
      · next hquote =>
        split at h
        · cases h
        · next run rest hcut =>
          cases h
          rw [if_pos hquote]
          have hpos := length_pos_of_cutAfter? hcut
          generalize (t.takeWhile Text.Class.isBlank).length = gap at hgap ⊢
          generalize (r.takeWhile Text.Class.isBlank).length = gap' at hgap' ⊢
          have hdrop : t.drop (gap + 1 + gap' + 1) = run ++ rest := by
            rw [← List.drop_drop, ← List.drop_drop, ← List.drop_drop, hgap,
              List.drop_succ_cons, List.drop_zero, hgap', List.drop_succ_cons, List.drop_zero,
              append_of_cutAfter? hcut]
          refine ⟨?_, ?_⟩
          · rw [List.length_dropLast]
            simp only
            omega
          · rw [Text.extract, List.drop_take, Nat.add_sub_cancel_left, hdrop, List.length_dropLast,
              List.take_append_of_le_length (Nat.sub_le _ _), List.dropLast_eq_take]
      · split at h
        · cases h
        · cases h
  · cases h

/-- The value is written in a text, whose first character has the given offset, where it is said to
stand. -/
def StandsIn (offset : Nat) (t : Text) (a : Attribute) : Prop :=
  ∃ k, a.offset = offset + k ∧ t.extract k (k + a.value.length) = a.value

theorem StandsIn.of_drop {offset n : Nat} {t : Text} {a : Attribute}
    (h : a.StandsIn (offset + n) (t.drop n)) : a.StandsIn offset t := by
  obtain ⟨k, hk, hvalue⟩ := h
  refine ⟨n + k, by omega, ?_⟩
  rwa [Text.extract_drop, ← Nat.add_assoc] at hvalue

theorem StandsIn.of_drop_tail {offset n m : Nat} {c : Char} {r : Text} {a : Attribute} (hn : 0 < n)
    (h : a.StandsIn (offset + n + m) (r.drop (n - 1 + m))) : a.StandsIn offset (c :: r) := by
  refine .of_drop (n := n + m) ?_
  have hnext : n + m = n - 1 + m + 1 := by omega
  rwa [hnext, List.drop_succ_cons, ← hnext, ← Nat.add_assoc]

theorem standsIn_of_mem_listFrom {offset : Nat} {t : Text} {a : Attribute}
    (h : a ∈ listFrom offset t) : a.StandsIn offset t := by
  fun_induction listFrom offset t with
  | case1 => cases h
  | case2 offset c r _ name behind rest _ ih => exact .of_drop_tail (Nat.succ_pos _) (ih h)
  | case3 offset c r _ name behind rest before value hquoted ih =>
    rcases List.mem_cons.mp h with rfl | h
    · exact .of_drop (n := name.length) ⟨before, rfl, (value_of_tail hquoted).2⟩
    · exact .of_drop_tail (Nat.succ_pos _) (ih h)
  | case4 offset c r _ ih => exact .of_drop (n := 1) (ih h)

/-- The values follow one another, each between its quotes. -/
theorem pairwise_listFrom (offset : Nat) (t : Text) :
    (listFrom offset t).Pairwise fun a b => a.offset + a.value.length + 2 ≤ b.offset := by
  fun_induction listFrom offset t with
  | case1 => exact .nil
  | case2 offset c r _ name behind rest _ ih => exact ih
  | case3 offset c r _ name behind rest before value hquoted ih =>
    refine List.pairwise_cons.mpr ⟨fun b hb => ?_, ih⟩
    have hwidth : behind.width = before + value.length + 1 := (value_of_tail hquoted).1
    have := (bounds_of_mem_listFrom hb).1
    simp only
    omega
  | case4 offset c r _ ih => exact ih

theorem aliasWidth?_le {a : Attribute} {n : Nat} (h : a.aliasWidth? = some n) :
    n ≤ a.value.length := by
  obtain ⟨r, -, rfl⟩ := Option.map_eq_some_iff.mp h
  exact Nat.sub_le _ _

end Attribute

/-! ## Fragments of a template -/

section

variable {document : Text} {start stop : Int}

theorem liesIn_fragmentAt (kind : Kind) (hkind : kind ≠ .templateLiteral) (hle : start ≤ stop) :
    (fragmentAt document kind start stop).LiesIn document start stop :=
  ⟨Int.le_refl _, hle, Int.le_refl _, rfl,
    ⟨⟨nofun, fun h => absurd h hkind⟩, nofun, nofun⟩⟩

theorem liesIn_extractProse : ∀ f ∈ extractProse document start stop,
    f.LiesIn document start stop := by
  intro f hf
  unfold extractProse at hf
  simp only at hf
  split at hf
  · next h =>
    simp only [Bool.and_eq_true, decide_eq_true_eq] at h
    rw [List.mem_singleton.mp hf]
    exact liesIn_fragmentAt _ (by decide) (Int.le_of_lt h.1)
  · cases hf

/-- The number of characters of stretches that follow one another. -/
theorem length_flatMap_cons {α : Type} (toText : α → Text) (a : α) (rest : List α) :
    ((a :: rest).flatMap toText).length = (toText a).length + (rest.flatMap toText).length := by
  rw [List.flatMap_cons, List.length_append]

theorem all_extractSegments {segments : List Segment} (hstart : 0 ≤ start)
    (hsegments : start + (segments.flatMap Segment.toText).length ≤ stop)
    (hstop : stop ≤ document.length) :
    (extractSegments document start stop segments).All (Fragment.LiesIn document start stop) := by
  induction segments generalizing start with
  | nil => exact Outcome.all_nil
  | cons s rest ih =>
    rw [length_flatMap_cons] at hsegments
    cases s with
    | prose t =>
      simp only [Segment.toText] at hsegments
      refine Outcome.all_append (Outcome.all_value fun f hf => ?_) fun l hl f hf => ?_
      · refine (liesIn_extractProse f hf).mono (Int.le_refl _) ?_
        split <;> omega
      · exact (ih (by omega) (by omega) l hl f hf).mono (by omega) (Int.le_refl _)
    | embedded t =>
      simp only [Segment.toText, Segment.opening, Segment.closing, List.length_append,
        List.length_cons, List.length_nil] at hsegments
      refine Outcome.all_append (fun l hl f hf => ?_) fun l hl f hf => ?_
      · exact (Script.liesIn_extractExpression (by omega) (by omega) (by omega) l hl f hf).mono
          (by omega) (by omega)
      · exact (ih (by omega) (by omega) l hl f hf).mono (by omega) (Int.le_refl _)

/-- An attribute is extracted as it stands with its quotes, or what is behind the words of an
iteration is, or nothing at all. -/
theorem extractAttribute_cases (document : Text) (base : Int) (a : Attribute) :
    extractAttribute document base a = .value [fragmentAt document .attributeValue
      (base + a.offset - 1) (base + a.offset + a.value.length + 1)] ∨
    extractAttribute document base a = .value [] ∨
    ∃ n ≤ a.value.length, extractAttribute document base a =
      Script.extractExpression document (base + a.offset + n)
        (base + a.offset + a.value.length) := by
  unfold extractAttribute
  simp only
  split
  · exact .inl rfl
  · exact .inr (.inl rfl)
  · refine .inr (.inr ⟨0, Nat.zero_le _, ?_⟩)
    rw [Int.ofNat_zero, Int.add_zero]
  · split
    · exact .inr (.inl rfl)
    · next n hn => exact .inr (.inr ⟨n, Attribute.aliasWidth?_le hn, rfl⟩)

theorem all_extractAttribute {base : Int} {a : Attribute} (hbase : 0 ≤ base)
    (hbefore : 1 ≤ a.offset) (hbehind : base + a.offset + a.value.length + 1 ≤ stop)
    (hstop : stop ≤ document.length) :
    (extractAttribute document base a).All (Fragment.LiesIn document base stop) := by
  rcases extractAttribute_cases document base a with h | h | ⟨n, hn, h⟩
  · rw [h]
    refine Outcome.all_value fun f hf => ?_
    rw [List.mem_singleton.mp hf]
    have hle : base + a.offset - 1 ≤ base + a.offset + a.value.length + 1 := by omega
    exact (liesIn_fragmentAt .attributeValue (by decide) hle).mono (by omega) (by omega)
  · rw [h]
    exact Outcome.all_nil
  · rw [h]
    intro l hl f hf
    exact (Script.liesIn_extractExpression (by omega) (by omega) (by omega) l hl f hf).mono
      (by omega) (by omega)

theorem all_extractTag {g : Tag} (hstart : 0 ≤ start) (htag : start + g.toText.length ≤ stop)
    (hstop : stop ≤ document.length) :
    (extractTag document start g).All (Fragment.LiesIn document start stop) := by
  unfold extractTag
  split
  · exact Outcome.all_nil
  · refine Outcome.all_concat fun x hx => ?_
    obtain ⟨a, ha, rfl⟩ := List.mem_map.mp hx
    obtain ⟨hbefore, hbehind⟩ := Attribute.bounds_of_mem_listFrom ha
    simp only [Tag.toText, List.length_append, List.length_cons, List.length_nil] at htag
    intro l hl f hf
    exact (all_extractAttribute (by omega) (by omega) (by omega) hstop l hl f hf).mono (by omega)
      (Int.le_refl _)

theorem all_extractPieces {pieces : List Piece} (hstart : 0 ≤ start)
    (hpieces : start + (pieces.flatMap Piece.toText).length ≤ stop)
    (hstop : stop ≤ document.length) :
    (extractPieces document start stop pieces).All (Fragment.LiesIn document start stop) := by
  induction pieces generalizing start with
  | nil => exact Outcome.all_nil
  | cons p rest ih =>
    rw [length_flatMap_cons] at hpieces
    refine Outcome.all_append ?_ fun l hl f hf => ?_
    · cases p with
      | run t =>
        simp only [Piece.toText] at hpieces ⊢
        intro l hl f hf
        refine (all_extractSegments hstart ?_ ?_ l hl f hf).mono (Int.le_refl _) ?_
        · rw [Segment.flatMap_toText_list]
          split <;> omega
        · split <;> omega
        · split <;> omega
      | comment t => exact Outcome.all_nil
      | tag g => exact all_extractTag hstart (by simp only [Piece.toText] at hpieces; omega) hstop
    · exact (ih (by omega) (by omega) l hl f hf).mono (by omega) (Int.le_refl _)

/-- The fragments of a template lie in its range. -/
theorem all_extractTemplate (hstart : 0 ≤ start) (hle : start ≤ stop)
    (hstop : stop ≤ document.length) :
    (extractTemplate document start stop).All (Fragment.LiesIn document start stop) := by
  refine all_extractPieces hstart ?_ hstop
  rw [Piece.flatMap_toText_list, Text.length_slice hstart hle hstop]
  omega

end

/-! ## Bodies of blocks -/

theorem length_of_afterWord? {word t rest : Text} (h : afterWord? word t = some rest) :
    t.length = word.length + rest.length := by
  induction word generalizing t with
  | nil =>
    cases h
    simp
  | cons w word ih =>
    cases t with
    | nil => cases h
    | cons c t =>
      simp only [afterWord?] at h
      split at h
      · rw [List.length_cons, List.length_cons, ih h]
        omega
      · cases h

theorem TemplateTag.width_of_ofRest? {closing : Bool} {before : Nat} {t : Text} {g : TemplateTag}
    (h : ofRest? closing before t = some g) : 0 < g.width ∧ g.width ≤ before + t.length := by
  unfold ofRest? at h
  split at h
  · cases h
  · simp only at h
    split at h
    · next hhead =>
      cases h
      obtain ⟨rest, hrest⟩ := List.head?_eq_some_iff.mp hhead
      have hlength := congrArg List.length (append_cutAttributes t)
      rw [List.length_append, hrest, List.length_cons] at hlength
      simp only
      omega
    · cases h

theorem TemplateTag.width_bounds {t : Text} {g : TemplateTag} (h : ofText? t = some g) :
    0 < g.width ∧ g.width ≤ t.length := by
  have hword : (text "template").length = 8 := by decide
  unfold ofText? at h
  split at h
  · obtain ⟨rest, hrest, h⟩ := Option.bind_eq_some_iff.mp h
    have := length_of_afterWord? hrest
    have := width_of_ofRest? h
    simp only [List.length_cons]
    omega
  · obtain ⟨rest, hrest, h⟩ := Option.bind_eq_some_iff.mp h
    have := length_of_afterWord? hrest
    have := width_of_ofRest? h
    simp only [List.length_cons]
    omega
  · cases h

theorem scriptLength_le (t : Text) : scriptLength t ≤ t.length := by
  induction t with
  | nil => exact Nat.le_refl _
  | cons c t ih =>
    rw [scriptLength, List.length_cons]
    split <;> omega

theorem templateLength_le (depth : Nat) (t : Text) : templateLength depth t ≤ t.length := by
  fun_induction templateLength depth t with
  | case1 => exact Nat.le_refl _
  | case2 _ c t _ ih => exact Nat.succ_le_succ ih
  | case3 => exact Nat.zero_le _
  | case4 c t g htag _ _ _ ih =>
    have hwidth := TemplateTag.width_bounds htag
    rw [List.length_drop] at ih
    rw [List.length_cons] at hwidth ⊢
    omega
  | case5 _ c t g htag _ _ _ ih =>
    have hwidth := TemplateTag.width_bounds htag
    rw [List.length_drop] at ih
    rw [List.length_cons] at hwidth ⊢
    omega

theorem Block.bounds_of_body? {document : Text} {b : Block} {body : Span}
    (h : b.body? document = some body) :
    0 ≤ body.start ∧ body.start ≤ body.stop ∧ body.stop ≤ document.length := by
  obtain ⟨g, htag, rfl⟩ := Option.map_eq_some_iff.mp h
  obtain ⟨rest, hrest⟩ := Tag.append_of_ofText? htag
  have hlength := congrArg List.length hrest
  have hpos := g.length_toText_pos
  have hscript := scriptLength_le (document.drop (b.offset + g.toText.length))
  have htemplate := templateLength_le 0 (document.drop (b.offset + g.toText.length))
  simp only [List.length_append, List.length_drop] at hlength hscript htemplate
  simp only
  split <;> omega

/-! ## Components -/

/-- A fragment of a block is one of its body, which is read as a script or as a template. -/
theorem exists_body_of_mem_extractBlock {document : Text} {b : Block} {l : List Fragment}
    (hl : (extractBlock document b).result = .ok l) {f : Fragment} (hf : f ∈ l) :
    ∃ body, b.body? document = some body ∧
      (b.kind = .script ∧ Script.extract document body.start body.stop .script = .ok l ∨
        b.kind = .template ∧ (extractTemplate document body.start body.stop).result = .ok l) := by
  unfold extractBlock at hl
  split at hl
  · cases hl
    cases hf
  · next body hbody =>
    refine ⟨body, hbody, ?_⟩
    split at hl
    · split at hl
      · next hkind => exact .inl ⟨hkind, hl⟩
      · next hkind => exact .inr ⟨hkind, hl⟩
    · split at hl
      · cases hl
        cases hf
      · cases hl
        cases hf

theorem all_extractBlock (document : Text) (b : Block) :
    (extractBlock document b).All (Fragment.LiesIn document 0 document.length) := by
  intro l hl f hf
  obtain ⟨body, hbody, hread⟩ := exists_body_of_mem_extractBlock hl hf
  obtain ⟨hstart, hle, hstop⟩ := b.bounds_of_body? hbody
  rcases hread with ⟨-, hl⟩ | ⟨-, hl⟩
  · exact (Script.liesIn_extract hstart hle hstop hl f hf).mono hstart hstop
  · exact (all_extractTemplate hstart hle hstop l hl f hf).mono hstart hstop

theorem all_extractBlocks (document : Text) (blocks : List Block) :
    (extractBlocks document blocks).All (Fragment.LiesIn document 0 document.length) := by
  induction blocks with
  | nil => exact Outcome.all_nil
  | cons b rest ih => exact Outcome.all_append (all_extractBlock document b) ih

theorem all_extractComponent (document : Text) :
    (extractComponent document).All (Fragment.LiesIn document 0 document.length) := by
  intro l hl f hf
  obtain ⟨blocks, -, hl⟩ := Outcome.result_bind hl
  obtain ⟨fragments, hfragments, hl⟩ := Outcome.result_bind hl
  cases hl
  exact all_extractBlocks document blocks fragments hfragments f (mem_sortBy.mp hf)

end Markup

/-- The fragments of a document in either language are slices of it between their offsets. -/
theorem Language.all_extract (l : Language) (document : Text) :
    (l.extract document).All (Fragment.LiesIn document 0 document.length) := by
  cases l with
  | script =>
    exact Outcome.all_ofExcept fun _ h =>
      Script.liesIn_extract (Int.le_refl _) (by omega) (Int.le_refl _) h
  | component => exact Markup.all_extractComponent document

end SmartQuotes
