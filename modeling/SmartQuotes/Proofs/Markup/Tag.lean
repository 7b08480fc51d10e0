import Mathlib.Data.List.TakeWhile
import Mathlib.Data.Nat.Find
import SmartQuotes.Proofs.Markup.Extent

/-!
# What a tag is

A tag is an angle bracket, a slash if it closes an element, a name that starts with a letter, and the
text of the attributes up to the first closing bracket that does not stand between quotes. All
quotes in that text are paired, and what stands between two quotes may be anything else. A name may
hold quotes, so that one text may start with several tags; it is the one with the longest name that
is read (`ofText?_eq_some_iff`).
-/

namespace SmartQuotes.Markup

/-! ## Texts whose quotes are paired -/

theorem cutAfter?_eq_some_iff {quote : Char} {t run rest : Text} :
    cutAfter? quote t = some (run, rest) ↔
      ∃ body, quote ∉ body ∧ run = body ++ [quote] ∧ t = body ++ quote :: rest := by
  induction t generalizing run with
  | nil =>
    refine ⟨nofun, ?_⟩
    rintro ⟨body, -, -, h⟩
    cases body <;> cases h
  | cons c t ih =>
    rw [cutAfter?]
    split
    · next hc =>
      subst hc
      constructor
      · intro h
        cases h
        exact ⟨[], List.not_mem_nil, rfl, rfl⟩
      · rintro ⟨body, hbody, rfl, h⟩
        cases body with
        | nil => cases h; rfl
        | cons b body =>
          cases h
          exact absurd List.mem_cons_self hbody
    · next hc =>
      constructor
      · intro h
        split at h
        · cases h
        · next run' rest' hcut =>
          cases h
          obtain ⟨body, hbody, rfl, rfl⟩ := ih.mp hcut
          exact ⟨c :: body, by simp [Ne.symm hc, hbody], rfl, rfl⟩
      · rintro ⟨body, hbody, rfl, h⟩
        cases body with
        | nil => cases h; exact absurd rfl hc
        | cons b body =>
          cases h
          rw [ih.mpr ⟨body, fun hmem => hbody (List.mem_cons_of_mem _ hmem), rfl, rfl⟩]
          rfl

theorem cutAfter?_append_quote {quote : Char} {body : Text} (hbody : quote ∉ body) (rest : Text) :
    cutAfter? quote (body ++ quote :: rest) = some (body ++ [quote], rest) :=
  cutAfter?_eq_some_iff.mpr ⟨body, hbody, rfl, rfl⟩

theorem cutAttributes_quote {q : Char} (hq : isQuote q = true) {body : Text} (hbody : q ∉ body)
    (rest : Text) :
    cutAttributes (q :: (body ++ q :: rest)) =
      (q :: (body ++ q :: (cutAttributes rest).1), (cutAttributes rest).2) := by
  have hne : q ≠ '>' := by
    rintro rfl
    cases hq
  rw [cutAttributes, if_neg hne, if_pos hq]
  split
  · next hnone =>
    rw [cutAfter?_append_quote hbody] at hnone
    cases hnone
  · next hsome =>
    rw [cutAfter?_append_quote hbody] at hsome
    cases hsome
    simp only [List.cons_append, List.append_assoc, List.nil_append]

/-- All quotes of the text are paired, and no closing bracket stands outside them. -/
inductive IsPaired : Text → Prop
  | nil : IsPaired []
  | char {c : Char} {t : Text} (hbracket : c ≠ '>') (hquote : isQuote c = false)
      (ht : IsPaired t) : IsPaired (c :: t)
  | run {q : Char} {body t : Text} (hquote : isQuote q = true) (hbody : q ∉ body)
      (ht : IsPaired t) : IsPaired (q :: (body ++ q :: t))

theorem isPaired_cutAttributes (t : Text) : IsPaired (cutAttributes t).1 := by
  fun_induction cutAttributes t with
  | case1 => exact .nil
  | case2 => exact .nil
  | case3 => exact .nil
  | case4 c r hc hquote run rest hcut _ more _ hmore ih =>
    obtain ⟨body, hbody, rfl, -⟩ := cutAfter?_eq_some_iff.mp hcut
    rw [hmore] at ih
    rw [List.cons_append, List.append_assoc, List.singleton_append]
    exact .run hquote hbody ih
  | case5 c r hc hquote more _ hmore ih =>
    rw [hmore] at ih
    exact .char hc (by simpa using hquote) ih

/-- A text whose quotes are paired goes on up to a closing bracket behind it. -/
theorem IsPaired.cutAttributes_append {a : Text} (h : IsPaired a) (rest : Text) :
    cutAttributes (a ++ '>' :: rest) = (a, '>' :: rest) := by
  induction h with
  | nil => rw [List.nil_append, cutAttributes, if_pos rfl]
  | char hbracket hquote _ ih =>
    rw [List.cons_append, cutAttributes, if_neg hbracket, hquote, if_neg Bool.false_ne_true, ih]
  | run hquote hbody _ ih =>
    rw [List.cons_append, List.append_assoc, List.cons_append, cutAttributes_quote hquote hbody, ih]

theorem cutAttributes_eq_iff {t a rest : Text} :
    cutAttributes t = (a, '>' :: rest) ↔ IsPaired a ∧ t = a ++ '>' :: rest := by
  constructor
  · intro h
    have hpaired := isPaired_cutAttributes t
    have happend := append_cutAttributes t
    rw [h] at hpaired happend
    exact ⟨hpaired, happend.symm⟩
  · rintro ⟨hpaired, rfl⟩
    exact hpaired.cutAttributes_append rest

namespace Tag

/-! ## Names -/

/-- A letter, and characters behind it that may stand in a name. -/
def IsName (name : Text) : Prop :=
  ∃ c t, name = c :: t ∧ Text.Class.isAsciiLetter c = true ∧ ∀ d ∈ t, isNameChar d = true

theorem length_takeName_le (t : Text) : (takeName t).length ≤ t.length := by
  cases t with
  | nil => exact Nat.le_refl _
  | cons c t =>
    rw [takeName]
    split
    · exact Nat.succ_le_succ ( List.takeWhile_prefix isNameChar).length_le
    · exact Nat.zero_le _

/-- The names with which a text starts are those that are not longer than the longest one. -/
theorem isName_take_iff {t : Text} {n : Nat} (hpos : 1 ≤ n) (hle : n ≤ t.length) :
    IsName (t.take n) ↔ n ≤ (takeName t).length := by
  cases t with
  | nil => exact absurd (Nat.le_trans hpos hle) (Nat.not_succ_le_zero 0)
  | cons c t =>
    obtain ⟨m, rfl⟩ := Nat.exists_eq_add_of_le' hpos
    rw [List.take_succ_cons, takeName]
    constructor
    · rintro ⟨_, _, ⟨⟩, hletter, hchars⟩
      rw [if_pos hletter, List.length_cons]
      conv_rhs => rw [← List.take_append_drop m t]
      rw [List.takeWhile_append_of_pos hchars, List.length_append, List.length_take,
        Nat.min_eq_left (Nat.le_of_succ_le_succ hle)]
      omega
    · intro hlength
      split at hlength
      · next hletter =>
        refine ⟨c, _, rfl, hletter, fun d hd => ?_⟩
        have htake : t.take m <+: t.takeWhile isNameChar :=
          List.prefix_of_prefix_length_le (List.take_prefix m t) ( List.takeWhile_prefix _)
            (Nat.le_trans (List.length_take_le m t) (Nat.le_of_succ_le_succ hlength))
        exact List.mem_takeWhile_imp (htake.subset hd)
      · exact absurd hlength (Nat.not_succ_le_zero m)

/-! ## Well-formed tags -/

/-- What stands in front of the name. -/
def opener (closing : Bool) : Text := if closing then ['<', '/'] else ['<']

/-- The name and what stands behind it. -/
def inner (g : Tag) : Text := g.name ++ (g.attributes ++ ['>'])

structure IsWellFormed (g : Tag) : Prop where
  name : IsName g.name
  attributes : IsPaired g.attributes

/-- Of the tags with which a text starts, the one with the longest name. -/
structure IsReadFrom (t : Text) (g : Tag) : Prop where
  wellFormed : g.IsWellFormed
  stands : g.toText <+: t
  longest : ∀ g' : Tag, g'.IsWellFormed → g'.toText <+: t → g'.name.length ≤ g.name.length

variable {t : Text} {g g' : Tag} {closing : Bool} {n : Nat}

theorem toText_eq (g : Tag) : g.toText = opener g.closing ++ g.inner := by
  rw [toText, head, opener, inner, List.append_assoc, List.append_assoc]

/-- The reader looks for the name behind what opens the tag. -/
theorem ofText?_opener (hslash : closing = true ∨ t.head? ≠ some '/') :
    ofText? (opener closing ++ t) = withName? closing t (takeName t).length := by
  cases closing with
  | true => rfl
  | false =>
    have hne : t.head? ≠ some '/' := hslash.resolve_left Bool.false_ne_true
    rw [opener, if_neg Bool.false_ne_true, List.singleton_append, ofText?]
    rintro r rfl
    exact hne rfl

/-- A letter follows what opens the tag. -/
theorem IsWellFormed.exists_letter (h : g.IsWellFormed) (ht : g.inner <+: t) :
    ∃ c r, t = c :: r ∧ Text.Class.isAsciiLetter c = true := by
  obtain ⟨c, r, hname, hletter, -⟩ := h.name
  obtain ⟨rest, rfl⟩ := ht
  rw [inner, hname]
  exact ⟨c, _, rfl, hletter⟩

theorem IsWellFormed.head?_ne (h : g.IsWellFormed) (ht : g.inner <+: t) : t.head? ≠ some '/' := by
  obtain ⟨c, r, rfl, hletter⟩ := h.exists_letter ht
  rintro ⟨⟩
  cases hletter

/-- What starts with a tag opens like the tag. -/
theorem exists_of_stands (ht : g.toText <+: t) :
    ∃ u, t = opener g.closing ++ u ∧ g.inner <+: u := by
  rw [toText_eq] at ht
  obtain ⟨rest, rfl⟩ := ht
  exact ⟨g.inner ++ rest, List.append_assoc _ _ _, List.prefix_append _ _⟩

theorem toText_prefix_iff (h : g.IsWellFormed) (hslash : closing = true ∨ t.head? ≠ some '/') :
    g.toText <+: opener closing ++ t ↔ g.closing = closing ∧ g.inner <+: t := by
  constructor
  · intro hg
    obtain ⟨u, hu, hinner⟩ := exists_of_stands hg
    have hne := h.head?_ne hinner
    cases hclosing : g.closing with
    | true =>
      rw [hclosing] at hu
      cases closing with
      | true =>
        cases hu
        exact ⟨rfl, hinner⟩
      | false =>
        cases hu
        exact absurd rfl (hslash.resolve_left Bool.false_ne_true)
    | false =>
      rw [hclosing] at hu
      cases closing with
      | true =>
        cases hu
        exact absurd rfl hne
      | false =>
        cases hu
        exact ⟨rfl, hinner⟩
  · rintro ⟨rfl, hinner⟩
    rw [toText_eq]
    exact (List.prefix_append_right_inj _).mpr hinner

/-! ## The longest name -/

/-- A tag is written exactly if its name is one with which the text starts, and its attributes end
in front of a closing bracket. -/
theorem wellFormed_and_prefix_iff :
    g.IsWellFormed ∧ g.inner <+: t ↔
      1 ≤ g.name.length ∧ g.name.length ≤ (takeName t).length ∧ g.name = t.take g.name.length ∧
        ∃ rest, cutAttributes (t.drop g.name.length) = (g.attributes, '>' :: rest) := by
  constructor
  · rintro ⟨h, rest, rfl⟩
    have hpos : 1 ≤ g.name.length := by
      obtain ⟨c, r, hname, -⟩ := h.name
      rw [hname]
      exact Nat.succ_pos _
    have hname : (g.inner ++ rest).take g.name.length = g.name := by
      rw [inner, List.append_assoc, List.take_left]
    refine ⟨hpos, ?_, hname.symm, rest, ?_⟩
    · rw [← isName_take_iff hpos (by rw [inner, List.length_append, List.length_append]; omega),
        hname]
      exact h.name
    · rw [inner, List.append_assoc, List.drop_left, cutAttributes_eq_iff]
      exact ⟨h.attributes, by rw [List.append_assoc]; rfl⟩
  · rintro ⟨hpos, hlength, hname, rest, hcut⟩
    obtain ⟨hpaired, hrest⟩ := cutAttributes_eq_iff.mp hcut
    refine ⟨⟨?_, hpaired⟩, rest, ?_⟩
    · rw [hname]
      exact (isName_take_iff hpos (Nat.le_trans hlength (length_takeName_le t))).mpr hlength
    · conv_rhs => rw [← List.take_append_drop g.name.length t, ← hname, hrest]
      rw [inner, List.append_assoc, List.append_assoc]
      rfl

/-- The reader goes down from a length of the name to the first one with which a tag can be read. -/
theorem withName?_eq_some_iff :
    withName? closing t n = some g ↔ g.closing = closing ∧ ∃ k, 1 ≤ k ∧ k ≤ n ∧ g.name = t.take k ∧
      (∃ rest, cutAttributes (t.drop k) = (g.attributes, '>' :: rest)) ∧
      ∀ m, k < m → m ≤ n → (cutAttributes (t.drop m)).2.head? ≠ some '>' := by
  induction n with
  | zero =>
    refine ⟨nofun, ?_⟩
    rintro ⟨-, k, hpos, hle, -⟩
    omega
  | succ n ih =>
    simp only [withName?]
    split
    · next hhead =>
      obtain ⟨rest, hrest⟩ := List.head?_eq_some_iff.mp hhead
      constructor
      · rintro ⟨⟩
        exact ⟨rfl, n + 1, by omega, Nat.le_refl _, rfl, ⟨rest, Prod.ext rfl hrest⟩,
          fun m hlt hle => by omega⟩
      · rintro ⟨rfl, k, hpos, hle, hname, ⟨rest', hcut⟩, hlongest⟩
        rcases Nat.lt_or_ge k (n + 1) with hlt | hge
        · exact absurd hhead (hlongest (n + 1) hlt (Nat.le_refl _))
        · obtain rfl : k = n + 1 := by omega
          rw [hcut, ← hname]
    · next hhead =>
      rw [ih]
      refine and_congr_right fun _ => exists_congr fun k => ?_
      constructor
      · rintro ⟨hpos, hle, hname, hcut, hlongest⟩
        refine ⟨hpos, by omega, hname, hcut, fun m hlt hm => ?_⟩
        rcases Nat.lt_or_ge n m with hm' | hm'
        · obtain rfl : m = n + 1 := by omega
          exact hhead
        · exact hlongest m hlt hm'
      · rintro ⟨hpos, hle, hname, ⟨rest, hcut⟩, hlongest⟩
        refine ⟨hpos, ?_, hname, ⟨rest, hcut⟩, fun m hlt hm => hlongest m hlt (by omega)⟩
        by_contra hlt
        obtain rfl : k = n + 1 := by omega
        rw [hcut] at hhead
        exact hhead rfl

theorem withName?_takeName_eq_some_iff :
    withName? closing t (takeName t).length = some g ↔
      g.closing = closing ∧ (g.IsWellFormed ∧ g.inner <+: t) ∧
        ∀ g' : Tag, g'.IsWellFormed ∧ g'.inner <+: t → g'.name.length ≤ g.name.length := by
  have hlength : ∀ k, k ≤ (takeName t).length → (t.take k).length = k := fun k hk => by
    rw [List.length_take, Nat.min_eq_left (Nat.le_trans hk (length_takeName_le t))]
  rw [withName?_eq_some_iff]
  refine and_congr_right fun _ => ⟨?_, ?_⟩
  · rintro ⟨k, hpos, hle, hname, hcut, hlongest⟩
    have hk : g.name.length = k := by rw [hname, hlength k hle]
    refine ⟨wellFormed_and_prefix_iff.mpr ⟨by omega, by omega, by rw [hk, hname], by rwa [hk]⟩, ?_⟩
    intro g' hg'
    obtain ⟨-, hle', -, rest, hcut'⟩ := wellFormed_and_prefix_iff.mp hg'
    by_contra hlt
    refine hlongest g'.name.length (by omega) hle' ?_
    rw [hcut']
    rfl
  · rintro ⟨hg, hlongest⟩
    obtain ⟨hpos, hle, hname, hcut⟩ := wellFormed_and_prefix_iff.mp hg
    refine ⟨g.name.length, hpos, hle, hname, hcut, fun m hlt hm hhead => ?_⟩
    -- a longer name would be that of another tag with which the text starts
    obtain ⟨rest, hrest⟩ := List.head?_eq_some_iff.mp hhead
    have hm' := hlength m hm
    have hlonger := hlongest ⟨closing, t.take m, (cutAttributes (t.drop m)).1⟩
      (wellFormed_and_prefix_iff.mpr ⟨by simp only [hm']; omega, by simpa only [hm'] using hm,
        by simp only [hm'], rest, by simp only [hm']; exact Prod.ext rfl hrest⟩)
    simp only [hm'] at hlonger
    omega

theorem isReadFrom_opener_iff (hslash : closing = true ∨ t.head? ≠ some '/') :
    g.IsReadFrom (opener closing ++ t) ↔
      withName? closing t (takeName t).length = some g := by
  rw [withName?_takeName_eq_some_iff]
  constructor
  · intro h
    obtain ⟨hclosing, hinner⟩ := (toText_prefix_iff h.wellFormed hslash).mp h.stands
    refine ⟨hclosing, ⟨h.wellFormed, hinner⟩, ?_⟩
    rintro ⟨closing', name, attributes⟩ ⟨hname, hprefix⟩
    -- how a tag opens matters neither to its form nor to the length of its name
    have hwellFormed : IsWellFormed ⟨closing, name, attributes⟩ := ⟨hname.name, hname.attributes⟩
    exact h.longest ⟨closing, name, attributes⟩ hwellFormed
      ((toText_prefix_iff hwellFormed hslash).mpr ⟨rfl, hprefix⟩)
  · rintro ⟨hclosing, ⟨hwellFormed, hinner⟩, hlongest⟩
    exact ⟨hwellFormed, (toText_prefix_iff hwellFormed hslash).mpr ⟨hclosing, hinner⟩,
      fun g' hg' hprefix => hlongest g' ⟨hg', ((toText_prefix_iff hg' hslash).mp hprefix).2⟩⟩

/-- What starts with a bracket starts with what opens a tag, and not with half of it. -/
theorem exists_opener (h : t.head? = some '<') :
    ∃ closing u, t = opener closing ++ u ∧ (closing = true ∨ u.head? ≠ some '/') := by
  obtain ⟨r, rfl⟩ := List.head?_eq_some_iff.mp h
  by_cases hr : r.head? = some '/'
  · obtain ⟨u, rfl⟩ := List.head?_eq_some_iff.mp hr
    exact ⟨true, u, rfl, Or.inl rfl⟩
  · exact ⟨false, r, rfl, Or.inr hr⟩

theorem head?_of_ofText? (h : (ofText? t).isSome) : t.head? = some '<' := by
  unfold ofText? at h
  split at h
  · rfl
  · rfl
  · cases h

theorem head?_of_stands (h : g.toText <+: t) : t.head? = some '<' := by
  obtain ⟨u, rfl, -⟩ := exists_of_stands h
  cases g.closing with
  | _ => rfl

/-- The reader of tags reads the one with the longest name. -/
theorem ofText?_eq_some_iff : ofText? t = some g ↔ g.IsReadFrom t := by
  by_cases hbracket : t.head? = some '<'
  · obtain ⟨closing, u, rfl, hslash⟩ := exists_opener hbracket
    rw [ofText?_opener hslash, isReadFrom_opener_iff hslash]
  · exact iff_of_false (fun h => hbracket (head?_of_ofText? (by rw [h, Option.isSome_some])))
      fun h => hbracket (head?_of_stands h.stands)

/-- A tag is read wherever one is written. -/
theorem isSome_ofText?_iff :
    (ofText? t).isSome ↔ ∃ g : Tag, g.IsWellFormed ∧ g.toText <+: t := by
  rw [Option.isSome_iff_exists]
  constructor
  · rintro ⟨g, hg⟩
    obtain ⟨hwellFormed, hprefix, -⟩ := ofText?_eq_some_iff.mp hg
    exact ⟨g, hwellFormed, hprefix⟩
  · rintro ⟨g, hwellFormed, hprefix⟩
    classical
    let IsLength (n : Nat) : Prop :=
      ∃ g : Tag, g.IsWellFormed ∧ g.toText <+: t ∧ g.name.length = n
    have hbound : ∀ g : Tag, g.toText <+: t → g.name.length ≤ t.length := fun g hg => by
      refine Nat.le_trans ?_ hg.length_le
      rw [toText_eq, inner, List.length_append, List.length_append]
      omega
    obtain ⟨g', hwellFormed', hprefix', hlength⟩ : IsLength (Nat.findGreatest IsLength t.length) :=
      Nat.findGreatest_spec (hbound g hprefix) ⟨g, hwellFormed, hprefix, rfl⟩
    refine ⟨g', ofText?_eq_some_iff.mpr ⟨hwellFormed', hprefix', fun g hg ht => ?_⟩⟩
    rw [hlength]
    exact Nat.le_findGreatest (hbound g ht) ⟨g, hg, ht, rfl⟩

/-- Where a tag can be read, one can be read whatever follows. -/
theorem isSome_ofText?_append (h : (ofText? t).isSome) (u : Text) : (ofText? (t ++ u)).isSome := by
  obtain ⟨g, hg, hprefix⟩ := isSome_ofText?_iff.mp h
  exact isSome_ofText?_iff.mpr ⟨g, hg, hprefix.trans (List.prefix_append t u)⟩

end Tag

end SmartQuotes.Markup
