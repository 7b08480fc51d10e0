import SmartQuotes.Proofs.Markup.Parts
import SmartQuotes.Proofs.Markup.Tag

/-!
# The grammar of templates

What the parts of a template are is said here without reading it: an expression goes up to the first
closing braces, a comment up to its first end or that of the range, a tag is the one with the longest
name that is written at its place, and prose is what starts none of them, with everything behind
braces that are never closed. A range has a single such partition, and it is the one that is read
(`partitions_iff`).
-/

namespace SmartQuotes.Markup

/-- Braces open an expression at a place of a text and are never closed. -/
def Segment.UnclosedAt (t : Text) (q : Nat) : Prop :=
  opening <+: t.drop q ∧ ¬ closing <:+: t.drop (q + 2)

theorem Segment.unclosedAt_succ_iff {c : Char} {t : Text} {q : Nat} :
    UnclosedAt (c :: t) (q + 1) ↔ UnclosedAt t q := by
  rw [UnclosedAt, UnclosedAt, List.drop_succ_cons, Nat.add_right_comm, List.drop_succ_cons]

namespace Part

variable {beyond t u v rest : Text} {c : Char} {m m' : Part} {parts parts' : List Part}

/-- The range `t` starts with a part that is not prose. An opening comment counts even if its first
characters are the last ones of the range. -/
def IsReadFrom (beyond t : Text) : Part → Prop
  | prose _ => False
  | embedded e => Segment.opening ++ e ++ Segment.closing <+: t ∧
      ∀ n < e.length, ¬ Segment.closing <+: t.drop (n + 2)
  | comment c =>
      (∃ body, c = text "<!--" ++ body ++ text "-->" ∧ c <+: t ∧
        ∀ n < body.length, ¬ text "-->" <+: t.drop (n + 4)) ∨
      c = t ∧ t ≠ [] ∧ text "<!--" <+: t ++ beyond ∧ ¬ text "-->" <:+: t.drop 4
  | tag g => g.IsReadFrom t

/-- The range `t` starts with the prose `u`: what starts in the prose stands behind braces that are
never closed, and if there are such braces, then all of the range is prose. -/
structure IsProseOf (beyond t u : Text) : Prop where
  stands : u <+: t
  unmarked : ∀ p < u.length, ∀ m, IsReadFrom beyond (t.drop p) m →
    ∃ q < p, Segment.UnclosedAt t q
  whole : ∀ q < u.length, Segment.UnclosedAt t q → u = t

/-- The parts make up a range: prose comes first and last, and behind each other part. -/
inductive Partitions (beyond : Text) : Text → List Part → Prop
  | prose {t : Text} (ht : IsProseOf beyond t t) : Partitions beyond t [prose t]
  | markup {u rest : Text} {m : Part} {parts : List Part}
      (hu : IsProseOf beyond (u ++ (m.toText ++ rest)) u)
      (hm : IsReadFrom beyond (m.toText ++ rest) m) (hrest : Partitions beyond rest parts) :
      Partitions beyond (u ++ (m.toText ++ rest)) (Part.prose u :: m :: parts)

/-! ## What is read is what is written -/

theorem startsComment_iff (hne : t ≠ []) :
    Piece.startsComment beyond t = true ↔ text "<!--" <+: t ++ beyond := by
  have hpos := List.length_pos_iff.mpr hne
  have htake : (t.take 4 ++ beyond.take 3).take 4 = (t ++ beyond).take 4 := by
    rw [List.take_append, List.take_append, List.take_take, List.take_take, List.length_take,
      Nat.min_self]
    congr 2
    omega
  have hlength : (text "<!--").length = 4 := rfl
  rw [Piece.startsComment, List.isPrefixOf_iff_prefix, List.prefix_iff_eq_take,
    List.prefix_iff_eq_take, hlength, htake]

/-- A comment that is closed is taken up to its first end. -/
theorem takeComment_closed {body : Text}
    (hfirst : Text.IsFirstAt (text "-->") (body ++ (text "-->" ++ rest)) body.length) :
    Piece.takeComment (text "<!--" ++ (body ++ (text "-->" ++ rest))) =
      text "<!--" ++ body ++ text "-->" := by
  have hdrop : (text "<!--" ++ (body ++ (text "-->" ++ rest))).drop 4 =
      body ++ (text "-->" ++ rest) := rfl
  rw [Piece.takeComment, hdrop, Text.locate?_eq_some_iff.mpr hfirst]
  simp only
  rw [← List.append_assoc, ← List.append_assoc, List.take_left']
  rw [List.length_append, List.length_append]
  rfl

theorem isReadFrom_comment_iff {found : Text} : IsReadFrom beyond t (comment found) ↔
    t ≠ [] ∧ Piece.startsComment beyond t = true ∧ found = Piece.takeComment t := by
  constructor
  · rintro (⟨body, rfl, ⟨rest, rfl⟩, hfirst⟩ | ⟨rfl, hne, hopening, hunclosed⟩)
    · rw [List.append_assoc, List.append_assoc] at hfirst ⊢
      have hne : text "<!--" ++ (body ++ (text "-->" ++ rest)) ≠ [] := List.cons_ne_nil _ _
      refine ⟨hne, (startsComment_iff hne).mpr ?_, (takeComment_closed ⟨?_, hfirst⟩).symm⟩
      · rw [List.append_assoc]
        exact List.prefix_append _ _
      · rw [List.drop_left]
        exact List.prefix_append _ _
    · refine ⟨hne, (startsComment_iff hne).mpr hopening, ?_⟩
      rw [Piece.takeComment, Text.locate?_eq_none_iff.mpr hunclosed]
  · rintro ⟨hne, hstarts, rfl⟩
    have hopening := (startsComment_iff hne).mp hstarts
    cases hlocate : Text.locate? (text "-->") (t.drop 4) with
    | none =>
      refine Or.inr ⟨?_, hne, hopening, Text.locate?_eq_none_iff.mp hlocate⟩
      rw [Piece.takeComment, hlocate]
    | some n =>
      have hfirst := Text.locate?_eq_some_iff.mp hlocate
      obtain ⟨body, rest, hdrop, rfl⟩ := hfirst.exists_append
      -- the end of the comment stands in the range, and so does its start
      have hlength : 4 ≤ t.length := by
        have h := congrArg List.length hdrop
        rw [List.length_drop, List.length_append, List.length_append] at h
        have hend : (text "-->").length = 3 := rfl
        omega
      obtain ⟨u, rfl⟩ := List.prefix_of_prefix_length_le hopening (List.prefix_append t beyond)
        hlength
      obtain rfl : u = body ++ (text "-->" ++ rest) := hdrop
      rw [takeComment_closed hfirst]
      refine Or.inl ⟨body, rfl, ⟨rest, by simp only [List.append_assoc]⟩, hfirst.2⟩

theorem isReadFrom_embedded_iff {e : Text} : IsReadFrom beyond t (embedded e) ↔
    ∃ r n, t = '\x7b' :: '\x7b' :: r ∧ Text.locate? Segment.closing r = some n ∧ e = r.take n := by
  constructor
  · rintro ⟨⟨rest, rfl⟩, hfirst⟩
    rw [List.append_assoc, List.append_assoc] at hfirst ⊢
    refine ⟨e ++ (Segment.closing ++ rest), e.length, rfl, ?_, List.take_left.symm⟩
    refine Text.locate?_eq_some_iff.mpr ⟨?_, hfirst⟩
    rw [List.drop_left]
    exact List.prefix_append _ _
  · rintro ⟨r, n, rfl, hlocate, rfl⟩
    have hfirst := Text.locate?_eq_some_iff.mp hlocate
    obtain ⟨body, rest, rfl, rfl⟩ := hfirst.exists_append
    rw [List.take_left]
    exact ⟨⟨rest, by simp only [Segment.opening, List.append_assoc, List.cons_append,
      List.nil_append]⟩, hfirst.2⟩

/-- What starts a range stands there. -/
theorem IsReadFrom.stands (h : IsReadFrom beyond t m) : m.toText <+: t := by
  cases m with
  | prose u => cases h
  | embedded e => exact h.1
  | comment found =>
    rcases h with ⟨body, -, hfound, -⟩ | ⟨rfl, -⟩
    · exact hfound
    · exact List.prefix_rfl
  | tag g => exact h.stands

theorem IsReadFrom.toText_ne_nil (h : IsReadFrom beyond t m) : m.toText ≠ [] := by
  cases m with
  | prose u => cases h
  | embedded e => exact List.cons_ne_nil _ _
  | comment found =>
    rcases h with ⟨body, rfl, -⟩ | ⟨rfl, hne, -⟩
    · exact List.cons_ne_nil _ _
    · exact hne
  | tag g => exact List.length_pos_iff.mp g.length_toText_pos

theorem head?_of_comment {found : Text} (h : IsReadFrom beyond t (comment found)) :
    t.head? = some '<' := by
  obtain ⟨hne, hstarts, -⟩ := isReadFrom_comment_iff.mp h
  obtain ⟨c, r, rfl⟩ := List.exists_cons_of_ne_nil hne
  obtain ⟨rest, hrest⟩ := (startsComment_iff hne).mp hstarts
  exact (congrArg List.head? hrest).symm

/-- No tag stands where a comment opens: its mark follows the bracket. -/
theorem not_tag_of_comment {found : Text} {g : Tag} (h : IsReadFrom beyond t (comment found)) :
    ¬ g.IsReadFrom t := by
  obtain ⟨hne, hstarts, -⟩ := isReadFrom_comment_iff.mp h
  obtain ⟨rest, hrest⟩ := (startsComment_iff hne).mp hstarts
  have hmark : text "<!--" = ['<', '!', '-', '-'] := rfl
  rw [hmark] at hrest
  intro hg
  obtain ⟨u, hu, hinner⟩ := Tag.exists_of_stands (hg.stands.trans (List.prefix_append t beyond))
  rw [← hrest] at hu
  cases hclosing : g.closing with
  | true =>
    rw [hclosing] at hu
    cases hu
  | false =>
    rw [hclosing] at hu
    cases hu
    obtain ⟨c, r, hc, hletter⟩ := hg.wellFormed.exists_letter hinner
    cases hc
    cases hletter

theorem embedded_unique {e : Text} (h : IsReadFrom beyond t (embedded e))
    (h' : IsReadFrom beyond t m) : embedded e = m := by
  obtain ⟨r, n, rfl, hlocate, rfl⟩ := isReadFrom_embedded_iff.mp h
  cases m with
  | prose u => cases h'
  | embedded e' =>
    obtain ⟨r', n', hr, hlocate', rfl⟩ := isReadFrom_embedded_iff.mp h'
    cases hr
    rw [hlocate] at hlocate'
    cases hlocate'
    rfl
  | comment found => cases head?_of_comment h'
  | tag g => cases Tag.head?_of_stands h'.stands

theorem comment_unique {found : Text} (h : IsReadFrom beyond t (comment found))
    (h' : IsReadFrom beyond t m) : comment found = m := by
  cases m with
  | prose u => cases h'
  | embedded e => exact (embedded_unique h' h).symm
  | comment found' =>
    rw [(isReadFrom_comment_iff.mp h).2.2, (isReadFrom_comment_iff.mp h').2.2]
  | tag g => exact absurd h' (not_tag_of_comment h)

/-- A range starts with one part only. -/
theorem IsReadFrom.unique (h : IsReadFrom beyond t m) (h' : IsReadFrom beyond t m') : m = m' := by
  cases m with
  | prose u => cases h
  | embedded e => exact embedded_unique h h'
  | comment found => exact comment_unique h h'
  | tag g =>
    cases m' with
    | prose u => cases h'
    | embedded e => exact (embedded_unique h' h).symm
    | comment found => exact (comment_unique h' h).symm
    | tag g' =>
      have hg : Tag.ofText? t = some g := Tag.ofText?_eq_some_iff.mpr h
      rw [Tag.ofText?_eq_some_iff.mpr h'] at hg
      cases hg
      rfl

/-! ## There is one partition only -/

/-- No prose goes on beyond prose behind which something else starts. -/
theorem IsProseOf.length_le (hv : IsProseOf beyond t v) (hu : IsProseOf beyond t u)
    (hm : IsReadFrom beyond (t.drop u.length) m) : v.length ≤ u.length := by
  by_contra hlt
  obtain ⟨q, hq, hunclosed⟩ := hv.unmarked u.length (by omega) m hm
  have hlength := hv.stands.length_le
  rw [hu.whole q hq hunclosed] at hlt
  omega

theorem IsProseOf.not_whole (hu : IsProseOf beyond (u ++ (m.toText ++ rest)) u)
    (hm : IsReadFrom beyond (m.toText ++ rest) m) :
    ¬ IsProseOf beyond (u ++ (m.toText ++ rest)) (u ++ (m.toText ++ rest)) := by
  intro hall
  have hle := hall.length_le hu (by rwa [List.drop_left])
  have hpos := List.length_pos_iff.mpr hm.toText_ne_nil
  rw [List.length_append, List.length_append] at hle
  omega

/-- A range has a single partition. -/
theorem Partitions.unique (h : Partitions beyond t parts) (h' : Partitions beyond t parts') :
    parts = parts' := by
  induction h generalizing parts' with
  | prose ht =>
    cases h' with
    | prose => rfl
    | markup hu hm _ => exact absurd ht (hu.not_whole hm)
  | @markup u rest m parts hu hm hrest ih =>
    generalize htext : u ++ (m.toText ++ rest) = t at h'
    cases h' with
    | prose ht =>
      rw [← htext] at ht
      exact absurd ht (hu.not_whole hm)
    | @markup u' rest' m' parts' hu' hm' hrest' =>
      -- neither prose goes on beyond the other one
      have hlength : u.length = u'.length := by
        refine Nat.le_antisymm ?_ ?_
        · exact (htext ▸ hu).length_le hu' (by rwa [List.drop_left])
        · exact (htext ▸ hu').length_le hu (by rwa [List.drop_left])
      obtain ⟨rfl, htail⟩ := List.append_inj htext hlength
      obtain rfl : m = m' := (htail ▸ hm).unique hm'
      obtain rfl : rest = rest' := List.append_cancel_left htail
      rw [ih hrest']

/-! ## The parts that are read -/

theorem isProseOf_nil (beyond t : Text) : IsProseOf beyond t [] where
  stands := List.nil_prefix
  unmarked p hp := absurd hp (Nat.not_lt_zero p)
  whole q hq := absurd hq (Nat.not_lt_zero q)

theorem Partitions.cons (htext : m.toText ++ rest = t) (hm : IsReadFrom beyond t m)
    (hrest : Partitions beyond rest parts) : Partitions beyond t (Part.prose [] :: m :: parts) := by
  subst htext
  exact .markup (isProseOf_nil beyond _) hm hrest

/-- A character with which nothing starts goes on with the prose behind it. -/
theorem IsProseOf.cons (hmarkup : ∀ m, ¬ IsReadFrom beyond (c :: t) m)
    (hopening : ¬ Segment.opening <+: c :: t) (h : IsProseOf beyond t u) :
    IsProseOf beyond (c :: t) (c :: u) where
  stands := List.cons_prefix_cons.mpr ⟨rfl, h.stands⟩
  unmarked p hp m hm := by
    cases p with
    | zero => exact absurd hm (hmarkup m)
    | succ p =>
      obtain ⟨q, hq, hunclosed⟩ := h.unmarked p (Nat.lt_of_succ_lt_succ hp) m hm
      exact ⟨q + 1, Nat.succ_lt_succ hq, Segment.unclosedAt_succ_iff.mpr hunclosed⟩
  whole q hq hunclosed := by
    cases q with
    | zero => exact absurd hunclosed.1 hopening
    | succ q =>
      rw [h.whole q (Nat.lt_of_succ_lt_succ hq) (Segment.unclosedAt_succ_iff.mp hunclosed)]

theorem Partitions.push (hmarkup : ∀ m, ¬ IsReadFrom beyond (c :: t) m)
    (hopening : ¬ Segment.opening <+: c :: t) (h : Partitions beyond t (Part.prose u :: parts)) :
    Partitions beyond (c :: t) (Part.prose (c :: u) :: parts) := by
  cases h with
  | prose ht => exact .prose (ht.cons hmarkup hopening)
  | @markup u _ _ _ hu hm hrest => exact .markup (u := c :: u) (hu.cons hmarkup hopening) hm hrest

/-- Behind braces that are never closed all is prose. -/
theorem isProseOf_unclosed {r : Text} (h : ¬ Segment.closing <:+: r) :
    IsProseOf beyond ('\x7b' :: '\x7b' :: r) ('\x7b' :: '\x7b' :: r) where
  stands := List.prefix_rfl
  unmarked p hp m hm := by
    have hunclosed : Segment.UnclosedAt ('\x7b' :: '\x7b' :: r) 0 := ⟨⟨r, rfl⟩, h⟩
    cases p with
    | zero =>
      cases m with
      | prose u => cases hm
      | embedded e =>
        obtain ⟨r', n, hr, hlocate, -⟩ := isReadFrom_embedded_iff.mp hm
        cases hr
        rw [Text.locate?_eq_none_iff.mpr h] at hlocate
        cases hlocate
      | comment found => cases head?_of_comment hm
      | tag g => cases Tag.head?_of_stands hm.stands
    | succ p => exact ⟨0, Nat.succ_pos p, hunclosed⟩
  whole _ _ _ := rfl

/-- What is read of a range is a partition of it. -/
theorem partitions_list (beyond t : Text) : Partitions beyond t (list beyond t) := by
  have pushed : ∀ (c : Char) (r : Text), (∀ m, ¬ IsReadFrom beyond (c :: r) m) →
      ¬ Segment.opening <+: c :: r → Partitions beyond r (list beyond r) →
      Partitions beyond (c :: r) (push c (list beyond r)) := by
    intro c r hmarkup hopening h
    obtain ⟨u, rest, hlist⟩ := exists_list_eq beyond r
    rw [hlist] at h ⊢
    exact h.push hmarkup hopening
  fun_induction list beyond t with
  | case1 => exact .prose (isProseOf_nil beyond [])
  | case2 r hcomment found ih =>
    exact ih.cons (Piece.takeComment_append_drop '<' r)
      (isReadFrom_comment_iff.mpr ⟨List.cons_ne_nil _ _, hcomment, rfl⟩)
  | case3 r hcomment hnone ih =>
    refine pushed '<' r (fun m hm => ?_) (fun h => by cases (List.cons_prefix_cons.mp h).1) ih
    cases m with
    | prose u => exact hm
    | embedded e =>
      obtain ⟨_, _, h, -⟩ := isReadFrom_embedded_iff.mp hm
      cases h
    | comment found => exact hcomment (isReadFrom_comment_iff.mp hm).2.1
    | tag g =>
      rw [Tag.ofText?_eq_some_iff.mpr hm] at hnone
      cases hnone
  | case4 r hcomment g hg ih =>
    exact ih.cons (Piece.toText_append_drop hg) (Tag.ofText?_eq_some_iff.mp hg)
  | case5 r hnone => exact .prose (isProseOf_unclosed (Text.locate?_eq_none_iff.mp hnone))
  | case6 r n hsome ih =>
    refine ih.cons ?_ (isReadFrom_embedded_iff.mpr ⟨r, n, rfl, hsome, rfl⟩)
    have hclosed : r.drop n = Segment.closing ++ r.drop (n + 2) := Text.drop_eq_of_locate? hsome
    rw [toText, List.append_assoc, List.append_assoc, ← hclosed, List.take_append_drop]
    rfl
  | case7 c r hc hbrace ih =>
    refine pushed c r (fun m hm => ?_) ?_ ih
    · cases m with
      | prose u => exact hm
      | embedded e =>
        obtain ⟨r', n, h, -⟩ := isReadFrom_embedded_iff.mp hm
        cases h
        exact hbrace r' rfl rfl
      | comment found => exact hc (Option.some.inj (head?_of_comment hm))
      | tag g => exact hc (Option.some.inj (Tag.head?_of_stands hm.stands))
    · rintro ⟨r', h⟩
      cases h
      exact hbrace r' rfl rfl

/-- The parts of a range are those that are read. -/
theorem partitions_iff : Partitions beyond t parts ↔ parts = list beyond t := by
  constructor
  · exact fun h => h.unique (partitions_list beyond t)
  · rintro rfl
    exact partitions_list beyond t

end Part

end SmartQuotes.Markup
