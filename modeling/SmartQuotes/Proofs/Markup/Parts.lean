import SmartQuotes.Proofs.Markup.Extent

/-!
# The parts of a template

A template is cut into runs, and each run is searched for embedded expressions anew. Both searches
look for the same braces by different means: the first one steps over an expression to find where
its run ends, the second one looks for pairs of braces in the run that it is given. `Part.list`
records what the first one steps over, with one cursor for the whole template, and its parts are
those of the two searches (`flatMap_parts_list`): what was stepped over is found again, and nothing
else is. Prose and markup alternate among the parts (`isChain_list`), so that no prose is cut in
two, and behind braces that are never closed there is nothing but prose (`unbraced_list`).
-/

namespace SmartQuotes

namespace Text

variable {part t u : Text}

/-- The first place at which a text occurs is told by the characters up to its end. -/
theorem locate?_take_append {n : Nat} (h : locate? part t = some n) (u : Text) :
    locate? part (t.take (n + part.length) ++ u) = some n := by
  have hat := locate?_eq_some_iff.mp h
  obtain ⟨body, rest, rfl, rfl⟩ := hat.exists_append
  rw [← List.append_assoc, ← List.length_append, List.take_left]
  refine locate?_eq_some_iff.mpr ⟨?_, fun m hm hp => hat.2 m hm ?_⟩
  · rw [List.append_assoc, List.drop_left]
    exact List.prefix_append part u
  · -- from an earlier place, the part would stand in the characters that were kept
    have hlength : m + part.length ≤ (body ++ part).length := by
      rw [List.length_append]
      omega
    rw [List.drop_append_of_le_length (by omega)] at hp
    rw [← List.append_assoc, List.drop_append_of_le_length (by omega)]
    have hfront : part <+: (body ++ part).drop m :=
      List.prefix_of_prefix_length_le hp (List.prefix_append _ u) (by rw [List.length_drop]; omega)
    exact hfront.trans (List.prefix_append _ rest)

end Text

namespace Markup

namespace Segment

variable {c : Char} {t u : Text}

theorem list_of_none (h : firstEmbedded? t = none) : list t = [prose t] := by
  rw [list]
  split
  · rfl
  · next hsome => rw [h] at hsome; cases hsome

theorem list_of_some {i n : Nat} (h : firstEmbedded? t = some (i, n)) :
    list t = prose (t.take i) :: embedded ((t.drop (i + 2)).take n) ::
      list (t.drop (i + 2 + n + 2)) := by
  rw [list]
  split
  · next hnone => rw [h] at hnone; cases hnone
  · next i' n' hsome =>
    rw [h] at hsome
    cases hsome
    rfl

/-- The first embedded expression of a text that does not start with one. -/
theorem firstEmbedded?_cons (h : ¬ opening <+: c :: u) :
    firstEmbedded? (c :: u) = (firstEmbedded? u).map fun x => (x.1 + 1, x.2) := by
  rw [firstEmbedded?, firstEmbedded?, Text.locate?,
    if_neg (fun hp => h (List.isPrefixOf_iff_prefix.mp hp))]
  cases Text.locate? opening u with
  | none => rfl
  | some i =>
    rw [Option.map_some, Option.bind_some, Option.bind_some, Option.map_map, Nat.add_right_comm,
      List.drop_succ_cons]
    rfl

theorem firstEmbedded?_opening :
    firstEmbedded? (opening ++ t) = (Text.locate? closing t).map fun n => (0, n) := by
  have hlocate : Text.locate? opening (opening ++ t) = some 0 := by
    rw [opening, List.cons_append, Text.locate?, if_pos]
    exact List.isPrefixOf_iff_prefix.mpr (List.prefix_append ['\x7b', '\x7b'] t)
  rw [firstEmbedded?, hlocate]
  rfl

end Segment

/-! ## Reading with one cursor -/

/-- A stretch of a template that is read once. -/
inductive Part
  | prose (t : Text)
  | embedded (expression : Text)
  | comment (t : Text)
  | tag (g : Tag)
deriving DecidableEq, Repr

namespace Part

def toText : Part → Text
  | prose t => t
  | embedded t => Segment.opening ++ t ++ Segment.closing
  | comment t => t
  | tag g => g.toText

def isProse : Part → Bool
  | prose _ => true
  | _ => false

/-- Put a character in front of prose. -/
def push (c : Char) : List Part → List Part
  | prose t :: rest => prose (c :: t) :: rest
  | parts => prose [c] :: parts

/-- The parts of a range; `beyond` are the characters behind it. The cursor takes the steps by which
the end of a run is looked for, over an expression between braces at once, and records each of them.
Behind braces that are never closed everything is prose. -/
def list (beyond : Text) (t : Text) : List Part :=
  match t with
  | [] => [prose []]
  | '<' :: r =>
    if Piece.startsComment beyond ('<' :: r) then
      let found := Piece.takeComment ('<' :: r)
      prose [] :: comment found :: list beyond (r.drop (found.length - 1))
    else match Tag.ofText? ('<' :: r) with
      | none => push '<' (list beyond r)
      | some g => prose [] :: tag g :: list beyond (r.drop (g.toText.length - 1))
  | '\x7b' :: '\x7b' :: r =>
    match Text.locate? Segment.closing r with
    | none => [prose ('\x7b' :: '\x7b' :: r)]
    | some n => prose [] :: embedded (r.take n) :: list beyond (r.drop (n + 2))
  | c :: r => push c (list beyond r)
termination_by t.length
decreasing_by all_goals simp only [List.length_cons, List.length_drop]; omega

end Part

namespace Part

section

variable {beyond : Text} {c : Char} {r : Text}

@[simp] theorem list_nil : list beyond [] = [prose []] := by rw [list]

theorem list_comment (h : Piece.startsComment beyond ('<' :: r) = true) :
    list beyond ('<' :: r) = prose [] :: comment (Piece.takeComment ('<' :: r)) ::
      list beyond (r.drop ((Piece.takeComment ('<' :: r)).length - 1)) := by
  rw [list, if_pos h]

theorem list_tag (h : Piece.startsComment beyond ('<' :: r) = false) {g : Tag}
    (hg : Tag.ofText? ('<' :: r) = some g) :
    list beyond ('<' :: r) =
      prose [] :: tag g :: list beyond (r.drop (g.toText.length - 1)) := by
  rw [list, if_neg (by simp [h]), hg]

theorem exists_list_of_startsMarkup (h : Piece.startsMarkup beyond ('<' :: r) = true) :
    ∃ parts, list beyond ('<' :: r) = prose [] :: parts := by
  by_cases hcomment : Piece.startsComment beyond ('<' :: r) = true
  · exact ⟨_, list_comment hcomment⟩
  · rw [Piece.startsMarkup, Bool.or_eq_true, or_iff_right hcomment] at h
    obtain ⟨g, hg⟩ := Option.isSome_iff_exists.mp h
    exact ⟨_, list_tag (by simpa using hcomment) hg⟩

theorem list_lone (h : Piece.startsMarkup beyond ('<' :: r) = false) :
    list beyond ('<' :: r) = push '<' (list beyond r) := by
  rw [Piece.startsMarkup, Bool.or_eq_false_iff, Option.isSome_eq_false_iff,
    Option.isNone_iff_eq_none] at h
  rw [list, if_neg (by simp [h.1]), h.2]

theorem list_unclosed (h : Text.locate? Segment.closing r = none) :
    list beyond ('\x7b' :: '\x7b' :: r) = [prose ('\x7b' :: '\x7b' :: r)] := by
  rw [list, h]

theorem list_embedded {n : Nat} (h : Text.locate? Segment.closing r = some n) :
    list beyond ('\x7b' :: '\x7b' :: r) =
      prose [] :: embedded (r.take n) :: list beyond (r.drop (n + 2)) := by
  rw [list, h]

theorem list_other (hc : c ≠ '<') (hbrace : c = '\x7b' → r.head? ≠ some '\x7b') :
    list beyond (c :: r) = push c (list beyond r) := by
  rw [list]
  · exact hc
  · rintro u h rfl
    exact hbrace h rfl

theorem push_append {parts : List Part} (h : parts ≠ []) (rest : List Part) :
    push c (parts ++ rest) = push c parts ++ rest := by
  cases parts with
  | nil => exact absurd rfl h
  | cons p parts => cases p <;> rfl

end

end Part

/-! ## Reading twice -/

/-- A segment of a run as a part of the template. -/
def Segment.part : Segment → Part
  | prose t => .prose t
  | embedded t => .embedded t

/-- The parts of a piece: of a run those that are found in it anew. -/
def Piece.parts : Piece → List Part
  | run t => (Segment.list t).map Segment.part
  | comment t => [.comment t]
  | tag g => [.tag g]

namespace Segment

variable {c : Char} {t u : Text}

theorem map_part_list_ne_nil (t : Text) : (list t).map part ≠ [] := by
  rw [list]
  split <;> exact List.cons_ne_nil _ _

theorem map_part_list_cons (h : ¬ opening <+: c :: u) :
    (list (c :: u)).map part = Part.push c ((list u).map part) := by
  have hcons := firstEmbedded?_cons h
  cases hu : firstEmbedded? u with
  | none =>
    rw [hu] at hcons
    rw [list_of_none hcons, list_of_none hu]
    rfl
  | some x =>
    obtain ⟨i, n⟩ := x
    rw [hu] at hcons
    have hbehind : i + 1 + 2 + n + 2 = i + 2 + n + 2 + 1 := by omega
    rw [list_of_some hcons, list_of_some hu, Nat.add_right_comm, List.take_succ_cons,
      List.drop_succ_cons, Nat.add_right_comm i, hbehind, List.drop_succ_cons]
    rfl

theorem list_embedded {n : Nat} (h : Text.locate? closing t = some n) :
    list (opening ++ t) = prose [] :: embedded (t.take n) :: list (t.drop (n + 2)) := by
  have hfirst : firstEmbedded? (opening ++ t) = some (0, n) := by
    rw [firstEmbedded?_opening, h]
    rfl
  have hbehind : 0 + 2 + n + 2 = n + 2 + 2 := by omega
  rw [list_of_some hfirst, hbehind]
  rfl

/-- What stands behind a closed pair of braces does not matter to what is between them. -/
theorem list_embedded_append {n : Nat} (h : Text.locate? closing t = some n) :
    list (opening ++ (t.take (n + 2) ++ u)) = prose [] :: embedded (t.take n) :: list u := by
  have hlength : (t.take (n + 2)).length = n + 2 := by
    have hdrop := congrArg List.length (Text.drop_eq_of_locate? h)
    have hclosing : closing.length = 2 := rfl
    rw [List.length_drop, List.length_append, List.length_drop] at hdrop
    rw [List.length_take]
    omega
  have hexpression : (t.take (n + 2) ++ u).take n = t.take n := by
    rw [List.take_append_of_le_length (by omega), List.take_take, Nat.min_eq_left (by omega)]
  have hfound : Text.locate? closing (t.take (n + 2) ++ u) = some n :=
    Text.locate?_take_append h u
  rw [list_embedded hfound, hexpression, List.drop_left' hlength]

theorem list_unclosed (h : Text.locate? closing t = none) :
    list (opening ++ t) = [prose (opening ++ t)] := by
  refine list_of_none ?_
  rw [firstEmbedded?_opening, h]
  rfl

end Segment

namespace Piece

/-- A run is found to consist of the parts that are read on the way to its end. -/
theorem list_eq_append_cutRun (beyond t : Text) :
    Part.list beyond t = (Segment.list (cutRun beyond t).1).map Segment.part ++
      (Part.list beyond (cutRun beyond t).2).tail := by
  fun_induction cutRun beyond t with
  | case1 =>
    rw [Part.list_nil, Segment.list_of_none (by rfl)]
    rfl
  | case2 r hmarkup =>
    obtain ⟨parts, hparts⟩ := Part.exists_list_of_startsMarkup hmarkup
    rw [hparts, Segment.list_of_none (by rfl)]
    rfl
  | case3 r hlone more rest hcut ih =>
    rw [hcut] at ih
    have hne : ¬ Segment.opening <+: '<' :: more := fun h =>
      absurd (List.cons_prefix_cons.mp h).1 (by decide)
    rw [Part.list_lone (by simpa using hlone), ih,
      Part.push_append (Segment.map_part_list_ne_nil more),
      ← Segment.map_part_list_cons hne]
  | case4 r hnone =>
    rw [Part.list_unclosed hnone, Part.list_nil]
    exact congrArg (List.map Segment.part · ++ []) (Segment.list_unclosed hnone).symm
  | case5 r n hsome more rest hcut ih =>
    rw [hcut] at ih
    rw [Part.list_embedded hsome, ih]
    exact congrArg (List.map Segment.part · ++ _) (Segment.list_embedded_append hsome).symm
  | case6 c r hc hbrace more rest hcut ih =>
    rw [hcut] at ih
    have hmore : more ++ rest = r := by
      have := append_cutRun beyond r
      rwa [hcut] at this
    have hne : ¬ Segment.opening <+: c :: more := by
      intro h
      obtain ⟨hc, h⟩ := List.cons_prefix_cons.mp h
      obtain ⟨u, hu⟩ := h
      refine hbrace (u ++ rest) hc.symm ?_
      rw [← hmore, ← hu]
      rfl
    have hbrace' : c = '\x7b' → r.head? ≠ some '\x7b' := by
      intro hc hhead
      obtain ⟨u, hu⟩ := List.head?_eq_some_iff.mp hhead
      exact hbrace u hc hu
    rw [Part.list_other hc hbrace', ih,
      Part.push_append (Segment.map_part_list_ne_nil more),
      ← Segment.map_part_list_cons hne]

/-- A run ends in front of a comment or a tag, or with the range. -/
theorem startsMarkup_of_cutRun {beyond t : Text} {c : Char} {r : Text}
    (h : (cutRun beyond t).2 = c :: r) : c = '<' ∧ startsMarkup beyond (c :: r) = true := by
  fun_induction cutRun beyond t with
  | case1 => cases h
  | case2 u hmarkup =>
    cases h
    exact ⟨rfl, hmarkup⟩
  | case3 u hlone more rest hcut ih => exact ih (hcut ▸ h)
  | case4 => cases h
  | case5 u n hsome more rest hcut ih => exact ih (hcut ▸ h)
  | case6 d u hd hbrace more rest hcut ih => exact ih (hcut ▸ h)

/-- The two searches find what is found by reading the template once. -/
theorem flatMap_parts_list (beyond t : Text) :
    (list beyond t).flatMap parts = Part.list beyond t := by
  fun_induction list beyond t with
  | case1 t hcut =>
    have hrun := list_eq_append_cutRun beyond t
    have happend := append_cutRun beyond t
    rw [hcut, List.append_nil] at happend
    rw [hcut, happend, Part.list_nil] at hrun
    rw [List.flatMap_singleton, hrun]
    exact (List.append_nil _).symm
  | case2 t c r hcut _ between hcomment found ih =>
    obtain ⟨rfl, -⟩ := startsMarkup_of_cutRun hcut
    rw [list_eq_append_cutRun beyond t, hcut, Part.list_comment hcomment, List.flatMap_cons,
      List.flatMap_cons, ih]
    rfl
  | case3 t c r hcut _ between hcomment hnone =>
    -- a run does not end in front of anything else
    obtain ⟨rfl, hmarkup⟩ := startsMarkup_of_cutRun hcut
    rw [startsMarkup, hnone, Option.isSome_none, Bool.or_false] at hmarkup
    exact absurd hmarkup hcomment
  | case4 t c r hcut _ between hcomment g hg ih =>
    obtain ⟨rfl, -⟩ := startsMarkup_of_cutRun hcut
    rw [list_eq_append_cutRun beyond t, hcut, Part.list_tag (by simpa using hcomment) hg,
      List.flatMap_cons, List.flatMap_cons, ih]
    rfl

end Piece

/-! ## What the parts are -/

theorem Piece.flatMap_toText_parts (p : Piece) : p.parts.flatMap Part.toText = p.toText := by
  cases p with
  | run t =>
    have hpart : (Part.toText <| Segment.part ·) = Segment.toText := by
      funext s
      cases s <;> rfl
    rw [parts, List.flatMap_map, hpart, Segment.flatMap_toText_list]
    rfl
  | comment t => exact List.append_nil t
  | tag g => exact List.append_nil g.toText

namespace Part

variable {beyond t u : Text} {c : Char} {parts : List Part}

/-- The parts put together give back the template. -/
theorem flatMap_toText_list (beyond t : Text) : (list beyond t).flatMap toText = t := by
  rw [← Piece.flatMap_parts_list, List.flatMap_assoc]
  simp only [Piece.flatMap_toText_parts]
  exact Piece.flatMap_toText_list beyond t

/-- Prose comes first; it may be empty. -/
theorem exists_list_eq (beyond t : Text) : ∃ u rest, list beyond t = prose u :: rest := by
  rw [Piece.list_eq_append_cutRun, Segment.list]
  split
  · exact ⟨_, _, rfl⟩
  · exact ⟨_, _, rfl⟩

/-- Prose and markup alternate. -/
theorem isChain_list (beyond t : Text) :
    (list beyond t).IsChain fun p q => p.isProse = !q.isProse := by
  have behind : ∀ (p : Part) (t : Text), p.isProse = false →
      (list beyond t).IsChain (fun p q => p.isProse = !q.isProse) →
        (prose [] :: p :: list beyond t).IsChain fun p q => p.isProse = !q.isProse := by
    intro p t hp h
    obtain ⟨u, rest, hlist⟩ := exists_list_eq beyond t
    rw [hlist] at h ⊢
    exact .cons_cons (by rw [hp]; rfl) (.cons_cons hp h)
  have pushed : ∀ (c : Char) (t : Text),
      (list beyond t).IsChain (fun p q => p.isProse = !q.isProse) →
        (push c (list beyond t)).IsChain fun p q => p.isProse = !q.isProse := by
    intro c t h
    obtain ⟨u, rest, hlist⟩ := exists_list_eq beyond t
    rw [hlist] at h ⊢
    cases h with
    | singleton => exact .singleton _
    | cons_cons hfirst hrest => exact .cons_cons hfirst hrest
  fun_induction list beyond t with
  | case1 => exact .singleton _
  | case2 r hcomment found ih => exact behind _ _ rfl ih
  | case3 r hcomment hnone ih => exact pushed _ _ ih
  | case4 r hcomment g hg ih => exact behind _ _ rfl ih
  | case5 r hnone => exact .singleton _
  | case6 r n hsome ih => exact behind _ _ rfl ih
  | case7 c r hc hbrace ih => exact pushed _ _ ih

/-! ## Braces in prose -/

/-- No prose holds an embedded expression, and only the last holds braces that open one. -/
structure Unbraced (parts : List Part) : Prop where
  none : ∀ t, prose t ∈ parts → Segment.firstEmbedded? t = .none
  last : ∀ t, prose t ∈ parts.dropLast → Text.locate? Segment.opening t = .none

theorem Unbraced.cons {p : Part} (hp : p.isProse = false) (hne : parts ≠ [])
    (h : Unbraced parts) : Unbraced (prose [] :: p :: parts) := by
  have hmem : ∀ t rest, prose t ∈ prose [] :: p :: rest → t = [] ∨ prose t ∈ rest := by
    intro t rest ht
    rcases List.mem_cons.mp ht with heq | ht
    · cases heq
      exact .inl rfl
    · rcases List.mem_cons.mp ht with rfl | ht
      · cases hp
      · exact .inr ht
  refine ⟨fun t ht => ?_, fun t ht => ?_⟩
  · rcases hmem t _ ht with rfl | ht
    · rfl
    · exact h.none t ht
  · rw [List.dropLast_cons_of_ne_nil (List.cons_ne_nil _ _), List.dropLast_cons_of_ne_nil hne] at ht
    rcases hmem t _ ht with rfl | ht
    · rfl
    · exact h.last t ht

/-- A character in front of prose that does not open an expression with it. -/
theorem Unbraced.push (hc : ¬ Segment.opening <+: c :: u) (h : Unbraced (prose u :: parts)) :
    Unbraced (prose (c :: u) :: parts) := by
  refine ⟨fun t ht => ?_, fun t ht => ?_⟩
  · rcases List.mem_cons.mp ht with heq | ht
    · cases heq
      rw [Segment.firstEmbedded?_cons hc, h.none u List.mem_cons_self]
      rfl
    · exact h.none t (List.mem_cons_of_mem _ ht)
  · cases parts with
    | nil => cases ht
    | cons p parts =>
      rw [List.dropLast_cons_of_ne_nil (List.cons_ne_nil _ _)] at ht
      rcases List.mem_cons.mp ht with heq | ht
      · cases heq
        rw [Text.locate?, if_neg fun hp => hc (List.isPrefixOf_iff_prefix.mp hp),
          h.last u List.mem_cons_self]
        rfl
      · exact h.last t (List.mem_cons_of_mem _ ht)

theorem unbraced_list (beyond t : Text) : Unbraced (list beyond t) := by
  have pushed : ∀ (c : Char) (r : Text), (c = '\x7b' → r.head? ≠ some '\x7b') →
      Unbraced (list beyond r) → Unbraced (push c (list beyond r)) := by
    intro c r hbrace h
    obtain ⟨u, rest, hlist⟩ := exists_list_eq beyond r
    have htext := flatMap_toText_list beyond r
    rw [hlist] at h htext ⊢
    refine h.push fun hprefix => ?_
    obtain ⟨rfl, v, rfl⟩ := List.cons_prefix_cons.mp hprefix
    refine hbrace rfl ?_
    rw [← htext]
    rfl
  have hne : ∀ r, list beyond r ≠ [] := by
    intro r
    obtain ⟨u, rest, hlist⟩ := exists_list_eq beyond r
    rw [hlist]
    exact List.cons_ne_nil _ _
  fun_induction list beyond t with
  | case1 => exact ⟨fun t ht => by cases List.mem_singleton.mp ht; rfl, nofun⟩
  | case2 r hcomment found ih => exact ih.cons rfl (hne _)
  | case3 r hcomment hnone ih => exact pushed _ _ nofun ih
  | case4 r hcomment g hg ih => exact ih.cons rfl (hne _)
  | case5 r hnone =>
    refine ⟨fun t ht => ?_, nofun⟩
    cases List.mem_singleton.mp ht
    have hfirst := Segment.firstEmbedded?_opening (t := r)
    rw [hnone] at hfirst
    exact hfirst
  | case6 r n hsome ih => exact ih.cons rfl (hne _)
  | case7 c r hc hbrace ih =>
    refine pushed _ _ (fun hc hhead => ?_) ih
    obtain ⟨u, hu⟩ := List.head?_eq_some_iff.mp hhead
    exact hbrace u hc hu

/-! ## Parts at their places -/

/-- The parts, each with the offset at which it starts. -/
def placed (start : Int) : List Part → List (Int × Part)
  | [] => []
  | p :: rest => (start, p) :: placed (start + p.toText.length) rest

theorem placed_append (start : Int) (parts rest : List Part) :
    placed start (parts ++ rest) =
      placed start parts ++ placed (start + (parts.flatMap toText).length) rest := by
  induction parts generalizing start with
  | nil =>
    rw [List.nil_append, placed, List.nil_append, List.flatMap_nil, List.length_nil,
      Int.natCast_zero, Int.add_zero]
  | cons p parts ih =>
    rw [List.cons_append, placed, placed, ih, length_flatMap_cons, List.cons_append,
      Int.natCast_add, Int.add_assoc]

theorem le_of_mem_placed {start : Int} {x : Int × Part} (hx : x ∈ placed start parts) :
    start ≤ x.1 := by
  induction parts generalizing start with
  | nil => cases hx
  | cons p parts ih =>
    rcases List.mem_cons.mp hx with rfl | hx
    · exact Int.le_refl _
    · have := ih hx
      omega

/-- Each part starts where those before it have ended. -/
theorem pairwise_placed (start : Int) (parts : List Part) :
    (placed start parts).Pairwise fun x y : Int × Part => x.1 + x.2.toText.length ≤ y.1 := by
  induction parts generalizing start with
  | nil => exact .nil
  | cons p parts ih => exact List.pairwise_cons.mpr ⟨fun y hy => le_of_mem_placed hy, ih _⟩

/-- Each part stands in the document where it is placed. -/
theorem slice_of_mem_placed {document : Text} {start stop : Int} (hstart : 0 ≤ start)
    (hlength : start + (parts.flatMap toText).length = stop)
    (hparts : parts.flatMap toText = document.slice start stop) {x : Int × Part}
    (hx : x ∈ placed start parts) :
    x.1 + x.2.toText.length ≤ stop ∧
      document.slice x.1 (x.1 + x.2.toText.length) = x.2.toText := by
  induction parts generalizing start with
  | nil => cases hx
  | cons p parts ih =>
    rw [length_flatMap_cons] at hlength
    rw [List.flatMap_cons] at hparts
    rcases List.mem_cons.mp hx with rfl | hx
    · refine ⟨by simp only; omega, ?_⟩
      have hfront := Text.extract_slice (t := document) hstart (b := stop) (c := 0)
        (d := p.toText.length) (by omega)
      rw [← hparts, Text.extract, List.take_left, List.drop_zero, Int.natCast_zero,
        Int.add_zero] at hfront
      exact hfront.symm
    · refine ih (by omega) (by omega) ?_ hx
      have hback := Text.extract_slice (t := document) hstart (b := stop) (c := p.toText.length)
        (d := (stop - start).toNat) (by omega)
      have hall : (p.toText ++ parts.flatMap toText).length ≤ (stop - start).toNat := by
        rw [List.length_append]
        omega
      have hend : start + (stop - start).toNat = stop := by omega
      rw [← hparts, Text.extract, List.take_of_length_le hall, List.drop_left, hend] at hback
      exact hback

end Part

end Markup

end SmartQuotes
