import SmartQuotes.Markup.Block

/-!
# Where blocks end

The reading of a document as tags, with the offset behind the construct in which each tag was read.
It goes forward: a tag opens nowhere in front of the end of an earlier one. A block ends where all
elements that are open inside of it have been closed, its own one included, or with the document.
So the blocks of a document follow one another.
-/

namespace SmartQuotes.Markup

namespace Event

/-- The events of a text, each with the offset behind its construct. -/
def locatedFrom (closing : Bool) (offset : Nat) (t : Text) :
    Except Breakdown (List (Event × Nat)) :=
  match t with
  | [] => .ok []
  | c :: r =>
    if c = '<' then
      match construct offset r with
      | .broken b => .error b
      | .incomplete =>
        let n := incompleteWidth r
        locatedFrom true (offset + 1 + n) (r.drop n)
      | .unending events => .ok (events.map (·, offset + 1 + r.length))
      | .complete n events =>
        (locatedFrom closing (offset + 1 + n) (r.drop n)).map
          (events.map (·, offset + 1 + n) ++ ·)
    else if c = '&' && isMalformedNumber r then
      if closing || !r.contains ';' then .ok []
      else locatedFrom true (offset + 2) (r.drop 1)
    else locatedFrom closing (offset + 1) r
termination_by t.length
decreasing_by all_goals simp only [List.length_cons, List.length_drop]; omega

/-- The events of a document, each with the offset behind its construct. -/
def located (document : Text) : Except Breakdown (List (Event × Nat)) := locatedFrom false 0 document

/-- Without the offsets they are the events of the text. -/
theorem map_fst_locatedFrom (closing : Bool) (offset : Nat) (t : Text) :
    (locatedFrom closing offset t).map (List.map Prod.fst) = listFrom closing offset t := by
  fun_induction locatedFrom closing offset t with
  | case1 => rw [listFrom]; rfl
  | case2 closing offset r b h => simp only [listFrom, if_true, h]; rfl
  | case3 closing offset r h n ih =>
    rw [ih]
    simp only [listFrom, if_true, h]
    rfl
  | case4 closing offset r events h =>
    simp only [listFrom, if_true, h, Except.map, List.map_map]
    congr 1
    exact List.map_id _
  | case5 closing offset r n events h ih =>
    rw [listFrom, if_pos rfl, h]
    simp only
    rw [← ih]
    cases locatedFrom closing (offset + 1 + n) (r.drop n) with
    | error b => rfl
    | ok found =>
      simp only [Except.map, List.map_append, List.map_map]
      congr 2
      exact List.map_id _
  | case6 closing offset c r hc h h' => simp only [listFrom, hc, h, h', if_true, if_false]; rfl
  | case7 closing offset c r hc h h' ih =>
    rw [ih]
    simp only [listFrom, hc, h, h', if_true, if_false]
    rfl
  | case8 closing offset c r hc h ih =>
    rw [ih]
    simp only [listFrom, hc, h, if_false]
    rfl

/-! ## Going forward -/

/-- The event does not open a tag in front of the offset. -/
def OpensFrom (offset : Nat) (e : Event) : Prop := ∀ g k, e = .opens g k → offset ≤ k

theorem OpensFrom.mono {offset offset' : Nat} {e : Event} (h : e.OpensFrom offset)
    (hle : offset' ≤ offset) : e.OpensFrom offset' := fun g k hk => Nat.le_trans hle (h g k hk)

/-- The events of a construct: one that opens a tag comes first and opens it at the construct. -/
def FromConstruct (offset : Nat) (events : List Event) : Prop :=
  (∀ e ∈ events, e.OpensFrom offset) ∧ events.Pairwise fun _ e => ∀ n, e.OpensFrom n

theorem fromConstruct_nil (offset : Nat) : FromConstruct offset [] := ⟨nofun, .nil⟩

theorem fromConstruct_opens (g : StartTag) (offset : Nat) :
    FromConstruct offset [.opens g offset] := by
  refine ⟨fun e he => ?_, List.pairwise_singleton _ _⟩
  rw [List.mem_singleton.mp he]
  rintro _ _ ⟨⟩
  exact Nat.le_refl _

theorem fromConstruct_element (g : StartTag) (offset : Nat) (name : Text) :
    FromConstruct offset [.opens g offset, .closes name] := by
  refine ⟨fun e he => ?_, List.pairwise_pair.mpr fun _ => nofun⟩
  rw [List.mem_cons, List.mem_singleton] at he
  rcases he with rfl | rfl
  · rintro _ _ ⟨⟩
    exact Nat.le_refl _
  · exact nofun

theorem fromConstruct_closes (offset : Nat) (name : Option Text) :
    FromConstruct offset (name.map Event.closes).toList := by
  cases name with
  | none => exact fromConstruct_nil offset
  | some name =>
    refine ⟨fun e he => ?_, List.pairwise_singleton _ _⟩
    rw [Option.map_some, Option.toList_some, List.mem_singleton] at he
    rw [he]
    exact nofun

/-- What a construct yields. -/
def Construct.events : Construct → List Event
  | .complete _ events | .unending events => events
  | .incomplete | .broken _ => []

theorem fromConstruct_construct (offset : Nat) (t : Text) :
    FromConstruct offset (construct offset t).events := by
  unfold construct passOver
  repeat' split
  all_goals first
    | exact fromConstruct_nil offset
    | exact fromConstruct_closes offset _
    | exact fromConstruct_opens _ offset
    | exact fromConstruct_element _ offset _

/-- Events with the offsets behind their constructs go forward from an offset. -/
structure Forward (offset : Nat) (events : List (Event × Nat)) : Prop where
  opensFrom : ∀ x ∈ events, x.1.OpensFrom offset
  pairwise : events.Pairwise fun x y => y.1.OpensFrom x.2

/-- Behind the first construct they go forward from its end. -/
theorem Forward.tail {offset : Nat} {x : Event × Nat} {rest : List (Event × Nat)}
    (h : Forward offset (x :: rest)) : Forward x.2 rest :=
  ⟨(List.pairwise_cons.mp h.pairwise).1, (List.pairwise_cons.mp h.pairwise).2⟩

theorem Forward.mono {offset offset' : Nat} {events : List (Event × Nat)}
    (h : Forward offset events) (hle : offset' ≤ offset) : Forward offset' events :=
  ⟨fun x hx => (h.opensFrom x hx).mono hle, h.pairwise⟩

theorem FromConstruct.forward {offset : Nat} {events : List Event}
    (h : FromConstruct offset events) (stop : Nat) : Forward offset (events.map (·, stop)) := by
  refine ⟨fun x hx => ?_, List.pairwise_map.mpr (h.2.imp fun hopens => hopens stop)⟩
  obtain ⟨e, he, rfl⟩ := List.mem_map.mp hx
  exact h.1 e he

theorem Forward.append {offset stop : Nat} {events : List Event} {rest : List (Event × Nat)}
    (h : FromConstruct offset events) (hle : offset ≤ stop) (hrest : Forward stop rest) :
    Forward offset (events.map (·, stop) ++ rest) := by
  have hevents := h.forward stop
  refine ⟨fun x hx => ?_, List.pairwise_append.mpr ⟨hevents.pairwise, hrest.pairwise, ?_⟩⟩
  · rcases List.mem_append.mp hx with hx | hx
    · exact hevents.opensFrom x hx
    · exact (hrest.opensFrom x hx).mono hle
  · intro x hx y hy
    obtain ⟨e, -, rfl⟩ := List.mem_map.mp hx
    exact hrest.opensFrom y hy

/-- The reading of a text goes forward. -/
theorem forward_locatedFrom {closing : Bool} {offset : Nat} {t : Text}
    {events : List (Event × Nat)} (h : locatedFrom closing offset t = .ok events) :
    Forward offset events := by
  fun_induction locatedFrom closing offset t generalizing events with
  | case1 =>
    cases h
    exact ⟨nofun, .nil⟩
  | case2 => cases h
  | case3 =>
    next ih => exact (ih h).mono (by omega)
  | case4 closing offset r found hconstruct =>
    cases h
    have hfound := fromConstruct_construct offset r
    rw [hconstruct] at hfound
    exact hfound.forward _
  | case5 closing offset r n found hconstruct ih =>
    have hfound := fromConstruct_construct offset r
    rw [hconstruct] at hfound
    cases hrest : locatedFrom closing (offset + 1 + n) (r.drop n) with
    | error b =>
      rw [hrest] at h
      cases h
    | ok rest =>
      rw [hrest] at h
      cases h
      exact .append hfound (by omega) (ih hrest)
  | case6 =>
    cases h
    exact ⟨nofun, .nil⟩
  | case7 closing offset c r _ _ _ ih => exact (ih h).mono (by omega)
  | case8 closing offset c r _ _ ih => exact (ih h).mono (by omega)

end Event

/-! ## Blocks -/

/-- The elements that are open behind an event. -/
def Nesting.after (n : Nesting) : Event → Nesting
  | .opens g _ => n.startTag g
  | .closes name => n.endTag name

/-- The block that an event opens. -/
def Event.block? (n : Nesting) : Event → Option Block
  | .opens g offset => Block.ofStartTag? n g offset
  | .closes _ => none

/-- A block with the offset at which it ends. -/
structure Extent where
  block : Block
  stop : Nat
deriving DecidableEq, Repr

namespace Extent

/-- The offset at which all open elements have been closed, or `limit` if they never are. Those that
are open are given, with the offset behind the event that has left them open. -/
def stopFrom (limit : Nat) (n : Nesting) (offset : Nat) : List (Event × Nat) → Nat
  | [] => if n.isEmpty then offset else limit
  | (e, next) :: rest => if n.isEmpty then offset else stopFrom limit (n.after e) next rest

/-- The extents of the blocks that are opened by the given events. -/
def listFrom (limit : Nat) (n : Nesting) : List (Event × Nat) → List Extent
  | [] => []
  | (e, next) :: rest =>
    ((e.block? n).map fun b => ⟨b, stopFrom limit (n.after e) next rest⟩).toList ++
      listFrom limit (n.after e) rest

/-- The extents of the blocks of a document. -/
def list (document : Text) : Except Breakdown (List Extent) :=
  (Event.located document).map (listFrom document.length [])

theorem map_block_listFrom (limit : Nat) (n : Nesting) (events : List (Event × Nat)) :
    (listFrom limit n events).map Extent.block = Block.listFrom n (events.map Prod.fst) := by
  induction events generalizing n with
  | nil => rfl
  | cons x rest ih =>
    obtain ⟨e, next⟩ := x
    rw [listFrom, List.map_append, ih]
    cases e with
    | closes name => rfl
    | opens g offset =>
      rw [List.map_cons, Block.listFrom]
      simp only [Event.block?, Nesting.after]
      cases Block.ofStartTag? n g offset with
      | none => rfl
      | some b => rfl

/-- The blocks of the extents are those of the document. -/
theorem map_block_list (document : Text) :
    (list document).map (List.map Extent.block) = Block.list document := by
  have herase := Event.map_fst_locatedFrom false 0 document
  rw [list, Event.located, Block.list, Event.list, ← herase]
  cases Event.locatedFrom false 0 document with
  | error b => rfl
  | ok events => exact congrArg Except.ok (map_block_listFrom _ _ _)

theorem offset_of_block? {n : Nesting} {e : Event} {b : Block} (h : e.block? n = some b) :
    n.isEmpty = true ∧ ∃ g, e = .opens g b.offset := by
  cases e with
  | closes name => cases h
  | opens g offset =>
    rw [Event.block?, Block.ofStartTag?] at h
    split at h
    · next hn =>
      obtain ⟨kind, -, rfl⟩ := Option.map_eq_some_iff.mp h
      exact ⟨hn, g, rfl⟩
    · cases h

theorem le_offset_of_mem_listFrom {limit offset : Nat} {n : Nesting} {events : List (Event × Nat)}
    (hevents : Event.Forward offset events) {x : Extent} (hx : x ∈ listFrom limit n events) :
    offset ≤ x.block.offset := by
  induction events generalizing n with
  | nil => cases hx
  | cons y rest ih =>
    obtain ⟨e, next⟩ := y
    rw [listFrom, List.mem_append] at hx
    rcases hx with hx | hx
    · obtain ⟨b, hb, rfl⟩ := Option.map_eq_some_iff.mp (Option.mem_toList.mp hx)
      obtain ⟨-, g, rfl⟩ := offset_of_block? hb
      exact hevents.opensFrom _ List.mem_cons_self g b.offset rfl
    · exact ih ⟨fun z hz => hevents.opensFrom z (List.mem_cons_of_mem _ hz),
        (List.pairwise_cons.mp hevents.pairwise).2⟩ hx

/-- What is open has been closed before a further block is opened. -/
theorem stopFrom_le_of_mem_listFrom {limit offset : Nat} {n : Nesting}
    {events : List (Event × Nat)} (hevents : Event.Forward offset events) {x : Extent}
    (hx : x ∈ listFrom limit n events) : stopFrom limit n offset events ≤ x.block.offset := by
  induction events generalizing n offset with
  | nil => cases hx
  | cons y rest ih =>
    obtain ⟨e, next⟩ := y
    rw [stopFrom]
    split
    · exact le_offset_of_mem_listFrom hevents hx
    · next hn =>
      rw [listFrom, List.mem_append] at hx
      rcases hx with hx | hx
      · obtain ⟨b, hb, -⟩ := Option.map_eq_some_iff.mp (Option.mem_toList.mp hx)
        exact absurd (offset_of_block? hb).1 hn
      · exact ih hevents.tail hx

theorem pairwise_listFrom {limit offset : Nat} {n : Nesting} {events : List (Event × Nat)}
    (hevents : Event.Forward offset events) :
    (listFrom limit n events).Pairwise fun x y => x.stop ≤ y.block.offset := by
  induction events generalizing n offset with
  | nil => exact .nil
  | cons y rest ih =>
    obtain ⟨e, next⟩ := y
    rw [listFrom]
    refine List.pairwise_append.mpr ⟨?_, ih hevents.tail, fun x hx z hz => ?_⟩
    · cases e.block? n with
      | none => exact .nil
      | some b => exact List.pairwise_singleton _ _
    · obtain ⟨b, -, rfl⟩ := Option.map_eq_some_iff.mp (Option.mem_toList.mp hx)
      exact stopFrom_le_of_mem_listFrom hevents.tail hz

/-- The blocks of a document follow one another: each one ends before the next one starts. -/
theorem pairwise_list {document : Text} {xs : List Extent} (h : list document = .ok xs) :
    xs.Pairwise fun x y => x.stop ≤ y.block.offset := by
  rw [list] at h
  cases hevents : Event.located document with
  | error b =>
    rw [hevents] at h
    cases h
  | ok events =>
    rw [hevents] at h
    cases h
    exact pairwise_listFrom (Event.forward_locatedFrom hevents)

end Extent

end SmartQuotes.Markup
