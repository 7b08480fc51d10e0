import SmartQuotes.Proofs.Exact
import SmartQuotes.Proofs.Markup.Grammar

/-!
# What is extracted from the parts of a template

The fragments of a template are those of its parts, one part after the other
(`extractTemplate_eq_concat`). Prose that is not blank is one fragment; the other ones are read from
the expression of a part between braces or from the attributes of a start tag, and stand there.
-/

namespace SmartQuotes

namespace Markup

/-! ## Extraction from parts -/

namespace Part

/-- The fragments of a part that starts at the given offset. -/
def extract (document : Text) (x : Int × Part) : Outcome (List Fragment) :=
  match x.2 with
  | prose t => .value (extractProse document x.1 (x.1 + t.length))
  | embedded t => Script.extractExpression document (x.1 + 2) (x.1 + 2 + t.length)
  | comment _ => .value []
  | tag g => extractTag document x.1 g

end Part

variable {document : Text} {start stop : Int}

/-- A stretch ends where the next one starts, and the last one where all of them end. -/
theorem stop_eq {α : Type} {toText : α → Text} {rest : List α} {n : Nat}
    (h : start + ((n + (rest.flatMap toText).length : Nat) : Int) = stop) :
    (if rest.isEmpty then stop else start + n) = start + n := by
  cases rest with
  | nil =>
    rw [List.flatMap_nil, List.length_nil, Nat.add_zero] at h
    rw [List.isEmpty_nil, if_pos rfl]
    exact h.symm
  | cons => rfl

theorem extractSegments_eq_concat {segments : List Segment}
    (hlength : start + (segments.flatMap Segment.toText).length = stop) :
    extractSegments document start stop segments =
      .concat ((Part.placed start (segments.map Segment.part)).map (Part.extract document)) := by
  induction segments generalizing start with
  | nil => rfl
  | cons s rest ih =>
    rw [length_flatMap_cons] at hlength
    cases s with
    | prose t =>
      simp only [Segment.toText] at hlength
      rw [extractSegments, stop_eq hlength, ih (by omega)]
      rfl
    | embedded t =>
      simp only [Segment.toText, Segment.opening, Segment.closing, List.length_append,
        List.length_cons, List.length_nil] at hlength
      have hbehind : start + 2 + t.length + 2 =
          start + (Part.embedded t).toText.length := by
        simp only [Part.toText, Segment.opening, Segment.closing, List.length_append,
          List.length_cons, List.length_nil]
        omega
      rw [extractSegments, ih (by omega), hbehind]
      rfl

theorem extractPieces_eq_concat {pieces : List Piece}
    (hlength : start + (pieces.flatMap Piece.toText).length = stop) :
    extractPieces document start stop pieces =
      .concat ((Part.placed start (pieces.flatMap Piece.parts)).map (Part.extract document)) := by
  induction pieces generalizing start with
  | nil => rfl
  | cons p rest ih =>
    rw [length_flatMap_cons] at hlength
    rw [List.flatMap_cons, Part.placed_append, Piece.flatMap_toText_parts, List.map_append,
      Outcome.concat_append, extractPieces.eq_def]
    simp only
    rw [ih (by omega), stop_eq hlength]
    congr 1
    cases p with
    | run t =>
      refine extractSegments_eq_concat ?_
      rw [Segment.flatMap_toText_list]
      rfl
    | comment t => rfl
    | tag g => exact (Outcome.append_value_nil _).symm

/-- The fragments of a template are those of its parts. -/
theorem extractTemplate_eq_concat (hstart : 0 ≤ start) (hle : start ≤ stop)
    (hstop : stop ≤ document.length) :
    extractTemplate document start stop =
      .concat ((Part.placed start (Part.list (document.drop (Text.bound document.length stop))
        (document.slice start stop))).map (Part.extract document)) := by
  have hlength := Text.length_slice hstart hle hstop
  rw [extractTemplate, extractPieces_eq_concat, Piece.flatMap_parts_list]
  rw [Piece.flatMap_toText_list]
  omega

end Markup

/-! ## The order of fragments -/

namespace Fragment

/-- One fragment comes before another one, and ends before it starts unless both are those of
scripts. -/
def Precedes (f g : Fragment) : Prop :=
  f.Before g ∧ (f.kind.isOfScripts = true ∧ g.kind.isOfScripts = true ∨ f.stop ≤ g.start)

/-- The fragment is one of scripts and stands between two offsets. -/
def IsScriptIn (start stop : Int) (f : Fragment) : Prop :=
  f.kind.isOfScripts = true ∧ start ≤ f.start ∧ f.start ≤ f.stop ∧ f.stop ≤ stop

/-- The fragment starts between two offsets, in front of the second one, and does not end behind
it. -/
def StartsIn (start stop : Int) (f : Fragment) : Prop :=
  start ≤ f.start ∧ f.start < stop ∧ f.stop ≤ stop

theorem IsScriptIn.kind_ne {f : Fragment} {start stop : Int} (h : f.IsScriptIn start stop) :
    f.kind ≠ .markupText := by
  intro hkind
  have hscript := h.1
  rw [hkind] at hscript
  cases hscript

theorem precedes_of_startsIn {f g : Fragment} {start stop start' stop' : Int}
    (hf : f.StartsIn start stop) (hg : g.StartsIn start' stop') (h : stop ≤ start') :
    f.Precedes g := by
  obtain ⟨-, hlt, hstop⟩ := hf
  obtain ⟨hstart, -, -⟩ := hg
  exact ⟨.inl (by omega), .inr (by omega)⟩

/-- Fragments that are taken from stretches that follow one another. -/
theorem pairwise_flatten {α : Type} (start stop : α → Int) {xs : List α}
    {lists : List (List Fragment)}
    (h : List.Forall₂ (fun x l => (∀ f ∈ l, f.StartsIn (start x) (stop x)) ∧ l.Pairwise Precedes)
      xs lists)
    (hxs : xs.Pairwise fun x y => stop x ≤ start y) : lists.flatten.Pairwise Precedes := by
  induction h with
  | nil => exact .nil
  | @cons x l xs lists hl hlists ih =>
    obtain ⟨hx, hxs⟩ := List.pairwise_cons.mp hxs
    rw [List.flatten_cons, List.pairwise_append]
    refine ⟨hl.2, ih hxs, fun f hf g hg => ?_⟩
    obtain ⟨y, hy, l', hl', hg⟩ := Outcome.exists_of_mem_flatten hlists hg
    exact precedes_of_startsIn (hl.1 f hf) (hl'.1 g hg) (hx y hy)

end Fragment

namespace Markup

variable {document : Text} {start stop : Int} {fragments : List Fragment}

theorem extractExpression_spec (hstart : 0 ≤ start) (hle : start ≤ stop)
    (hstop : stop ≤ document.length)
    (h : (Script.extractExpression document start stop).result = .ok fragments) :
    (∀ f ∈ fragments, f.IsScriptIn start stop) ∧ fragments.Pairwise Fragment.Precedes := by
  have hscript : ∀ f ∈ fragments, f.kind.isOfScripts = true := by
    rcases Script.exists_parse_of_extractExpression h with rfl | ⟨found, rfl, hparse | hparse⟩
    · exact List.forall_mem_nil _
    · exact fun f hf => ((Script.parse_sound hparse).1 f (List.mem_filter.mp hf).1).isOfScripts
    · exact fun f hf => ((Script.parse_sound hparse).1 f (List.mem_filter.mp hf).1).isOfScripts
  have hlies := Script.liesIn_extractExpression hstart hle hstop fragments h
  refine ⟨fun f hf => ⟨hscript f hf, (hlies f hf).start_le, (hlies f hf).le, (hlies f hf).stop_le⟩,
    (Script.pairwise_extractExpression h).imp_of_mem fun {f g} hf hg hbefore => ?_⟩
  exact ⟨hbefore, .inl ⟨hscript f hf, hscript g hg⟩⟩

/-! ## Attributes -/

/-- The fragment is the value of a plain attribute with its quotes, or it stands in the value of a
directive. -/
def Attribute.Yields (document : Text) (base : Int) (a : Attribute) (f : Fragment) : Prop :=
  match a.role with
  | .plain =>
    f = fragmentAt document .attributeValue (base + a.offset - 1)
      (base + a.offset + a.value.length + 1)
  | .binding => False
  | _ => f.IsScriptIn (base + a.offset) (base + a.offset + a.value.length)

theorem Attribute.Yields.startsIn {base : Int} {a : Attribute} {f : Fragment}
    (h : a.Yields document base f) :
    f.StartsIn (base + a.offset - 1) (base + a.offset + a.value.length + 1) := by
  unfold Yields at h
  split at h
  · subst h
    simp only [Fragment.StartsIn, fragmentAt]
    omega
  · cases h
  · obtain ⟨-, hstart, hle, hstop⟩ := h
    simp only [Fragment.StartsIn]
    omega

theorem Attribute.Yields.kind_ne {base : Int} {a : Attribute} {f : Fragment}
    (h : a.Yields document base f) : f.kind ≠ .markupText := by
  unfold Yields at h
  split at h
  · subst h
    exact nofun
  · cases h
  · exact Fragment.IsScriptIn.kind_ne h

theorem extractAttribute_spec {base : Int} {a : Attribute} (hstart : 0 ≤ base + a.offset)
    (hstop : base + a.offset + a.value.length ≤ document.length)
    (h : (extractAttribute document base a).result = .ok fragments) :
    (∀ f ∈ fragments, a.Yields document base f) ∧ fragments.Pairwise Fragment.Precedes := by
  unfold extractAttribute at h
  simp only at h
  split at h
  · next hrole =>
    cases h
    simp only [Attribute.Yields, hrole]
    exact ⟨fun f hf => List.mem_singleton.mp hf, List.pairwise_singleton _ _⟩
  · cases h
    exact ⟨List.forall_mem_nil _, .nil⟩
  · next hrole =>
    simp only [Attribute.Yields, hrole]
    exact extractExpression_spec hstart (by omega) hstop h
  · next hrole =>
    split at h
    · cases h
      exact ⟨List.forall_mem_nil _, .nil⟩
    · next n hn =>
      have hwidth := Attribute.aliasWidth?_le hn
      obtain ⟨hyields, hordered⟩ := extractExpression_spec (by omega) (by omega) hstop h
      refine ⟨fun f hf => ?_, hordered⟩
      obtain ⟨hscript, hlow, hle, hhigh⟩ := hyields f hf
      simp only [Attribute.Yields, hrole]
      exact ⟨hscript, by omega, hle, hhigh⟩

theorem extractTag_spec {g : Tag} (hstart : 0 ≤ start)
    (hstop : start + g.toText.length ≤ document.length)
    (h : (extractTag document start g).result = .ok fragments) :
    (∀ f ∈ fragments, g.closing = false ∧
      ∃ a ∈ Attribute.list g.attributes, a.Yields document (start + g.head.length) f) ∧
      fragments.Pairwise Fragment.Precedes := by
  unfold extractTag at h
  split at h
  · cases h
    exact ⟨List.forall_mem_nil _, .nil⟩
  · next hclosing =>
    simp only [Tag.toText, List.length_append, List.length_cons, List.length_nil] at hstop
    have hspec : ∀ a ∈ Attribute.list g.attributes, ∀ l,
        (extractAttribute document (start + g.head.length) a).result = .ok l →
          (∀ f ∈ l, a.Yields document (start + g.head.length) f) ∧
            l.Pairwise Fragment.Precedes := by
      intro a ha l hl
      obtain ⟨hbefore, hbehind⟩ := Attribute.bounds_of_mem_listFrom ha
      exact extractAttribute_spec (by omega) (by omega) hl
    obtain ⟨lists, hlists, rfl⟩ := Outcome.exists_of_concat_map hspec h
    refine ⟨fun f hf => ?_, ?_⟩
    · obtain ⟨a, ha, l, ⟨hyields, -⟩, hf⟩ := Outcome.exists_of_mem_flatten hlists hf
      exact ⟨by simpa using hclosing, a, ha, hyields f hf⟩
    · refine Fragment.pairwise_flatten
        (fun a : Attribute => start + g.head.length + a.offset - 1)
        (fun a : Attribute => start + g.head.length + a.offset + a.value.length + 1)
        (hlists.imp fun a l hl => ⟨fun f hf => (hl.1 f hf).startsIn, hl.2⟩) ?_
      refine (Attribute.pairwise_listFrom 0 g.attributes).imp fun hab => ?_
      omega

/-! ## Parts -/

/-- The text is told to be blank from its slice of the document. -/
theorem extractProse_of_slice {t : Text} (h : document.slice start (start + t.length) = t) :
    extractProse document start (start + t.length) =
      if t.isBlank then [] else [fragmentAt document .markupText start (start + t.length)] := by
  unfold extractProse
  simp only [fragmentAt, h]
  cases hblank : t.isBlank with
  | true => rw [Bool.not_true, Bool.and_false, if_neg Bool.false_ne_true, if_pos rfl]
  | false =>
    have hpos : start < start + t.length := by
      cases t with
      | nil => cases hblank
      | cons c t =>
        rw [List.length_cons]
        omega
    rw [decide_eq_true hpos, if_neg Bool.false_ne_true]
    rfl

/-- The fragment is prose that is not blank, or it stands in the expression of a part between braces
or in an attribute of a start tag. -/
def Part.Yields (document : Text) (x : Int × Part) (f : Fragment) : Prop :=
  match x.2 with
  | .prose t => t.isBlank = false ∧ f = fragmentAt document .markupText x.1 (x.1 + t.length)
  | .embedded t => f.IsScriptIn (x.1 + 2) (x.1 + 2 + t.length)
  | .comment _ => False
  | .tag g => g.closing = false ∧
      ∃ a ∈ Attribute.list g.attributes, a.Yields document (x.1 + g.head.length) f

namespace Part

/-- Whether a part is prose that is not blank. -/
def isText (p : Part) : Bool := p.isProse && !p.toText.isBlank

theorem Yields.startsIn {x : Int × Part} {f : Fragment} (h : Yields document x f) :
    f.StartsIn x.1 (x.1 + x.2.toText.length) := by
  obtain ⟨i, p⟩ := x
  simp only [Fragment.StartsIn]
  cases p with
  | prose t =>
    obtain ⟨hblank, rfl⟩ := h
    have hpos : 0 < t.length := by
      cases t with
      | nil => cases hblank
      | cons => exact Nat.succ_pos _
    simp only [fragmentAt, toText]
    omega
  | embedded t =>
    obtain ⟨-, hstart, hle, hstop⟩ := h
    simp only [toText, Segment.opening, Segment.closing, List.length_append, List.length_cons,
      List.length_nil] at hstart hstop ⊢
    omega
  | comment t => cases h
  | tag g =>
    obtain ⟨-, a, ha, h⟩ := h
    obtain ⟨hbefore, hbehind⟩ := Attribute.bounds_of_mem_listFrom ha
    obtain ⟨hstart, hlt, hstop⟩ := h.startsIn
    simp only [toText, Tag.toText, List.length_append, List.length_cons, List.length_nil]
      at hstart hlt hstop ⊢
    omega

theorem Yields.kind_ne {x : Int × Part} {f : Fragment} (h : Yields document x f)
    (hx : x.2.isText = false) : f.kind ≠ .markupText := by
  obtain ⟨i, p⟩ := x
  cases p with
  | prose t =>
    obtain ⟨hblank, -⟩ := h
    rw [isText, isProse, toText, hblank] at hx
    cases hx
  | embedded t => exact Fragment.IsScriptIn.kind_ne h
  | comment t => cases h
  | tag g =>
    obtain ⟨-, a, -, h⟩ := h
    exact h.kind_ne

/-- The fragment of a part that is prose. -/
def textFragment (document : Text) (x : Int × Part) : Fragment :=
  fragmentAt document .markupText x.1 (x.1 + x.2.toText.length)

/-- What is extracted from a part comes from it, in increasing order, and the part is a fragment of
its own exactly if it is prose that is not blank. -/
structure Extracts (document : Text) (x : Int × Part) (fragments : List Fragment) : Prop where
  yields : ∀ f ∈ fragments, Yields document x f
  ordered : fragments.Pairwise Fragment.Precedes
  texts : fragments.filter (·.kind = .markupText) =
    if x.2.isText then [textFragment document x] else []

theorem extracts_of_extract {x : Int × Part} (hstart : 0 ≤ x.1)
    (hstop : x.1 + x.2.toText.length ≤ document.length)
    (hslice : document.slice x.1 (x.1 + x.2.toText.length) = x.2.toText)
    (h : (extract document x).result = .ok fragments) : Extracts document x fragments := by
  -- for all parts but prose it is enough that their fragments come from them
  have behind : x.2.isText = false → (∀ f ∈ fragments, Yields document x f) →
      fragments.Pairwise Fragment.Precedes → Extracts document x fragments := by
    intro hx hyields hordered
    refine ⟨hyields, hordered, ?_⟩
    rw [hx, if_neg Bool.false_ne_true, List.filter_eq_nil_iff]
    intro f hf
    rw [decide_eq_true_eq]
    exact (hyields f hf).kind_ne hx
  obtain ⟨i, p⟩ := x
  simp only at hstart hstop hslice
  cases p with
  | prose t =>
    change (Outcome.value (extractProse document i (i + t.length))).result = _ at h
    rw [extractProse_of_slice (t := t) hslice] at h
    cases hblank : t.isBlank with
    | true =>
      rw [hblank, if_pos rfl] at h
      cases h
      exact behind (by rw [isText, toText, hblank, Bool.not_true, Bool.and_false])
        (List.forall_mem_nil _) .nil
    | false =>
      rw [hblank, if_neg Bool.false_ne_true] at h
      cases h
      refine ⟨fun f hf => ⟨hblank, List.mem_singleton.mp hf⟩, List.pairwise_singleton _ _, ?_⟩
      rw [isText, toText, hblank]
      rfl
  | embedded t =>
    simp only [toText, Segment.opening, Segment.closing, List.length_append, List.length_cons,
      List.length_nil] at hstop
    change (Script.extractExpression document (i + 2) (i + 2 + t.length)).result = _ at h
    obtain ⟨hyields, hordered⟩ := extractExpression_spec (by omega) (by omega) (by omega) h
    exact behind rfl hyields hordered
  | comment t =>
    cases h
    exact behind rfl (List.forall_mem_nil _) .nil
  | tag g =>
    change (extractTag document i g).result = _ at h
    obtain ⟨hyields, hordered⟩ := extractTag_spec hstart hstop h
    exact behind rfl hyields hordered

/-- The prose that is extracted from several parts. -/
theorem filter_flatten_of_extracts {xs : List (Int × Part)} {lists : List (List Fragment)}
    (h : List.Forall₂ (Extracts document) xs lists) :
    lists.flatten.filter (·.kind = .markupText) =
      (xs.filter (·.2.isText)).map (textFragment document) := by
  induction h with
  | nil => rfl
  | @cons x l xs lists hl _ ih =>
    rw [List.flatten_cons, List.filter_append, ih, hl.texts, List.filter_cons]
    split
    · rfl
    · rfl

/-- The value of an attribute of a tag stands in the document where it is said to stand. -/
theorem slice_value {i : Int} {g : Tag} (hi : 0 ≤ i)
    (hslice : document.slice i (i + g.toText.length) = g.toText) {a : Attribute}
    (ha : a ∈ Attribute.list g.attributes) :
    document.slice (i + g.head.length + a.offset) (i + g.head.length + a.offset + a.value.length) =
      a.value := by
  obtain ⟨k, hk, hvalue⟩ := Attribute.standsIn_of_mem_listFrom ha
  have hbounds := (Attribute.bounds_of_mem_listFrom ha).2
  rw [Nat.zero_add] at hk hbounds
  have htag : Text.extract g.toText (g.head.length + k) (g.head.length + (k + a.value.length)) =
      a.value := by
    rw [← Text.extract_drop, Tag.toText, List.append_assoc, List.drop_left, Text.extract,
      List.take_append_of_le_length (by omega)]
    exact hvalue
  have hlength : g.toText.length = g.head.length + g.attributes.length + 1 := by
    rw [Tag.toText, List.length_append, List.length_append, List.length_singleton]
  rw [← hslice, Text.extract_slice hi (by omega)] at htag
  rw [hk]
  refine Eq.trans ?_ htag
  congr 1
  · omega
  · omega

end Part

theorem error_of_extractAttribute {base : Int} {a : Attribute} {e : Failure}
    (h : (extractAttribute document base a).result = .error e) :
    ∃ low, base + a.offset ≤ low ∧
      (Script.extractExpression document low (base + a.offset + a.value.length)).result =
        .error e := by
  rcases extractAttribute_cases document base a with heq | heq | ⟨n, -, heq⟩
  · rw [heq] at h
    cases h
  · rw [heq] at h
    cases h
  · rw [heq] at h
    exact ⟨_, by omega, h⟩

/-- Extraction from a part fails only where the parser of expressions does. -/
theorem error_of_extract {x : Int × Part} {e : Failure}
    (h : (Part.extract document x).result = .error e) :
    ∃ low high : Int, x.1 ≤ low ∧ high ≤ x.1 + x.2.toText.length ∧
      (Script.extractExpression document low high).result = .error e := by
  obtain ⟨i, p⟩ := x
  cases p with
  | prose t => cases h
  | embedded t =>
    change (Script.extractExpression document (i + 2) (i + 2 + t.length)).result = _ at h
    refine ⟨i + 2, i + 2 + t.length, by simp only; omega, ?_, h⟩
    simp only [Part.toText, Segment.opening, Segment.closing, List.length_append, List.length_cons,
      List.length_nil]
    omega
  | comment t => cases h
  | tag g =>
    change (extractTag document i g).result = _ at h
    unfold extractTag at h
    split at h
    · cases h
    · obtain ⟨y, hy, h⟩ := Outcome.exists_error_of_concat h
      obtain ⟨a, ha, rfl⟩ := List.mem_map.mp hy
      obtain ⟨low, hlow, herror⟩ := error_of_extractAttribute h
      have hbounds := (Attribute.bounds_of_mem_listFrom ha).2
      refine ⟨low, _, by simp only; omega, ?_, herror⟩
      simp only [Part.toText, Tag.toText, List.length_append, List.length_cons, List.length_nil]
      omega

/-! ## Templates -/

/-- A template is partitioned by reading it once: the parts are those of the only partition there
is, in which a comment goes up to its first end or that of the range, a tag is the one with the
longest name that is written at its place, and prose starts neither, nor an expression, in front of
braces that are never closed. What the search for the ends of runs steps over is found again in the
runs; the parts put together give back the template, each of them and each value of an attribute
standing where it is placed; prose alternates with markup, holds no expression between braces, and
none but the last holds braces that open one. The fragments of the template come from the parts:
those of prose are the parts that are prose and not blank, in their order, and each other one is a
value with its quotes or stands in a value of a start tag or between braces. They come in increasing
order, and none but those of scripts overlap. Extraction fails only where the parser of expressions
does. -/
theorem extractTemplate_partitions (hstart : 0 ≤ start) (hle : start ≤ stop)
    (hstop : stop ≤ document.length) :
    let beyond := document.drop (Text.bound document.length stop)
    let t := document.slice start stop
    let parts := Part.list beyond t
    let placed := Part.placed start parts
    (∀ parts', Part.Partitions beyond t parts' ↔ parts' = parts) ∧
    ((Piece.list beyond t).flatMap Piece.parts = parts ∧ parts.flatMap Part.toText = t ∧
      parts.IsChain (fun p q => p.isProse = !q.isProse) ∧ Part.Unbraced parts) ∧
    (∀ x ∈ placed, document.slice x.1 (x.1 + x.2.toText.length) = x.2.toText ∧
      ∀ g, x.2 = .tag g → ∀ a ∈ Attribute.list g.attributes,
        document.slice (x.1 + g.head.length + a.offset)
          (x.1 + g.head.length + a.offset + a.value.length) = a.value) ∧
    (∀ fragments, (extractTemplate document start stop).result = .ok fragments →
      fragments.filter (·.kind = .markupText) =
        (placed.filter (·.2.isText)).map (Part.textFragment document) ∧
      (∀ f ∈ fragments, ∃ x ∈ placed,
        Part.Yields document x f ∧ f.StartsIn x.1 (x.1 + x.2.toText.length)) ∧
      fragments.Pairwise Fragment.Precedes) ∧
    ∀ e, (extractTemplate document start stop).result = .error e →
      ∃ low high, start ≤ low ∧ high ≤ stop ∧
        (Script.extractExpression document low high).result = .error e := by
  intro beyond t parts placed
  have htext : parts.flatMap Part.toText = t := Part.flatMap_toText_list beyond t
  have hlength : start + (parts.flatMap Part.toText).length = stop := by
    rw [htext, Text.length_slice hstart hle hstop]
    omega
  have hplaced : ∀ x ∈ placed, 0 ≤ x.1 ∧ x.1 + x.2.toText.length ≤ stop ∧
      document.slice x.1 (x.1 + x.2.toText.length) = x.2.toText := by
    intro x hx
    have hlow := Part.le_of_mem_placed hx
    exact ⟨by omega, Part.slice_of_mem_placed hstart hlength htext hx⟩
  have hextract := extractTemplate_eq_concat hstart hle hstop
  refine ⟨fun _ => Part.partitions_iff, ⟨Piece.flatMap_parts_list beyond t, htext,
    Part.isChain_list beyond t, Part.unbraced_list beyond t⟩, ?_, ?_, ?_⟩
  · intro x hx
    obtain ⟨hlow, -, hslice⟩ := hplaced x hx
    refine ⟨hslice, ?_⟩
    rintro g hg a ha
    rw [hg] at hslice
    exact Part.slice_value hlow hslice ha
  · intro fragments h
    rw [hextract] at h
    obtain ⟨lists, hlists, rfl⟩ := Outcome.exists_of_concat_map (R := Part.Extracts document)
      (fun x hx l hl => by
        obtain ⟨hlow, hhigh, hslice⟩ := hplaced x hx
        exact Part.extracts_of_extract hlow (by omega) hslice hl) h
    refine ⟨Part.filter_flatten_of_extracts hlists, fun f hf => ?_, ?_⟩
    · obtain ⟨x, hx, l, hl, hf⟩ := Outcome.exists_of_mem_flatten hlists hf
      exact ⟨x, hx, hl.yields f hf, (hl.yields f hf).startsIn⟩
    · exact Fragment.pairwise_flatten _ _
        (hlists.imp fun x l hl => ⟨fun f hf => (hl.yields f hf).startsIn, hl.ordered⟩)
        (Part.pairwise_placed start parts)
  · intro e h
    rw [hextract] at h
    obtain ⟨y, hy, h⟩ := Outcome.exists_error_of_concat h
    obtain ⟨x, hx, rfl⟩ := List.mem_map.mp hy
    obtain ⟨low, high, hlow, hhigh, herror⟩ := error_of_extract h
    have hbefore := Part.le_of_mem_placed hx
    have hbehind := (hplaced x hx).2.1
    exact ⟨low, high, by omega, by omega, herror⟩

/-- A lone bracket and one in an expression, a directive and an attribute, a comment with prose behind
it, and braces that are never closed. -/
theorem extractTemplate_partitions_of_brackets :
    let document :=
      text "it's < \x7b\x7b 'x<y' \x7d\x7d<b :c=\"`d`\" e='f'><!--\"g\"-->h's \x7b\x7b i"
    let parts : List Part := [.prose (text "it's < "), .embedded (text " 'x<y' "), .prose [],
      .tag ⟨false, text "b", text " :c=\"`d`\" e='f'"⟩, .prose [],
      .comment (text "<!--\"g\"-->"), .prose (text "h's \x7b\x7b i")]
    let fragments : List Fragment := [fragmentAt document .markupText 0 7,
      fragmentAt document .literal 10 15,
      { fragmentAt document .templateLiteral 25 28 with interpolations := some [] },
      fragmentAt document .attributeValue 32 35, fragmentAt document .markupText 46 54]
    ((0 : Int) ≤ 0 ∧ (0 : Int) ≤ 54 ∧ (54 : Int) ≤ document.length) ∧
      Part.Partitions [] document parts ∧
      Part.list (document.drop (Text.bound document.length 54)) (document.slice 0 54) = parts ∧
      (extractTemplate document 0 54).result = .ok fragments ∧
      fragments.filter (·.kind = .markupText) =
        ((Part.placed 0 parts).filter (·.2.isText)).map (Part.textFragment document) ∧
      fragments.Pairwise Fragment.Precedes := by
  intro document parts fragments
  have hstop : (54 : Int) ≤ document.length := by decide
  have hbeyond : document.drop (Text.bound document.length 54) = [] := by decide
  have hrange : document.slice 0 54 = document := by decide
  have hparts : Part.list (document.drop (Text.bound document.length 54)) (document.slice 0 54) =
      parts := by
    unfold parts document
    cbv
  have hattributes : Attribute.list (text " :c=\"`d`\" e='f'") =
      [⟨text ":c", 5, text "`d`"⟩, ⟨text "e", 13, text "f"⟩] := by cbv
  have hextract : (extractTemplate document 0 54).result = .ok fragments := by
    rw [extractTemplate_eq_concat (by decide) (by decide) hstop, hparts]
    simp only [parts, Part.placed, List.map, Part.extract, extractTag, hattributes]
    decide +kernel
  have hpartitions := @extractTemplate_partitions document 0 54 (by decide) (by decide) hstop
  simp only [hparts] at hpartitions
  obtain ⟨hunique, -, -, hfragments, -⟩ := hpartitions
  have hpartition := (hunique parts).mpr rfl
  rw [hbeyond, hrange] at hpartition
  obtain ⟨htexts, -, hordered⟩ := hfragments fragments hextract
  exact ⟨⟨by decide, by decide, hstop⟩, hpartition, hparts, hextract, htexts, hordered⟩

end Markup

end SmartQuotes
