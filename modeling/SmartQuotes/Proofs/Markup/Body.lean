import Mathlib.Data.List.Pairwise
import SmartQuotes.Proofs.Markup.Extent
import SmartQuotes.Proofs.Markup.Reading

/-!
# Where bodies end

The body of a block is looked for in the characters behind its start tag, and not in the reading of
the document. That of a template ends at the first of the template tags found there by which more
are closed than opened; tags that stand in comments or in values of attributes are found, too. If
the search ends for each block where the block does, then no two bodies overlap, and no text of a
template is found in a script.
-/

namespace SmartQuotes.Markup

/-! ## Searching for an end -/

/-- The body of a script ends up to an offset if the end tag of a script starts up to there. -/
theorem add_scriptLength_le_iff (offset limit : Nat) (t : Text) :
    offset + scriptLength t ≤ limit ↔ offset + t.length ≤ limit ∨
      ∃ n, offset + n ≤ limit ∧ startsScriptEnd (t.drop n) = true := by
  induction t generalizing offset with
  | nil =>
    rw [scriptLength]
    refine ⟨Or.inl, ?_⟩
    rintro (hle | ⟨n, hle, -⟩)
    · exact hle
    · omega
  | cons c t ih =>
    rw [scriptLength]
    split
    · next hends =>
      refine ⟨fun hle => Or.inr ⟨0, hle, hends⟩, ?_⟩
      rintro (hle | ⟨n, hle, -⟩)
      · omega
      · omega
    · next hends =>
      have hnext := ih (offset + 1)
      rw [List.length_cons, Nat.add_comm (scriptLength t), ← Nat.add_assoc, hnext,
        Nat.add_comm t.length, ← Nat.add_assoc]
      refine or_congr_right ?_
      constructor
      · rintro ⟨n, hle, hends'⟩
        exact ⟨n + 1, by omega, hends'⟩
      · rintro ⟨n, hle, hends'⟩
        cases n with
        | zero => exact absurd hends' hends
        | succ n => exact ⟨n, by omega, hends'⟩

namespace TemplateTag

/-- The template tags that are found in a text, each with its offset. -/
def listFrom (offset : Nat) (t : Text) : List (Nat × TemplateTag) :=
  match t with
  | [] => []
  | c :: r =>
    match ofText? (c :: r) with
    | none => listFrom (offset + 1) r
    | some g => (offset, g) :: listFrom (offset + g.width) (r.drop (g.width - 1))
termination_by t.length
decreasing_by all_goals simp only [List.length_cons, List.length_drop]; omega

/-- How many of the tags open a template that is not closed at once. -/
def opened (found : List (Nat × TemplateTag)) : Nat :=
  found.countP fun x => !x.2.closing && !x.2.selfClosing

/-- How many of the tags close a template. -/
def closed (found : List (Nat × TemplateTag)) : Nat := found.countP (·.2.closing)

/-- The tags found up to an offset close one template more than they open and than were open. -/
def Closes (depth limit : Nat) (tags : List (Nat × TemplateTag)) : Prop :=
  ∃ found, found <+: tags ∧ (∀ x ∈ found, x.1 ≤ limit) ∧ depth + opened found < closed found

theorem not_closes_nil (depth limit : Nat) : ¬ Closes depth limit [] := by
  rintro ⟨found, hprefix, -, hlt⟩
  rw [List.prefix_nil.mp hprefix] at hlt
  exact absurd hlt (Nat.not_lt_zero _)

theorem closes_cons_iff {depth limit offset : Nat} {g : TemplateTag}
    {tags : List (Nat × TemplateTag)} :
    Closes depth limit ((offset, g) :: tags) ↔ offset ≤ limit ∧
      ∃ found, found <+: tags ∧ (∀ x ∈ found, x.1 ≤ limit) ∧
        depth + opened ((offset, g) :: found) < closed ((offset, g) :: found) := by
  constructor
  · rintro ⟨found, hprefix, hlimit, hlt⟩
    cases found with
    | nil => exact absurd hlt (Nat.not_lt_zero _)
    | cons x found =>
      obtain ⟨rfl, htail⟩ := List.cons_prefix_cons.mp hprefix
      exact ⟨hlimit _ List.mem_cons_self, found, htail,
        fun x hx => hlimit x (List.mem_cons_of_mem _ hx), hlt⟩
  · rintro ⟨hle, found, hprefix, hlimit, hlt⟩
    refine ⟨(offset, g) :: found, List.cons_prefix_cons.mpr ⟨rfl, hprefix⟩, ?_, hlt⟩
    intro x hx
    rcases List.mem_cons.mp hx with rfl | hx
    · exact hle
    · exact hlimit x hx

section

variable {depth limit offset : Nat} {g : TemplateTag} {tags : List (Nat × TemplateTag)}

/-- A closing tag closes the innermost open template. -/
theorem closes_cons_of_closing (hclosing : g.closing = true) :
    Closes (depth + 1) limit ((offset, g) :: tags) ↔ offset ≤ limit ∧ Closes depth limit tags := by
  have hcount : ∀ found, depth + 1 + opened ((offset, g) :: found) < closed ((offset, g) :: found) ↔
      depth + opened found < closed found := by
    intro found
    simp only [opened, closed, List.countP_cons, hclosing, Bool.not_true, Bool.false_and,
      Bool.false_eq_true, if_false, if_true]
    omega
  simp only [closes_cons_iff, hcount]
  rfl

/-- An opening tag opens one more template. -/
theorem closes_cons_of_opening (hclosing : g.closing = false) (hself : g.selfClosing = false) :
    Closes depth limit ((offset, g) :: tags) ↔ offset ≤ limit ∧ Closes (depth + 1) limit tags := by
  have hcount : ∀ found, depth + opened ((offset, g) :: found) < closed ((offset, g) :: found) ↔
      depth + 1 + opened found < closed found := by
    intro found
    simp only [opened, closed, List.countP_cons, hclosing, hself, Bool.not_false, Bool.and_self,
      Bool.false_eq_true, if_false, if_true]
    omega
  simp only [closes_cons_iff, hcount]
  rfl

/-- A tag that is closed at once changes nothing. -/
theorem closes_cons_of_selfClosing (hclosing : g.closing = false) (hself : g.selfClosing = true) :
    Closes depth limit ((offset, g) :: tags) ↔ offset ≤ limit ∧ Closes depth limit tags := by
  have hcount : ∀ found, depth + opened ((offset, g) :: found) < closed ((offset, g) :: found) ↔
      depth + opened found < closed found := by
    intro found
    simp only [opened, closed, List.countP_cons, hclosing, hself, Bool.not_true, Bool.and_false,
      Bool.false_eq_true, if_false, Nat.add_zero]
  simp only [closes_cons_iff, hcount]
  rfl

end

end TemplateTag

open TemplateTag (Closes closes_cons_iff)

/-- The search goes on behind a tag. -/
theorem add_templateLength_le_iff_of_tag {depth depth' offset limit : Nat} {c : Char} {r : Text}
    {g : TemplateTag} (htag : TemplateTag.ofText? (c :: r) = some g)
    (hrest : offset + g.width + templateLength depth' (r.drop (g.width - 1)) ≤ limit ↔
      offset + g.width + (r.drop (g.width - 1)).length ≤ limit ∨
        Closes depth' limit (TemplateTag.listFrom (offset + g.width) (r.drop (g.width - 1))))
    (hcloses : Closes depth limit ((offset, g) ::
        TemplateTag.listFrom (offset + g.width) (r.drop (g.width - 1))) ↔ offset ≤ limit ∧
      Closes depth' limit (TemplateTag.listFrom (offset + g.width) (r.drop (g.width - 1)))) :
    offset + (templateLength depth' (r.drop (g.width - 1)) + g.width) ≤ limit ↔
      offset + (c :: r).length ≤ limit ∨
        Closes depth limit (TemplateTag.listFrom offset (c :: r)) := by
  have hlength : g.width + (r.drop (g.width - 1)).length = (c :: r).length := by
    have hwidth := TemplateTag.width_bounds htag
    rw [List.length_cons] at hwidth ⊢
    rw [List.length_drop]
    omega
  rw [TemplateTag.listFrom, htag, ← hlength]
  simp only
  rw [hcloses, Nat.add_comm (templateLength depth' _), ← Nat.add_assoc, ← Nat.add_assoc]
  constructor
  · intro hle
    have hle' : offset ≤ limit := by omega
    exact (hrest.mp hle).imp_right fun h => ⟨hle', h⟩
  · rintro (h | ⟨-, h⟩)
    · exact hrest.mpr (Or.inl h)
    · exact hrest.mpr (Or.inr h)

/-- The body of a template ends up to an offset if the tags that are found up to there close it. -/
theorem add_templateLength_le_iff (depth offset limit : Nat) (t : Text) :
    offset + templateLength depth t ≤ limit ↔
      offset + t.length ≤ limit ∨ Closes depth limit (TemplateTag.listFrom offset t) := by
  fun_induction templateLength depth t generalizing offset with
  | case1 depth =>
    rw [TemplateTag.listFrom]
    exact ⟨Or.inl, fun h => h.resolve_right (TemplateTag.not_closes_nil _ _)⟩
  | case2 depth c r htag ih =>
    have hnext := ih (offset + 1)
    rw [TemplateTag.listFrom, htag, List.length_cons]
    simp only
    rw [← Nat.add_assoc, Nat.add_right_comm, hnext, ← Nat.add_assoc, Nat.add_right_comm]
  | case3 c r g htag hclosing =>
    rw [TemplateTag.listFrom, htag]
    simp only
    rw [closes_cons_iff, Nat.add_zero]
    constructor
    · intro hle
      have hnone : ∀ p ∈ ([] : List (Nat × TemplateTag)), p.1 ≤ limit :=
        fun _ h => absurd h List.not_mem_nil
      refine Or.inr ⟨hle, [], List.nil_prefix, hnone, ?_⟩
      simp [TemplateTag.opened, TemplateTag.closed, hclosing]
    · rintro (hle | ⟨hle, -⟩)
      · omega
      · exact hle
  | case4 c r g htag =>
    next hclosing depth ih =>
    exact add_templateLength_le_iff_of_tag htag (ih _)
      (TemplateTag.closes_cons_of_closing hclosing)
  | case5 depth c r g htag =>
    next hclosing inner ih =>
    rw [Bool.not_eq_true] at hclosing
    refine add_templateLength_le_iff_of_tag htag (ih _) ?_
    have hinner : inner = if g.selfClosing = true then depth else depth + 1 := rfl
    cases hself : g.selfClosing with
    | false =>
      rw [hinner, hself]
      exact TemplateTag.closes_cons_of_opening hclosing hself
    | true =>
      rw [hinner, hself]
      exact TemplateTag.closes_cons_of_selfClosing hclosing hself

/-! ## Bodies of blocks -/

/-- The search for the end of a block, from the start of its body on, finds one up to an offset. -/
def Block.IsClosedBy (document : Text) (b : Block) (start limit : Nat) : Prop :=
  document.length ≤ limit ∨
    match b.kind with
    | .script => ∃ n, start + n ≤ limit ∧ startsScriptEnd (document.drop (start + n)) = true
    | .template => Closes 0 limit (TemplateTag.listFrom start (document.drop start))

/-- The body starts behind the start tag of its block. -/
theorem Block.offset_lt_of_body? {document : Text} {b : Block} {body : Span}
    (h : b.body? document = some body) : (b.offset : Int) < body.start := by
  obtain ⟨g, -, rfl⟩ := Option.map_eq_some_iff.mp h
  have hpos := g.length_toText_pos
  simp only
  omega

/-- The body of a block ends up to an offset exactly if the search finds its end up to there. -/
theorem Block.stop_le_iff {document : Text} {b : Block} {body : Span}
    (h : b.body? document = some body) (limit : Nat) :
    body.stop ≤ limit ↔ b.IsClosedBy document body.start.toNat limit := by
  have hbounds := b.bounds_of_body? h
  obtain ⟨g, -, rfl⟩ := Option.map_eq_some_iff.mp h
  simp only at hbounds ⊢
  have hlength : b.offset + g.toText.length +
      (document.drop (b.offset + g.toText.length)).length = document.length := by
    rw [List.length_drop]
    omega
  rw [IsClosedBy, ← hlength, Int.toNat_natCast]
  cases b.kind with
  | script =>
    simp only
    rw [← Int.natCast_add, Int.ofNat_le, add_scriptLength_le_iff]
    simp only [List.drop_drop]
  | template =>
    simp only
    rw [← Int.natCast_add, Int.ofNat_le]
    exact add_templateLength_le_iff _ _ _ _

/-- The search finds the end of each block where the block ends. -/
def Extent.IsClosed (document : Text) (x : Extent) : Prop :=
  ∀ body, x.block.body? document = some body →
    x.block.IsClosedBy document body.start.toNat x.stop

section

variable {document : Text} {xs : List Extent} {x y : Extent} {body body' : Span}

/-- The body of a closed block ends before the body of a block that follows starts. -/
theorem Extent.stop_le_start (hx : x.IsClosed document) (hle : x.stop ≤ y.block.offset)
    (hbody : x.block.body? document = some body)
    (hbody' : y.block.body? document = some body') : body.stop ≤ body'.start := by
  have hstop := (Block.stop_le_iff hbody x.stop).mpr (hx body hbody)
  have hstart := Block.offset_lt_of_body? hbody'
  omega

/-- The bodies of two closed blocks do not overlap. -/
theorem Extent.bodies_apart (h : list document = .ok xs) (hclosed : ∀ x ∈ xs, x.IsClosed document)
    (hx : x ∈ xs) (hy : y ∈ xs) (hne : x ≠ y) (hbody : x.block.body? document = some body)
    (hbody' : y.block.body? document = some body') :
    body.stop ≤ body'.start ∨ body'.stop ≤ body.start := by
  have hpairwise : xs.Pairwise fun x y =>
      x.stop ≤ y.block.offset ∨ y.stop ≤ x.block.offset := (pairwise_list h).imp Or.inl
  have hsymm : Std.Symm fun x y : Extent =>
      x.stop ≤ y.block.offset ∨ y.stop ≤ x.block.offset := ⟨fun _ _ => Or.symm⟩
  rcases hpairwise.forall hx hy hne with hle | hle
  · exact Or.inl (stop_le_start (hclosed x hx) hle hbody hbody')
  · exact Or.inr (stop_le_start (hclosed y hy) hle hbody' hbody)

end

/-! ## Fragments of blocks -/

section

variable {document : Text} {start stop : Int}

theorem region_extractExpression :
    (Script.extractExpression document start stop).All (·.region = .template) := by
  intro fragments h f hf
  rcases Script.exists_parse_of_extractExpression h with rfl | ⟨found, rfl, hparse | hparse⟩
  · cases hf
  · exact ((Script.parse_sound hparse).1 f (List.mem_filter.mp hf).1).region_eq
  · exact ((Script.parse_sound hparse).1 f (List.mem_filter.mp hf).1).region_eq

theorem region_extractProse : ∀ f ∈ extractProse document start stop, f.region = .template := by
  intro f hf
  unfold extractProse at hf
  simp only at hf
  split at hf
  · rw [List.mem_singleton.mp hf]
    rfl
  · cases hf

theorem region_extractSegments (segments : List Segment) :
    (extractSegments document start stop segments).All (·.region = .template) := by
  induction segments generalizing start with
  | nil => exact Outcome.all_nil
  | cons s rest ih =>
    cases s with
    | prose t => exact Outcome.all_append (Outcome.all_value region_extractProse) ih
    | embedded t => exact Outcome.all_append region_extractExpression ih

theorem region_extractAttribute (base : Int) (a : Attribute) :
    (extractAttribute document base a).All (·.region = .template) := by
  rcases extractAttribute_cases document base a with h | h | ⟨n, -, h⟩
  · rw [h]
    refine Outcome.all_value fun f hf => ?_
    rw [List.mem_singleton.mp hf]
    rfl
  · rw [h]
    exact Outcome.all_nil
  · rw [h]
    exact region_extractExpression

theorem region_extractTag (g : Tag) :
    (extractTag document start g).All (·.region = .template) := by
  unfold extractTag
  split
  · exact Outcome.all_nil
  · refine Outcome.all_concat fun x hx => ?_
    obtain ⟨a, -, rfl⟩ := List.mem_map.mp hx
    exact region_extractAttribute _ a

/-- The fragments of a template stand in the region of templates. -/
theorem region_extractPieces (pieces : List Piece) :
    (extractPieces document start stop pieces).All (·.region = .template) := by
  induction pieces generalizing start with
  | nil => exact Outcome.all_nil
  | cons p rest ih =>
    refine Outcome.all_append ?_ ih
    cases p with
    | run t => exact region_extractSegments _
    | comment t => exact Outcome.all_nil
    | tag g => exact region_extractTag g

end

/-- The fragment lies in the body of the block; its region is that of the block, and a fragment of
a script is of a kind of scripts. -/
structure Block.Holds (document : Text) (b : Block) (f : Fragment) : Prop where
  body : ∃ body, b.body? document = some body ∧ f.LiesIn document body.start body.stop
  script : f.region = .script ↔ b.kind = .script
  isOfScripts : b.kind = .script → f.kind.isOfScripts = true

theorem holds_extractBlock (document : Text) (b : Block) :
    (extractBlock document b).All (b.Holds document) := by
  intro l hl f hf
  obtain ⟨body, hbody, hread⟩ := exists_body_of_mem_extractBlock hl hf
  obtain ⟨hstart, hle, hstop⟩ := b.bounds_of_body? hbody
  rcases hread with ⟨hkind, hl⟩ | ⟨hkind, hl⟩
  · obtain ⟨mode, hparse⟩ := Script.exists_parse_of_extract hl
    have hholds := (Script.parse_sound hparse).1 f hf
    have hlies := Script.liesIn_extract hstart hle hstop hl f hf
    exact ⟨⟨body, hbody, hlies⟩, iff_of_true hholds.region_eq hkind,
      fun _ => hholds.isOfScripts⟩
  · have hregion := region_extractPieces _ l hl f hf
    have hlies := all_extractTemplate hstart hle hstop l hl f hf
    refine ⟨⟨body, hbody, hlies⟩, ?_, fun h => ?_⟩
    · rw [hregion, hkind]
      exact iff_of_false nofun nofun
    · rw [hkind] at h
      cases h

theorem holds_extractBlocks (document : Text) (blocks : List Block) :
    (extractBlocks document blocks).All fun f => ∃ b ∈ blocks, b.Holds document f := by
  induction blocks with
  | nil => exact Outcome.all_nil
  | cons b rest ih =>
    refine Outcome.all_append (fun l hl f hf => ?_) fun l hl f hf => ?_
    · exact ⟨b, List.mem_cons_self, holds_extractBlock document b l hl f hf⟩
    · obtain ⟨b', hb', hf'⟩ := ih l hl f hf
      exact ⟨b', List.mem_cons_of_mem _ hb', hf'⟩

/-- Each fragment of a component is one of a block. -/
theorem exists_holds_of_mem_extractComponent {document : Text} {xs : List Extent}
    (h : Extent.list document = .ok xs) {fragments : List Fragment}
    (hfragments : (extractComponent document).result = .ok fragments) {f : Fragment}
    (hf : f ∈ fragments) : ∃ x ∈ xs, x.block.Holds document f := by
  have hblocks := Extent.map_block_list document
  rw [h] at hblocks
  obtain ⟨blocks, hlist, hfragments⟩ := Outcome.result_bind hfragments
  obtain ⟨found, hfound, hfragments⟩ := Outcome.result_bind hfragments
  cases hfragments
  rw [← hblocks] at hlist
  cases hlist
  obtain ⟨b, hb, hholds⟩ := holds_extractBlocks document _ found hfound f (mem_sortBy.mp hf)
  obtain ⟨x, hx, rfl⟩ := List.mem_map.mp hb
  exact ⟨x, hx, hholds⟩

namespace Block.Holds

variable {document : Text} {xs : List Extent} {x y : Extent} {f : Fragment} {body : Span}

/-- Prose and attribute values are not found in scripts. -/
theorem kind_ne_script {b : Block} (h : b.Holds document f)
    (hkind : f.kind = .markupText ∨ f.kind = .attributeValue) : b.kind ≠ .script := by
  intro hscript
  have hscripts := h.isOfScripts hscript
  rcases hkind with hkind | hkind
  · rw [hkind] at hscripts
    cases hscripts
  · rw [hkind] at hscripts
    cases hscripts

/-- A fragment of a block lies apart from the bodies of all other blocks if the blocks are closed. -/
theorem apart (hholds : x.block.Holds document f) (h : Extent.list document = .ok xs)
    (hclosed : ∀ x ∈ xs, x.IsClosed document) (hx : x ∈ xs) (hy : y ∈ xs) (hne : x ≠ y)
    (hbody : y.block.body? document = some body) : f.stop ≤ body.start ∨ body.stop ≤ f.start := by
  obtain ⟨body', hbody', hlies⟩ := hholds.body
  have hstart := hlies.start_le
  have hstop := hlies.stop_le
  rcases Extent.bodies_apart h hclosed hx hy hne hbody' hbody with hle | hle
  · exact Or.inl (by omega)
  · exact Or.inr (by omega)

end Block.Holds

/-- The body of a block ends with the block exactly if the search finds its end there. If it does so
for each block, then the bodies follow one another, and prose and attribute values lie apart from
the bodies of scripts and from all fragments of scripts. -/
theorem bodies_apart_of_closed {document : Text} {xs : List Extent}
    (h : Extent.list document = .ok xs) :
    Block.list document = .ok (xs.map Extent.block) ∧
      (∀ x ∈ xs, ∀ body, x.block.body? document = some body →
        (body.stop ≤ x.stop ↔ x.block.IsClosedBy document body.start.toNat x.stop)) ∧
      ((∀ x ∈ xs, x.IsClosed document) →
        (xs.filterMap fun x => x.block.body? document).Pairwise (fun b b' => b.stop ≤ b'.start) ∧
          ∀ fragments, (extractComponent document).result = .ok fragments → ∀ f ∈ fragments,
            f.kind = .markupText ∨ f.kind = .attributeValue →
              (∀ x ∈ xs, x.block.kind = .script → ∀ body, x.block.body? document = some body →
                f.stop ≤ body.start ∨ body.stop ≤ f.start) ∧
              ∀ g ∈ fragments, g.region = .script → f.stop ≤ g.start ∨ g.stop ≤ f.start) := by
  refine ⟨?_, fun x _ body hbody => Block.stop_le_iff hbody x.stop, fun hclosed => ⟨?_, ?_⟩⟩
  · rw [← Extent.map_block_list, h]
    rfl
  · refine List.pairwise_filterMap.mpr ?_
    refine (Extent.pairwise_list h).imp_of_mem fun hx _ hle body hbody body' hbody' => ?_
    exact Extent.stop_le_start (hclosed _ hx) hle hbody hbody'
  · intro fragments hfragments f hf hkind
    obtain ⟨x, hx, hholds⟩ := exists_holds_of_mem_extractComponent h hfragments hf
    have htemplate := hholds.kind_ne_script hkind
    have hapart : ∀ y ∈ xs, y.block.kind = .script → ∀ body, y.block.body? document = some body →
        f.stop ≤ body.start ∨ body.stop ≤ f.start := by
      intro y hy hscript body hbody
      have hne : x ≠ y := by
        rintro rfl
        exact htemplate hscript
      exact hholds.apart h hclosed hx hy hne hbody
    refine ⟨hapart, fun g hg hregion => ?_⟩
    obtain ⟨y, hy, hholds'⟩ := exists_holds_of_mem_extractComponent h hfragments hg
    obtain ⟨body, hbody, hlies⟩ := hholds'.body
    have hstart := hlies.start_le
    have hstop := hlies.stop_le
    rcases hapart y hy (hholds'.script.mp hregion) body hbody with hle | hle
    · exact Or.inl (by omega)
    · exact Or.inr (by omega)

/-- A template with another one in it and a comment, and a script: each body ends with its block. -/
theorem bodies_apart_of_nested :
    let document := text "<template><template #a>'b'</template><!-- c --></template>" ++
      text "<script>d('e')</script>"
    let template : Extent := ⟨⟨.template, 0, none⟩, 58⟩
    let script : Extent := ⟨⟨.script, 58, none⟩, 81⟩
    Extent.list document = .ok [template, script] ∧
      template.IsClosed document ∧ script.IsClosed document ∧
      ∀ fragments, (extractComponent document).result = .ok fragments → ∀ f ∈ fragments,
        f.kind = .markupText ∨ f.kind = .attributeValue →
          ∀ g ∈ fragments, g.region = .script → f.stop ≤ g.start ∨ g.stop ≤ f.start := by
  intro document template script
  have hlist : Extent.list document = .ok [template, script] := by decide +kernel
  obtain ⟨-, hstop, hapart⟩ := bodies_apart_of_closed hlist
  have hbodies : template.block.body? document = some ⟨10, 47⟩ ∧
      script.block.body? document = some ⟨66, 72⟩ := by decide +kernel
  have htemplate : template.IsClosed document := by
    intro body hbody
    refine (hstop template (by simp) body hbody).mp ?_
    rw [hbodies.1] at hbody
    cases hbody
    decide
  have hscript : script.IsClosed document := by
    intro body hbody
    refine (hstop script (by simp) body hbody).mp ?_
    rw [hbodies.2] at hbody
    cases hbody
    decide
  have hclosed : ∀ x ∈ [template, script], x.IsClosed document := by
    intro x hx
    rw [List.mem_cons, List.mem_singleton] at hx
    rcases hx with rfl | rfl
    · exact htemplate
    · exact hscript
  exact ⟨hlist, htemplate, hscript, fun fragments hfragments f hf hkind =>
    ((hapart hclosed).2 fragments hfragments f hf hkind).2⟩

/-- A template with a template tag in a comment: this tag is never closed, so that the body goes on
to the end of the document, and the script behind the template is prose. -/
theorem body_overlaps_script_of_comment :
    let document := text "<template><!-- <template> --><p>Hi</p></template>" ++
      text "<script>var a = 'b';</script>"
    let template : Extent := ⟨⟨.template, 0, none⟩, 49⟩
    let script : Extent := ⟨⟨.script, 49, none⟩, 78⟩
    Extent.list document = .ok [template, script] ∧
      template.block.body? document = some ⟨10, 78⟩ ∧
      script.block.body? document = some ⟨57, 69⟩ ∧
      ∃ fragments f g, (extractComponent document).result = .ok fragments ∧
        f ∈ fragments ∧ f.kind = .markupText ∧ f.start = 57 ∧ f.stop = 69 ∧
        g ∈ fragments ∧ g.region = .script ∧ g.start = 65 ∧ g.stop = 68 := by
  intro document template script
  have hfragments : (extractComponent document).result =
      .ok [⟨.markupText, 32, 34, text "Hi", .template, none⟩,
        ⟨.markupText, 57, 69, text "var a = 'b';", .template, none⟩,
        ⟨.literal, 65, 68, text "'b'", .script, none⟩] := by decide +kernel
  refine ⟨by decide +kernel, by decide +kernel, by decide +kernel, ?_⟩
  exact ⟨_, _, _, hfragments, List.mem_cons_of_mem _ List.mem_cons_self, rfl, rfl, rfl,
    List.mem_cons_of_mem _ (List.mem_cons_of_mem _ List.mem_cons_self), rfl, rfl, rfl⟩

end SmartQuotes.Markup
