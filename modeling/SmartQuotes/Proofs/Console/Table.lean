import SmartQuotes.Console.Table
import SmartQuotes.Proofs.Console.Layout

/-!
# Tables for which there is room

On a terminal that is wide enough for a table each column takes what its widest line takes. Then the
frame stands around the texts as they are: nothing is broken, cut or cropped (`lines_of_fits`).
-/

namespace SmartQuotes

namespace Text

theorem splitOn_congr {p q : Char → Bool} {t : Text} (h : ∀ c ∈ t, p c = q c) :
    t.splitOn p = t.splitOn q := by
  induction t with
  | nil => rfl
  | cons c t ih =>
    rw [List.forall_mem_cons] at h
    rw [splitOn, splitOn, h.1, ih h.2]

end Text

namespace Console

/-! ## The widest of several -/

theorem foldl_max_le_iff {ns : List Nat} {a n : Nat} :
    ns.foldl max a ≤ n ↔ a ≤ n ∧ ∀ m ∈ ns, m ≤ n := by
  induction ns generalizing a with
  | nil => simp
  | cons m ns ih => rw [List.foldl_cons, ih, List.forall_mem_cons, Nat.max_le, and_assoc]

theorem le_foldl_max {ns : List Nat} {n : Nat} (h : n ∈ ns) : n ≤ ns.foldl max 0 :=
  (foldl_max_le_iff.mp (Nat.le_refl _)).2 n h

theorem foldl_max_map_add {ns : List Nat} (hne : ns ≠ []) (p : Nat) :
    (ns.map (· + p)).foldl max 0 = ns.foldl max 0 + p := by
  have hstep : ∀ (ns : List Nat) (a : Nat),
      (ns.map (· + p)).foldl max (a + p) = ns.foldl max a + p := by
    intro ns
    induction ns with
    | nil => exact fun _ => rfl
    | cons n ns ih =>
      intro a
      rw [List.map_cons, List.foldl_cons, List.foldl_cons, ← ih, Nat.add_max_add_right]
  cases ns with
  | nil => exact absurd rfl hne
  | cons n ns =>
    rw [List.map_cons, List.foldl_cons, List.foldl_cons, Nat.zero_max, Nat.zero_max, hstep]

/-- Each line of the text stays as it is where there is room for it, and a line is the same where
texts are measured as where they are laid out. -/
structure HasSteadyLines (t : Text) : Prop where
  lines : ∀ line ∈ t.splitOn (· == '\n'), IsSteady line
  ends : ∀ c ∈ t, endsLine c = (c == '\n')

theorem hasSteadyLines_iff {t : Text} : HasSteadyLines t ↔
    (∀ line ∈ t.splitOn (· == '\n'), IsSteady line) ∧
      t.all (fun c => endsLine c == (c == '\n')) = true := by
  rw [List.all_eq_true]
  simp only [beq_iff_eq]
  exact ⟨fun h => ⟨h.lines, h.ends⟩, fun h => ⟨h.1, h.2⟩⟩

instance (t : Text) : Decidable (HasSteadyLines t) := decidable_of_iff' _ hasSteadyLines_iff

theorem HasSteadyLines.width_le {t line : Text} (h : HasSteadyLines t)
    (hline : line ∈ t.splitOn (· == '\n')) : width line ≤ measure t := by
  rw [Text.splitOn_congr fun c hc => (h.ends c hc).symm] at hline
  exact le_foldl_max (List.mem_map_of_mem hline)

/-! ## A column -/

namespace FilledColumn

variable {c : FilledColumn} {available : Nat}

/-- The cells that the column takes if there is room for it. -/
def natural (c : FilledColumn) : Nat := (c.texts.map measure).foldl max 0 + c.padding

/-- The lines of a text in the column. -/
def block (c : FilledColumn) (t : Text) : List Text :=
  (t.splitOn (· == '\n')).map fun line =>
    spaces c.left ++ line ++ spaces (c.natural - c.left - width line)

/-- The header takes cells, and all texts in the column stay as they are. -/
structure IsSteady (c : FilledColumn) : Prop where
  header : 0 < measure c.header
  texts : ∀ t ∈ c.texts, HasSteadyLines t

theorem measure_add_padding_le (c : FilledColumn) {t : Text} (h : t ∈ c.texts) :
    measure t + c.padding ≤ c.natural :=
  Nat.add_le_add_right (le_foldl_max (List.mem_map_of_mem h)) _

theorem IsSteady.padding_lt (h : c.IsSteady) : c.padding < c.natural := by
  have hheader := c.measure_add_padding_le (List.mem_cons_self : c.header ∈ c.texts)
  have := h.header
  omega

theorem IsSteady.wanted_eq (h : c.IsSteady) (hfits : c.natural ≤ available) :
    c.wanted available = c.natural := by
  have hpadding := h.padding_lt
  have hcells : (c.texts.map fun t =>
      if available ≤ c.padding then available
      else min (min (measure t) available + c.padding) available) =
        (c.texts.map measure).map (· + c.padding) := by
    rw [List.map_map]
    refine List.map_congr_left fun t ht => ?_
    have := c.measure_add_padding_le ht
    rw [if_neg (by omega), Function.comp_apply]
    omega
  rw [wanted, hcells, foldl_max_map_add, natural]
  exact mt List.map_eq_nil_iff.mp (List.cons_ne_nil _ _)

/-- A text that stands in the column, or none. -/
def Holds (c : FilledColumn) (t : Text) : Prop := t = [] ∨ t ∈ c.texts

theorem holds_getD (c : FilledColumn) (i : Nat) : c.Holds (c.texts.getD i []) := by
  rw [List.getD_eq_getElem?_getD]
  cases h : c.texts[i]? with
  | none => exact Or.inl rfl
  | some t => exact Or.inr (List.mem_of_getElem? h)

/-- The lines of the texts in a steady column fit in it. -/
theorem IsSteady.fits (h : c.IsSteady) {t : Text} (ht : c.Holds t) :
    ∀ line ∈ t.splitOn (· == '\n'),
      Console.IsSteady line ∧ width line ≤ c.natural - c.padding := by
  intro line hline
  rcases ht with rfl | ht
  · rw [Text.splitOn, List.mem_singleton] at hline
    subst hline
    exact ⟨by decide, Nat.zero_le _⟩
  · refine ⟨(h.texts t ht).lines line hline, ?_⟩
    have := c.measure_add_padding_le ht
    have := (h.texts t ht).width_le hline
    omega

/-- A line of a block is as wide as the column. -/
theorem IsSteady.block_spec (h : c.IsSteady) {t : Text} (ht : c.Holds t) :
    ∀ line ∈ c.block t, IsSolid line ∧ width line = c.natural := by
  intro padded hpadded
  obtain ⟨line, hline, rfl⟩ := List.mem_map.mp hpadded
  obtain ⟨hsteady, hfits⟩ := h.fits ht line hline
  have hsolid := hsteady.isSolid
  have hleft := (isSolid_spaces c.left).append hsolid
  refine ⟨hleft.append (isSolid_spaces _), ?_⟩
  rw [hleft.width_append (isSolid_spaces _), (isSolid_spaces _).width_append hsolid, width_spaces,
    width_spaces]
  have := h.padding_lt
  rw [padding] at this hfits
  omega

/-- In a column that takes what its widest line takes, texts stay as they are. -/
theorem IsSteady.cellLines_eq (h : c.IsSteady) {t : Text} (ht : c.Holds t) :
    Table.cellLines c c.natural t = c.block t := by
  have hpadding := h.padding_lt
  rw [Table.cellLines, if_neg (by omega), columnLines_of_fits c.wraps (h.fits ht), block,
    List.map_map]
  refine List.map_congr_left fun line hline => ?_
  obtain ⟨hsteady, hfits⟩ := h.fits ht line hline
  have hspaces : spaces (c.natural - c.padding - width line) ++ spaces c.right =
      spaces (c.natural - c.left - width line) := by
    rw [spaces, spaces, spaces, ← List.replicate_add]
    rw [padding] at hpadding hfits ⊢
    congr 1
    omega
  have hline' : spaces c.left ++ alignLeft (c.natural - c.padding) line ++ spaces c.right =
      spaces c.left ++ line ++ spaces (c.natural - c.left - width line) := by
    rw [alignLeft, ← hspaces]
    simp only [List.append_assoc]
  rw [Function.comp_apply, hline']
  exact fitTo_of_eq (h.block_spec ht _ (List.mem_map_of_mem hline)).2

end FilledColumn

/-! ## The frame -/

/-- The lines of a row around blocks of lines, each with the width of its column. -/
def framed (blocks : List (Nat × List Text)) : List Text :=
  (List.range ((blocks.map (·.2.length)).foldl max 1)).map fun i =>
    '│' :: Text.join ['│'] (blocks.map fun (size, lines) => lines.getD i (spaces size)) ++ ['│']

theorem width_join {junction : Char} {parts : List Text} (hjunction : cells junction = 1)
    (hne : parts ≠ []) (hparts : ∀ p ∈ parts, IsSolid p) :
    IsSolid (Text.join [junction] parts) ∧
      width (Text.join [junction] parts) + 1 = total (parts.map width) + parts.length := by
  have hsolid : IsSolid [junction] := isSolid_singleton (hjunction ▸ Nat.one_pos)
  induction parts with
  | nil => exact absurd rfl hne
  | cons p parts ih =>
    obtain ⟨hp, hrest⟩ := List.forall_mem_cons.mp hparts
    cases parts with
    | nil =>
      rw [Text.join, List.intercalate_singleton]
      exact ⟨hp, rfl⟩
    | cons q parts =>
      obtain ⟨hjoined, hwidth⟩ := ih (List.cons_ne_nil _ _) hrest
      have hjoin : Text.join [junction] (p :: q :: parts) =
          p ++ ([junction] ++ Text.join [junction] (q :: parts)) :=
        List.intercalate_cons_cons.trans (List.append_assoc ..)
      rw [hjoin]
      refine ⟨hp.append (hsolid.append hjoined), ?_⟩
      rw [hp.width_append (hsolid.append hjoined), hsolid.width_append hjoined, width_singleton,
        hjunction, List.map_cons, total_cons, List.length_cons]
      omega

/-- A line of the frame with parts in it. -/
theorem width_framed {left junction right : Char} {parts : List Text} (hne : parts ≠ [])
    (hleft : cells left = 1) (hjunction : cells junction = 1) (hright : cells right = 1)
    (hparts : ∀ p ∈ parts, IsSolid p) :
    width (left :: Text.join [junction] parts ++ [right]) =
      total (parts.map width) + (parts.length + 1) := by
  have hl : IsSolid [left] := isSolid_singleton (hleft ▸ Nat.one_pos)
  have hr : IsSolid [right] := isSolid_singleton (hright ▸ Nat.one_pos)
  obtain ⟨hjoined, hwidth⟩ := width_join hjunction hne hparts
  have hline : left :: Text.join [junction] parts ++ [right] =
      [left] ++ Text.join [junction] parts ++ [right] := rfl
  rw [hline, (hl.append hjoined).width_append hr, hl.width_append hjoined, width_singleton,
    width_singleton, hleft, hright]
  omega

namespace Table

variable {t : Table} {size : Nat}

/-- The widths of the columns if there is room for them. -/
def naturals (t : Table) : List Nat := t.columns.map (·.natural)

/-- The cells that the table takes if there is room for it. -/
def natural (t : Table) : Nat := total t.naturals + t.frame

/-- The row of the given number, the header being row zero, with its texts as they are. -/
def gridRow (t : Table) (i : Nat) : List Text :=
  framed (t.columns.map fun c => (c.natural, c.block (c.texts.getD i [])))

/-- The lines of the table with its texts as they are. -/
def grid (t : Table) : List Text :=
  let middle := rule '├' '┼' '┤' t.naturals
  [alignCenter t.natural t.title, rule '╭' '┬' '╮' t.naturals] ++ t.gridRow 0 ++ [middle] ++
    [middle].intercalate ((List.range t.height).map fun i => t.gridRow (i + 1)) ++
      [rule '╰' '┴' '╯' t.naturals]

/-- There is room for the table, and all its texts stay as they are. -/
structure Fits (t : Table) (size : Nat) : Prop where
  nonempty : t.columns ≠ []
  columns : ∀ c ∈ t.columns, c.IsSteady
  title : IsSteady t.title
  ending : ∀ c ∈ t.title.getLast?, Text.Class.isBlank c = false
  heading : width t.title ≤ t.natural
  room : t.natural ≤ size

theorem natural_le_total {c : FilledColumn} (hc : c ∈ t.columns) :
    c.natural ≤ total t.naturals := by
  have hle : ∀ {ns : List Nat} {n : Nat}, n ∈ ns → n ≤ total ns := by
    intro ns n hn
    induction ns with
    | nil => cases hn
    | cons m ns ih =>
      rw [total_cons]
      rcases List.mem_cons.mp hn with rfl | hn
      · exact Nat.le_add_right _ _
      · exact (ih hn).trans (Nat.le_add_left _ _)
  exact hle (List.mem_map_of_mem hc)

theorem Fits.widths_eq (h : t.Fits size) : t.widths (size - t.frame) = t.naturals := by
  have hroom : total t.naturals ≤ size - t.frame := by
    have := h.room
    rw [natural] at this
    omega
  have hwanted : (t.columns.map fun c =>
      max 1 (if size - t.frame = 0 then 0 else c.wanted (size - t.frame))) = t.naturals := by
    refine List.map_congr_left fun c hc => ?_
    have hsteady := h.columns c hc
    have hfits := (natural_le_total hc).trans hroom
    have := hsteady.padding_lt
    rw [if_neg (by omega), hsteady.wanted_eq hfits]
    omega
  rw [widths]
  simp only [hwanted]
  exact if_pos hroom

theorem Fits.row_eq (h : t.Fits size) (i : Nat) : t.row t.naturals i = t.gridRow i := by
  have hzip : t.columns.zip t.naturals = t.columns.map fun c => (c, c.natural) :=
    List.map_prod_left_eq_zip.symm
  have hrow : t.row t.naturals i = framed (t.columns.map fun c =>
      (c.natural, cellLines c c.natural (c.texts.getD i []))) := by
    rw [row, hzip, List.map_map, rowLines, List.map_map]
    rfl
  rw [hrow, gridRow]
  refine congrArg framed (List.map_congr_left fun c hc => ?_)
  rw [(h.columns c hc).cellLines_eq (c.holds_getD i)]

/-! ### Widths of the lines -/

theorem width_rule {left junction right : Char} (h : t.columns ≠ []) (hleft : cells left = 1)
    (hjunction : cells junction = 1) (hright : cells right = 1) :
    width (rule left junction right t.naturals) = t.natural := by
  have hdash : cells '─' = 1 := by decide
  rw [rule, width_framed _ hleft hjunction hright]
  · rw [List.map_map, List.length_map, natural, frame, naturals, List.length_map]
    congr 2
    conv_rhs => rw [← List.map_id (t.columns.map _)]
    exact List.map_congr_left fun n _ => width_replicate hdash n
  · intro p hp
    obtain ⟨n, -, rfl⟩ := List.mem_map.mp hp
    exact isSolid_replicate (hdash ▸ Nat.one_pos) n
  · exact mt List.map_eq_nil_iff.mp (mt List.map_eq_nil_iff.mp h)

theorem Fits.width_gridRow (h : t.Fits size) {i : Nat} :
    ∀ line ∈ t.gridRow i, width line = t.natural := by
  intro line hline
  obtain ⟨k, -, rfl⟩ := List.mem_map.mp hline
  have hbar : cells '│' = 1 := by decide
  have hpart : ∀ c ∈ t.columns,
      IsSolid ((c.block (c.texts.getD i [])).getD k (spaces c.natural)) ∧
        width ((c.block (c.texts.getD i [])).getD k (spaces c.natural)) = c.natural := by
    intro c hc
    rw [List.getD_eq_getElem?_getD]
    cases hget : (c.block (c.texts.getD i []))[k]? with
    | none => exact ⟨isSolid_spaces _, width_spaces _⟩
    | some l => exact (h.columns c hc).block_spec (c.holds_getD i) l (List.mem_of_getElem? hget)
  rw [List.map_map, width_framed _ hbar hbar hbar]
  · rw [List.map_map, List.length_map, natural, frame, naturals]
    congr 2
    exact List.map_congr_left fun c hc => (hpart c hc).2
  · intro p hp
    obtain ⟨c, hc, rfl⟩ := List.mem_map.mp hp
    exact (hpart c hc).1
  · exact mt List.map_eq_nil_iff.mp h.nonempty

theorem Fits.width_heading (h : t.Fits size) :
    width (alignCenter t.natural t.title) = t.natural := by
  have hsolid := h.title.isSolid
  have hcentred := (isSolid_spaces ((t.natural - width t.title) / 2)).append hsolid
  have hwidth : width (spaces ((t.natural - width t.title) / 2) ++ t.title) =
      (t.natural - width t.title) / 2 + width t.title := by
    rw [(isSolid_spaces _).width_append hsolid, width_spaces]
  rw [alignCenter, alignLeft, hcentred.width_append (isSolid_spaces _), width_spaces, hwidth]
  have := h.heading
  omega

theorem forall_mem_intercalate {α : Type} {P : α → Prop} {sep : List α} {ls : List (List α)}
    (hsep : ∀ x ∈ sep, P x) (hls : ∀ l ∈ ls, ∀ x ∈ l, P x) : ∀ x ∈ sep.intercalate ls, P x := by
  induction ls with
  | nil => exact nofun
  | cons l ls ih =>
    obtain ⟨hl, hls⟩ := List.forall_mem_cons.mp hls
    cases ls with
    | nil => rwa [List.intercalate_singleton]
    | cons m ls =>
      intro x hx
      rw [List.intercalate_cons_cons, List.mem_append, List.mem_append] at hx
      rcases hx with (hx | hx) | hx
      · exact hl x hx
      · exact hsep x hx
      · exact ih hls x hx

theorem Fits.width_grid (h : t.Fits size) : ∀ line ∈ t.grid, width line = t.natural := by
  have hrule : ∀ {left junction right}, cells left = 1 → cells junction = 1 → cells right = 1 →
      width (rule left junction right t.naturals) = t.natural := fun hl hj hr =>
    width_rule h.nonempty hl hj hr
  have hmiddle : ∀ line ∈ [rule '├' '┼' '┤' t.naturals], width line = t.natural :=
    List.forall_mem_singleton.mpr (hrule (by decide) (by decide) (by decide))
  simp only [grid, List.forall_mem_append, List.forall_mem_cons]
  refine ⟨⟨⟨⟨⟨h.width_heading, hrule (by decide) (by decide) (by decide), nofun⟩,
    h.width_gridRow⟩, hmiddle _ List.mem_cons_self, nofun⟩, ?_⟩,
    hrule (by decide) (by decide) (by decide), nofun⟩
  refine forall_mem_intercalate hmiddle fun row hrow => ?_
  obtain ⟨i, -, rfl⟩ := List.mem_map.mp hrow
  exact h.width_gridRow

/-- Where there is room for it, a table is put out with its texts as they are. -/
theorem lines_of_fits (h : t.Fits size) : t.lines size = t.grid := by
  have hcrop : t.grid.map (cropTo size) = t.grid := by
    conv_rhs => rw [← List.map_id t.grid]
    refine List.map_congr_left fun line hline => ?_
    exact cropTo_of_le ((h.width_grid line hline).trans_le h.room)
  have hheading : headingLines t.natural t.title = [alignCenter t.natural t.title] :=
    headingLines_of_fits h.title h.heading h.ending
  rw [lines]
  simp only [h.widths_eq, h.row_eq]
  rw [← natural, hheading]
  exact hcrop

end Table

end Console

end SmartQuotes
