import SmartQuotes.Linter.Summary
import SmartQuotes.Proofs.Console.Styled
import SmartQuotes.Proofs.Console.Table
import SmartQuotes.Proofs.Linter.Session

/-!
# What a summary shows of the issues

The summary is a table with a row for each collected issue, in the order in which they were
collected. The suggestion is escaped, so that it can be shown whatever stands in it; the location is
not, so that a path with brackets is taken for a styled text. Whether there is a summary at all is
told by the locations alone (`summary_shows_entries`).
-/

namespace SmartQuotes

open Console

namespace Except

variable {ε α β : Type} {f : α → Except ε β}

theorem mapM_eq_ok {g : α → β} {l : List α} (h : ∀ x ∈ l, f x = .ok (g x)) :
    l.mapM f = .ok (l.map g) := by
  induction l with
  | nil => rfl
  | cons x l ih =>
    obtain ⟨hx, hl⟩ := List.forall_mem_cons.mp h
    rw [List.mapM_cons, hx, ih hl]
    rfl

theorem forall_of_mapM {l : List α} {ys : List β} (h : l.mapM f = .ok ys) :
    ∀ x ∈ l, ∃ y, f x = .ok y := by
  induction l generalizing ys with
  | nil => exact nofun
  | cons x l ih =>
    rw [List.mapM_cons] at h
    cases hx : f x with
    | error e =>
      rw [hx] at h
      cases h
    | ok y =>
      cases hl : l.mapM f with
      | error e =>
        rw [hx, hl] at h
        cases h
      | ok ys => exact List.forall_mem_cons.mpr ⟨⟨y, hx⟩, ih hl⟩

end Except

namespace Entry

/-- The preview between guillemets as it is, if there is one that is not empty. -/
def quoted (e : Entry) : Text :=
  match e.issue.preview with
  | none => []
  | some t => if t.isEmpty then [] else text "«" ++ t ++ text "»"

/-- The texts of the row for an issue: the rule, the location, the message and the suggestion. -/
def texts (e : Entry) : List Text := [text Finding.rule, e.location, text Finding.message, e.quoted]

theorem getLast?_quoted (e : Entry) : e.quoted.getLast? ≠ some '\\' := by
  have hclosing : ∀ t : Text, (text "«" ++ t ++ text "»").getLast? = some '»' := by
    intro t
    rw [List.getLast?_append]
    rfl
  rw [quoted]
  split
  · exact nofun
  · split
    · exact nofun
    · rw [hclosing]
      decide

theorem suggestion_eq (e : Entry) : e.suggestion = Styled.escape e.quoted := by
  have hnil : Styled.escape [] = [] := by
    rw [Styled.escape_eq_hardened (by decide), Part.hardened_nil]
  rw [suggestion, quoted]
  cases e.issue.preview with
  | none => exact hnil.symm
  | some t =>
    simp only
    split
    · exact hnil.symm
    · rfl

/-- A suggestion can be shown whatever the preview is. -/
theorem shown_suggestion (e : Entry) :
    Styled.shown e.suggestion = .ok ((Part.ofText e.quoted).flatMap Styled.spelled) := by
  rw [suggestion_eq, Styled.shown_escape e.getLast?_quoted]

end Entry

namespace Linter

/-- The table of issues with their locations and suggestions shown in some way. -/
def tableWith (location suggestion : Entry → Text) (entries : List Entry) : Table :=
  ⟨text "Straight quotes summary",
    [⟨⟨text "Rule", false, 0, 1⟩, entries.map fun _ => text Finding.rule⟩,
      ⟨⟨text "Location", true, 1, 1⟩, entries.map location⟩,
      ⟨⟨text "Message", true, 1, 1⟩, entries.map fun _ => text Finding.message⟩,
      ⟨⟨text "Suggestion", true, 1, 0⟩, entries.map suggestion⟩]⟩

theorem summaryColumn_eq {header : String} {wraps : Bool} {left right : Nat}
    {entries : List Entry} {f g : Entry → Text}
    (h : ∀ e ∈ entries, Styled.shown (f e) = .ok (g e)) :
    summaryColumn header wraps left right (entries.map f) =
      .ok ⟨⟨text header, wraps, left, right⟩, entries.map g⟩ := by
  have hcells : (entries.map f).mapM Styled.shown = .ok (entries.map g) := by
    rw [List.mapM_map]
    exact Except.mapM_eq_ok h
  rw [summaryColumn, hcells]
  rfl

theorem shown_rule : Styled.shown (text Finding.rule) = .ok (text Finding.rule) := by decide +kernel

theorem shown_message : Styled.shown (text Finding.message) = .ok (text Finding.message) := by
  decide +kernel

/-- The table shows the locations and the suggestions as styled texts. -/
theorem summaryTable_eq {entries : List Entry} {location suggestion : Entry → Text}
    (hlocation : ∀ e ∈ entries, Styled.shown e.location = .ok (location e))
    (hsuggestion : ∀ e ∈ entries, Styled.shown e.suggestion = .ok (suggestion e)) :
    summaryTable entries = .ok (tableWith location suggestion entries) := by
  rw [summaryTable, summaryColumn_eq fun _ _ => shown_rule, summaryColumn_eq hlocation,
    summaryColumn_eq fun _ _ => shown_message, summaryColumn_eq hsuggestion]
  rfl

/-- The first issue whose location cannot be shown tells why there is no table. -/
theorem summaryTable_of_error {e : Entry} {entries : List Entry} {f : Styled.Fault}
    (h : Styled.shown e.location = .error f) : summaryTable (e :: entries) = .error f := by
  have hcells : ((e :: entries).map Entry.location).mapM Styled.shown = .error f := by
    rw [List.map_cons, List.mapM_cons, h]
    rfl
  rw [summaryTable, summaryColumn_eq fun _ _ => shown_rule, summaryColumn, hcells]
  rfl

/-- There is a table exactly if every location can be shown. -/
theorem exists_summaryTable_iff {entries : List Entry} :
    (∃ t, summaryTable entries = .ok t) ↔
      ∀ e ∈ entries, ∃ shown, Styled.shown e.location = .ok shown := by
  constructor
  · rintro ⟨t, ht⟩
    rw [summaryTable, summaryColumn_eq fun _ _ => shown_rule] at ht
    cases hcells : (entries.map Entry.location).mapM Styled.shown with
    | error f =>
      rw [summaryColumn, hcells] at ht
      cases ht
    | ok cells =>
      rw [List.mapM_map] at hcells
      exact Except.forall_of_mapM hcells
  · intro h
    choose! location hlocation using h
    exact ⟨_, summaryTable_eq hlocation fun e _ => e.shown_suggestion⟩

end Linter

/-! ## Texts as they are -/

/-- Nothing of an issue is lost in a table that is wide enough: no code of an emoji, no control
character and no tag stands in its location, and no such code or character in its suggestion. -/
structure Entry.IsPlain (e : Entry) : Prop where
  tags : Styled.IsTagFree e.location
  location : Styled.IsLiteral e.location
  suggestion : Styled.IsLiteral e.quoted
  locationLines : HasSteadyLines e.location
  suggestionLines : HasSteadyLines e.quoted

instance (e : Entry) : Decidable e.IsPlain :=
  decidable_of_iff' (Styled.IsTagFree e.location ∧ Styled.IsLiteral e.location ∧
    Styled.IsLiteral e.quoted ∧ HasSteadyLines e.location ∧ HasSteadyLines e.quoted)
    ⟨fun h => ⟨h.1, h.2, h.3, h.4, h.5⟩, fun h => ⟨h.1, h.2.1, h.2.2.1, h.2.2.2.1, h.2.2.2.2⟩⟩

/-- The row of an issue in a table, with its texts as they are. -/
def Entry.row (t : Table) (e : Entry) : List Text :=
  framed (List.zipWith (fun c x => (c.natural, c.block x)) t.columns e.texts)

namespace Linter

variable {entries : List Entry} {size : Nat}

/-- The table of issues with their texts as they are. -/
def plainTable (entries : List Entry) : Table := tableWith Entry.location Entry.quoted entries

/-- The summary of issues with their texts as they are: a heading, the header, and a row for each
issue, in a frame. -/
def plainLines (entries : List Entry) : List Text :=
  let t := plainTable entries
  let middle := Table.rule '├' '┼' '┤' t.naturals
  [alignCenter t.natural t.title, Table.rule '╭' '┬' '╮' t.naturals] ++ t.gridRow 0 ++ [middle] ++
    [middle].intercalate (entries.map (Entry.row t)) ++ [Table.rule '╰' '┴' '╯' t.naturals]

theorem summaryTable_of_isPlain (h : ∀ e ∈ entries, e.IsPlain) :
    summaryTable entries = .ok (plainTable entries) := by
  refine summaryTable_eq (fun e he => (h e he).location.shown_eq_self (h e he).tags) fun e he => ?_
  rw [e.suggestion_eq]
  exact (h e he).suggestion.shown_escape e.getLast?_quoted

theorem gridRow_plainTable {k : Nat} {e : Entry} (he : entries[k]? = some e) :
    (plainTable entries).gridRow (k + 1) = e.row (plainTable entries) := by
  have hget : ∀ f : Entry → Text, (entries.map f).getD k [] = f e := by
    intro f
    rw [List.getD_eq_getElem?_getD, List.getElem?_map, he]
    rfl
  simp only [Table.gridRow, Entry.row, plainTable, tableWith, Entry.texts, List.map_cons,
    List.map_nil, List.zipWith_cons_cons, List.zipWith_nil_left, FilledColumn.texts,
    List.getD_cons_succ, hget]

theorem grid_plainTable (entries : List Entry) :
    (plainTable entries).grid = plainLines entries := by
  have hheight : (plainTable entries).height = entries.length := by
    simp [plainTable, tableWith, Table.height]
  have hrows : ((List.range entries.length).map fun k => (plainTable entries).gridRow (k + 1)) =
      entries.map (Entry.row (plainTable entries)) := by
    refine List.ext_getElem (by simp) fun k hk _ => ?_
    rw [List.length_map, List.length_range] at hk
    rw [List.getElem_map, List.getElem_map, List.getElem_range]
    exact gridRow_plainTable (List.getElem?_eq_getElem hk)
  rw [Table.grid, hheight, hrows]
  rfl

theorem isSteady_column {c : Column} {f : Entry → Text} (hmeasure : 0 < measure c.header)
    (hheader : HasSteadyLines c.header) (hf : ∀ e ∈ entries, HasSteadyLines (f e)) :
    FilledColumn.IsSteady ⟨c, entries.map f⟩ := by
  refine ⟨hmeasure, fun t ht => ?_⟩
  rcases List.mem_cons.mp ht with rfl | ht
  · exact hheader
  · obtain ⟨e, he, rfl⟩ := List.mem_map.mp ht
    exact hf e he

theorem isSteady_title : IsSteady (text "Straight quotes summary") := by decide +kernel

/-- The table of plain issues has its texts as they are wherever there is room for it. -/
theorem fits_plainTable (hne : entries ≠ []) (h : ∀ e ∈ entries, e.IsPlain)
    (hroom : (plainTable entries).natural ≤ size) : (plainTable entries).Fits size where
  nonempty := List.cons_ne_nil _ _
  columns := by
    have hrule : HasSteadyLines (text Finding.rule) := by decide +kernel
    have hmessage : HasSteadyLines (text Finding.message) := by decide +kernel
    simp only [plainTable, tableWith, List.forall_mem_cons]
    refine ⟨?_, ?_, ?_, ?_, nofun⟩
    · exact isSteady_column (by decide +kernel) (by decide +kernel) fun _ _ => hrule
    · exact isSteady_column (by decide +kernel) (by decide +kernel) fun e he =>
        (h e he).locationLines
    · exact isSteady_column (by decide +kernel) (by decide +kernel) fun _ _ => hmessage
    · exact isSteady_column (by decide +kernel) (by decide +kernel) fun e he =>
        (h e he).suggestionLines
  title := isSteady_title
  ending := by
    have hlast : (text "Straight quotes summary").getLast? = some 'y' := by decide +kernel
    intro c hc
    obtain rfl := Option.some.inj (hlast.symm.trans hc)
    rfl
  heading := by
    -- the column of messages alone is wider than the title
    have hwidths : width (text "Straight quotes summary") ≤ measure (text Finding.message) := by
      decide +kernel
    obtain ⟨e, he⟩ := List.exists_mem_of_ne_nil _ hne
    let c : FilledColumn :=
      ⟨⟨text "Message", true, 1, 1⟩, entries.map fun _ => text Finding.message⟩
    have hc : c ∈ (plainTable entries).columns :=
      List.mem_cons_of_mem _ (List.mem_cons_of_mem _ List.mem_cons_self)
    have hmessage : text Finding.message ∈ c.texts :=
      List.mem_cons_of_mem _ (List.mem_map.mpr ⟨e, he, rfl⟩)
    have hcolumn := c.measure_add_padding_le hmessage
    have htotal := Table.natural_le_total hc
    change width (text "Straight quotes summary") ≤ _
    rw [Table.natural]
    omega
  room := hroom

theorem summary_eq {l : Linter} (hne : l.collected ≠ []) (hsize : 0 < size) :
    l.summary size = (summaryTable l.collected).map (·.lines size) := by
  have hempty : (l.collected.isEmpty || decide (size = 0)) = false := by
    rw [List.isEmpty_eq_false_iff.mpr hne, Bool.false_or, decide_eq_false_iff_not]
    omega
  rw [summary, hempty]
  cases summaryTable l.collected with
  | _ => rfl

theorem summary_of_nil {l : Linter} (hnil : l.collected = []) : l.summary size = .ok [] := by
  rw [summary, hnil]
  rfl

theorem summary_of_eq_zero {l : Linter} (hsize : size = 0) : l.summary size = .ok [] := by
  rw [summary, decide_eq_true hsize, Bool.or_true]
  rfl

/-- The summary of plain issues on a terminal on which there is room for it. -/
theorem summary_of_isPlain {l : Linter} (hne : l.collected ≠ [])
    (h : ∀ e ∈ l.collected, e.IsPlain) (hroom : (plainTable l.collected).natural ≤ size) :
    l.summary size = .ok (plainLines l.collected) := by
  have hfits := fits_plainTable hne h hroom
  have hframe : 0 < (plainTable l.collected).natural := Nat.add_pos_right _ (Nat.succ_pos _)
  rw [summary_eq hne (hframe.trans_le hroom), summaryTable_of_isPlain h, Except.map,
    Table.lines_of_fits hfits, grid_plainTable]

end Linter

/-! ## Sessions -/

namespace Session

/-- While the summary is on, the issues of all answers are collected. -/
theorem collected_of_forall {s : Session} {steps : List Step} (hcollects : s.linter.collects = true)
    (hsteps : ∀ x ∈ steps, x.summary? = none) :
    (s.run steps).1.linter.collected =
      s.linter.collected ++ (s.run steps).2.flatMap Answer.entries := by
  have hon : ∀ k, Step.summaryAfter s.linter.collects (steps.take k) = true := by
    intro k
    rw [Step.summaryAfter,
      List.filterMap_eq_nil_iff.mpr fun x hx => hsteps x (List.mem_of_mem_take hx), hcollects]
    rfl
  have hmap : ((s.run steps).2.mapIdx fun _ answer => answer.entries) =
      (s.run steps).2.map Answer.entries :=
    List.ext_getElem (by simp) fun k _ _ => by rw [List.getElem_mapIdx, List.getElem_map]
  rw [run_collected, List.flatMap_def, ← hmap]
  simp only [hon, if_true]

/-- In a session with the summary on, the summary is told by the issues of the answers, one behind
the other. It can be printed exactly if the location of each of them can be shown as a styled text,
whatever the suggestions are. Its rows are those of the issues, in their order, and on a terminal on
which there is room for the table all texts of plain issues stand in it as they are. -/
theorem summary_shows_entries {options : Config.Value} {level : Level} {s : Session}
    (hstart : start options level true = .ok s) {steps : List Step}
    (hsteps : ∀ x ∈ steps, x.summary? = none) :
    let l := (s.run steps).1.linter
    let entries := (s.run steps).2.flatMap Answer.entries
    l.collected = entries ∧
    (entries = [] → ∀ size, l.summary size = .ok []) ∧
    (entries ≠ [] → ∀ size, 0 < size →
      ((∃ lines, l.summary size = .ok lines) ↔
        ∀ e ∈ entries, ∃ shown, Styled.shown e.location = .ok shown) ∧
      ∀ location, (∀ e ∈ entries, Styled.shown e.location = .ok (location e)) →
        l.summary size = .ok ((Linter.tableWith location
          (fun e => (Part.ofText e.quoted).flatMap Styled.spelled) entries).lines size)) ∧
    (entries ≠ [] → (∀ e ∈ entries, e.IsPlain) →
      ∀ size, (Linter.plainTable entries).natural ≤ size →
        l.summary size = .ok (Linter.plainLines entries)) := by
  intro l entries
  have hcollected : l.collected = entries := by
    unfold start at hstart
    cases hmarks : Config.marksOf options with
    | error e =>
      rw [hmarks] at hstart
      cases hstart
    | ok marks =>
      rw [hmarks] at hstart
      cases hstart
      exact collected_of_forall rfl hsteps
  refine ⟨hcollected, fun hnil size => ?_, fun hne size hsize => ⟨?_, ?_⟩,
    fun hne hplain size => ?_⟩
  · exact Linter.summary_of_nil (hcollected.trans hnil)
  · rw [Linter.summary_eq (hcollected.trans_ne hne) hsize, hcollected,
      ← Linter.exists_summaryTable_iff]
    cases Linter.summaryTable entries with
    | error f => exact iff_of_false nofun nofun
    | ok t => exact iff_of_true ⟨_, rfl⟩ ⟨t, rfl⟩
  · intro location hlocation
    rw [Linter.summary_eq (hcollected.trans_ne hne) hsize, hcollected,
      Linter.summaryTable_eq hlocation fun e _ => e.shown_suggestion]
    rfl
  · rw [← hcollected] at hne hplain ⊢
    exact Linter.summary_of_isPlain hne hplain

/-- Brackets that are no tag in a path, and tags in a suggestion: the summary shows all of it. A
document that cannot be parsed has no row. -/
theorem summary_shows_entries_of_brackets :
    let s : Session := ⟨{ marks := {}, collects := true }, .null⟩
    let steps : List Step :=
      [.inspect .lint "script" (text "[0].js") (text "a = '[b]\"c[/b]';"),
        .inspect .fix "script" (text "b.js") (text "b = (;"),
        .inspect .lint "script" (text "c.js") (text "c = '\"d';")]
    let entries : List Entry := [⟨text "[0].js", ⟨1, 5, some (text "'[b]“c[/b]'")⟩⟩,
      ⟨text "c.js", ⟨1, 5, some (text "'“d'")⟩⟩]
    (s.run steps).1.linter.collected = entries ∧
      (s.run steps).1.linter.summary 100 = .ok (Linter.plainLines entries) := by
  intro s steps entries
  have hstart : start .null .fix true = .ok s := by rfl
  have hentries : (s.run steps).2.flatMap Answer.entries = entries := by decide +kernel
  have hplain : ∀ e ∈ entries, e.IsPlain := by decide +kernel
  have hroom : (Linter.plainTable entries).natural ≤ 100 := by decide +kernel
  have hsteps : ∀ x ∈ steps, x.summary? = none := by
    simp only [steps, List.forall_mem_cons]
    exact ⟨rfl, rfl, rfl, nofun⟩
  obtain ⟨hcollected, -, -, hsummary⟩ := summary_shows_entries hstart hsteps
  rw [hentries] at hcollected hsummary
  exact ⟨hcollected, hsummary (List.cons_ne_nil _ _) hplain 100 hroom⟩

/-- Paths with a part in brackets that is taken for a tag: of the first one the part is not shown,
though there is room for it, and with the second one there is no summary at all. -/
theorem summary_not_shows_brackets :
    let s : Session := ⟨{ marks := {}, collects := true }, .null⟩
    let linted (path : Text) : Linter :=
      (s.run [.inspect .lint "script" path (text "a = '\"b';")]).1.linter
    (linted (text "[id].js")).collected = [⟨text "[id].js", ⟨1, 5, some (text "'“b'")⟩⟩] ∧
      ((linted (text "[id].js")).summary 100).map (·.any (Text.occursIn (text "id"))) = .ok false ∧
      ((linted (text "[id].js")).summary 100).map (·.any (Text.occursIn (text "│ .js:1:5 "))) =
        .ok true ∧
      (linted (text "[/id].js")).summary 100 = .error (.unmatched (text "/id") 0) := by
  intro s linted
  let e : Entry := ⟨text "[id].js", ⟨1, 5, some (text "'“b'")⟩⟩
  let e' : Entry := ⟨text "[/id].js", ⟨1, 5, some (text "'“b'")⟩⟩
  have hcollected : (linted (text "[id].js")).collected = [e] := by decide +kernel
  have hcollected' : (linted (text "[/id].js")).collected = [e'] := by decide +kernel
  have hword : Style.IsWord (text "id") :=
    ⟨by decide +kernel, by decide +kernel, by decide +kernel, by decide +kernel, by decide +kernel,
      by decide +kernel⟩
  have hopened : Styled.shown e.location = .ok (text ".js:1:5") := by
    rw [show e.location = Part.brackets (text "id") ++ text ".js:1:5" by decide +kernel,
      Styled.shown_opened hword ⟨'i', ['d'], by decide +kernel⟩ (by decide +kernel)
        (by decide +kernel) (by decide +kernel) (by decide +kernel)]
    exact congrArg Except.ok (by decide +kernel)
  have hclosed : Styled.shown e'.location = .error (.unmatched (text "/id") 0) := by
    rw [show e'.location = Part.brackets ('/' :: text "id") ++ text ".js:1:5" by decide +kernel,
      show text "/id" = '/' :: text "id" by decide +kernel]
    exact Styled.shown_closed hword (by decide +kernel) (by decide +kernel)
  let location : Entry → Text := fun _ => text ".js:1:5"
  have hlocation : ∀ x ∈ [e], Styled.shown x.location = .ok (location x) :=
    List.forall_mem_singleton.mpr hopened
  have htable : (linted (text "[id].js")).summary 100 = .ok ((Linter.tableWith location
      (fun e => (Part.ofText e.quoted).flatMap Styled.spelled) [e]).lines 100) := by
    rw [Linter.summary_eq (hcollected.trans_ne (List.cons_ne_nil _ _)) (by decide), hcollected,
      Linter.summaryTable_eq hlocation fun e _ => e.shown_suggestion]
    rfl
  have hnone : (linted (text "[/id].js")).summary 100 = .error (.unmatched (text "/id") 0) := by
    rw [Linter.summary_eq (hcollected'.trans_ne (List.cons_ne_nil _ _)) (by decide), hcollected',
      Linter.summaryTable_of_error hclosed]
    rfl
  rw [htable]
  exact ⟨hcollected, by decide +kernel, by decide +kernel, hnone⟩

end Session

end SmartQuotes
