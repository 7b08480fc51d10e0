import SmartQuotes.Command.Source
import SmartQuotes.Proofs.FileTree
import SmartQuotes.Proofs.Text.Order

/-!
# Which sources are collected

The sources that paths stand for depend on where files and directories are, and not on what the files
hold. Each source is a file, and its language is told by the name of this file, so that one file has
one language however it is named.
-/

namespace SmartQuotes

namespace Language

/-- The language of a path is that of its name. -/
theorem ofPath?_congr {p q : Path} (h : p.name = q.name) : ofPath? p = ofPath? q := by
  rw [ofPath?, ofPath?, Path.suffix, Path.suffix, h]

/-- A name without an ending has no language. -/
theorem ofPath?_eq_none {p : Path} (h : Path.suffixOf p.name = []) : ofPath? p = none := by
  rw [ofPath?, Path.suffix, h]
  rfl

/-- A path with a language has a last part, and this does not name a parent. -/
theorem exists_of_ofPath? {p : Path} {l : Language} (h : ofPath? p = some l) :
    ∃ n, p.parts.getLast? = some n ∧ n ≠ ['.', '.'] := by
  cases hlast : p.parts.getLast? with
  | none =>
    rw [ofPath?_eq_none (by rw [Path.name, hlast]; rfl)] at h
    cases h
  | some n =>
    refine ⟨n, rfl, ?_⟩
    rintro rfl
    rw [ofPath?_eq_none (by rw [Path.name, hlast]; rfl)] at h
    cases h

end Language

/-- A path whose last part does not name a parent leads to a place of this name. -/
theorem FileTree.getLast?_of_walk {t : FileTree} {l place : Location} {parts : List Text} {n : Text}
    (h : t.walk l parts = some place) (hlast : parts.getLast? = some n) (hn : n ≠ ['.', '.']) :
    place.getLast? = some n := by
  induction parts generalizing l with
  | nil => cases hlast
  | cons p rest ih =>
    rw [walk] at h
    split at h
    · cases h
    · cases rest with
      | nil =>
        obtain rfl : p = n := Option.some.inj hlast
        rw [if_neg hn, walk] at h
        cases h
        exact List.getLast?_concat
      | cons q rest =>
        rw [List.getLast?_cons_cons] at hlast
        split at h
        · exact ih h hlast
        · exact ih h hlast

namespace Command

theorem mem_distinct {α : Type} [DecidableEq α] {x : α} {l : List α} : x ∈ distinct l ↔ x ∈ l := by
  induction l with
  | nil => exact Iff.rfl
  | cons y l ih =>
    rw [distinct, List.mem_cons, ← ih]
    split
    · next hy =>
      constructor
      · exact Or.inr
      · rintro (rfl | h)
        · exact ih.mpr hy
        · exact h
    · exact List.mem_cons

namespace Source

/-- The source is a file of the tree, and its language is that of the name of the file. -/
structure Stands (tree : FileTree) (s : Source) : Prop where
  isFile : tree.isFile s.place = true
  language : Language.ofPath? ⟨[], s.place⟩ = some s.language

variable {tree : FileTree} {suffixes : List Text}

theorem ofPath?_spec {path : Path} {place : Location} {s : Source}
    (h : ofPath? suffixes path place = some s) :
    s.place = place ∧ Language.ofPath? path = some s.language := by
  unfold ofPath? at h
  split at h
  · obtain ⟨language, hlanguage, rfl⟩ := Option.map_eq_some_iff.mp h
    exact ⟨rfl, hlanguage⟩
  · cases h

theorem stands_of_ofPath? {path : Path} {place : Location} {s : Source}
    (h : ofPath? suffixes path place = some s) (hfile : tree.isFile place = true)
    (hname : ∀ n, path.parts.getLast? = some n → n ≠ ['.', '.'] → place.getLast? = some n) :
    s.Stands tree := by
  obtain ⟨rfl, hlanguage⟩ := ofPath?_spec h
  refine ⟨hfile, ?_⟩
  obtain ⟨n, hlast, hn⟩ := Language.exists_of_ofPath? hlanguage
  rw [← hlanguage]
  refine Language.ofPath?_congr ?_
  rw [Path.name, Path.name, hlast, hname n hlast hn]

theorem getLast?_of_locate? {path : Path} {place : Location} (h : tree.locate? path = some place)
    {n : Text} (hlast : path.parts.getLast? = some n) (hn : n ≠ ['.', '.']) :
    place.getLast? = some n := by
  rw [FileTree.locate?, Option.filter_eq_some_iff] at h
  obtain ⟨h, -⟩ := h
  split at h
  · exact FileTree.getLast?_of_walk h hlast hn
  · split at h
    · exact FileTree.getLast?_of_walk h hlast hn
    · cases h

theorem stands_of_below? {directory : Path} {place : Location} {names : List Text} {s : Source}
    (h : below? suffixes directory place names = some s) (hnames : names ≠ [])
    (hfile : tree.isFile (place ++ names) = true) : s.Stands tree := by
  unfold below? at h
  split at h
  · cases h
  · refine stands_of_ofPath? h hfile fun n hlast _ => ?_
    rw [List.getLast?_append_of_ne_nil _ hnames] at hlast ⊢
    exact hlast

theorem stands_of_named? {path : Path} {sources : List Source}
    (h : named? tree suffixes path = some sources) : ∀ s ∈ sources, s.Stands tree := by
  intro s hs
  obtain ⟨place, hplace, h⟩ := Option.bind_eq_some_iff.mp h
  split at h
  · next hfile =>
    cases h
    exact stands_of_ofPath? (Option.mem_toList.mp hs) hfile fun n => getLast?_of_locate? hplace
  · cases h
    obtain ⟨names, hnames, hs⟩ := List.mem_filterMap.mp hs
    obtain ⟨f, hf, rfl⟩ := List.mem_map.mp hnames
    obtain ⟨hf, hbelow⟩ := List.mem_filter.mp hf
    rw [FileTree.isBelow, Bool.and_eq_true, decide_eq_true_eq] at hbelow
    obtain ⟨names, hnames⟩ := List.isPrefixOf_iff_prefix.mp hbelow.1
    rw [← hnames, List.drop_left] at hs
    refine stands_of_below? hs ?_ ?_
    · rintro rfl
      rw [List.append_nil] at hnames
      rw [hnames] at hbelow
      exact absurd hbelow.2 (Nat.lt_irrefl _)
    · rw [hnames, FileTree.isFile, FileTree.content?, List.lookup_isSome_iff]
      exact ⟨f, hf, beq_self_eq_true _⟩

theorem stands_of_ofPaths {paths : List Path} {sources : List Source}
    (h : ofPaths tree suffixes paths = .ok sources) : ∀ s ∈ sources, s.Stands tree := by
  induction paths generalizing sources with
  | nil =>
    cases h
    exact nofun
  | cons p ps ih =>
    rw [ofPaths] at h
    split at h
    · cases h
    · next first hfirst =>
      cases hrest : ofPaths tree suffixes ps with
      | error e =>
        rw [hrest] at h
        cases h
      | ok more =>
        rw [hrest] at h
        cases h
        intro s hs
        rcases List.mem_append.mp hs with hs | hs
        · exact stands_of_named? hfirst s hs
        · exact ih hrest s hs

/-- The collected sources are those that the paths stand for, in order. -/
theorem exists_of_collect {paths : List Path} {sources : List Source}
    (h : collect tree suffixes paths = .ok sources) :
    ∃ found, ofPaths tree (suffixes.map Text.lower) paths = .ok found ∧
      sources = sortBy (fun a b => a.path.le b.path) (distinct found) := by
  rw [collect] at h
  cases hfound : ofPaths tree (suffixes.map Text.lower) paths with
  | error e =>
    rw [hfound] at h
    cases h
  | ok found =>
    rw [hfound] at h
    cases h
    exact ⟨found, rfl, rfl⟩

/-- The collected sources are files whose names tell their languages. -/
theorem stands_of_collect {paths : List Path} {sources : List Source}
    (h : collect tree suffixes paths = .ok sources) : ∀ s ∈ sources, s.Stands tree := by
  obtain ⟨found, hfound, rfl⟩ := exists_of_collect h
  intro s hs
  exact stands_of_ofPaths hfound s (mem_distinct.mp (mem_sortBy.mp hs))

/-! ## Whether there is something at every path -/

theorem named?_eq_none_iff {path : Path} :
    named? tree suffixes path = none ↔ tree.locate? path = none := by
  rw [named?]
  cases tree.locate? path with
  | none => exact ⟨fun _ => rfl, fun _ => rfl⟩
  | some place =>
    refine ⟨fun h => ?_, nofun⟩
    change (if tree.isFile place then some (ofPath? suffixes path place).toList
      else some ((tree.below place).filterMap (below? suffixes path place))) = none at h
    split at h
    · cases h
    · cases h

theorem exists_ofPaths_iff (suffixes : List Text) {paths : List Path} :
    (∃ sources, ofPaths tree suffixes paths = .ok sources) ↔
      ∀ p ∈ paths, tree.locate? p ≠ none := by
  induction paths with
  | nil => exact ⟨fun _ => nofun, fun _ => ⟨[], rfl⟩⟩
  | cons p ps ih =>
    rw [List.forall_mem_cons, ← ih, ofPaths]
    cases hnamed : named? tree suffixes p with
    | none => exact ⟨nofun, fun h => absurd (named?_eq_none_iff.mp hnamed) h.1⟩
    | some first =>
      have hlocate : tree.locate? p ≠ none := fun h => by
        rw [named?_eq_none_iff.mpr h] at hnamed
        cases hnamed
      cases hrest : ofPaths tree suffixes ps with
      | error e => exact ⟨nofun, fun ⟨_, _, h⟩ => by cases h⟩
      | ok more => exact ⟨fun _ => ⟨hlocate, more, rfl⟩, fun _ => ⟨first ++ more, rfl⟩⟩

/-- The sources are collected exactly if there is something at every path, wherever it stands. -/
theorem exists_collect_iff (suffixes : List Text) {paths : List Path} :
    (∃ sources, collect tree suffixes paths = .ok sources) ↔
      ∀ p ∈ paths, tree.locate? p ≠ none := by
  rw [← exists_ofPaths_iff (suffixes.map Text.lower), collect]
  cases ofPaths tree (suffixes.map Text.lower) paths with
  | error e => exact ⟨nofun, nofun⟩
  | ok found => exact ⟨fun _ => ⟨found, rfl⟩, fun _ => ⟨_, rfl⟩⟩

/-- Sources at one place are in one language. -/
theorem Stands.language_eq {s s' : Source} (h : s.Stands tree) (h' : s'.Stands tree)
    (hplace : s.place = s'.place) : s.language = s'.language := by
  have hlanguage := h.language
  rw [hplace, h'.language] at hlanguage
  exact (Option.some.inj hlanguage).symm

/-! ## Trees of the same shape -/

variable {tree' : FileTree}

theorem named?_eq (h : tree.SameShape tree') (suffixes : List Text) (path : Path) :
    named? tree suffixes path = named? tree' suffixes path := by
  simp only [named?, h.locate?_eq, h.isFile_eq, h.below_eq]

theorem ofPaths_eq (h : tree.SameShape tree') (suffixes : List Text) (paths : List Path) :
    ofPaths tree suffixes paths = ofPaths tree' suffixes paths := by
  induction paths with
  | nil => rfl
  | cons p ps ih => rw [ofPaths, ofPaths, named?_eq h, ih]

/-- What is collected does not depend on what the files hold. -/
theorem collect_eq (h : tree.SameShape tree') (suffixes : List Text) (paths : List Path) :
    collect tree suffixes paths = collect tree' suffixes paths := by
  rw [collect, collect, ofPaths_eq h]

theorem Stands.of_sameShape {s : Source} (hs : s.Stands tree) (h : tree.SameShape tree') :
    s.Stands tree' := ⟨(h.isFile_eq s.place).symm.trans hs.isFile, hs.language⟩

end Source

end Command

end SmartQuotes
