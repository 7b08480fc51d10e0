import SmartQuotes.Proofs.Command.Fix
import SmartQuotes.Proofs.Command.Source

/-!
# Each source is listed once under each spelling

A path leads to a file if it names the file, or a directory below which the file lies with no
directory between them that is passed over. The sources that are collected are the supported files
to which the paths lead, and nothing else. They are told apart by the path under which they were
found, so that a file to which paths of different spellings lead is listed as often as it is spelled
(`collect_lists_sources`). Paths without parts that name a parent, all of them relative or all from
one root, spell each file in one way.
-/

namespace SmartQuotes

namespace FileTree

variable {t : FileTree}

/-- Parts that do not name a parent lead straight down. -/
theorem walk_of_not_mem {l place : Location} {parts : List Text} (hparts : ['.', '.'] ∉ parts)
    (h : t.walk l parts = some place) : place = l ++ parts := by
  induction parts generalizing l with
  | nil =>
    cases h
    exact (List.append_nil _).symm
  | cons p rest ih =>
    rw [List.mem_cons, not_or] at hparts
    rw [walk, if_neg (Ne.symm hparts.1)] at h
    split at h
    · cases h
    · rw [ih hparts.2 h, List.append_assoc, List.singleton_append]

/-- The place from which a path leads: the working directory, or the top. -/
def origin (t : FileTree) (root : Text) : Location := if root.isEmpty then t.current else []

theorem locate?_of_not_mem {p : Path} {place : Location} (hparts : ['.', '.'] ∉ p.parts)
    (h : t.locate? p = some place) : place = t.origin p.root ++ p.parts := by
  rw [locate?, Option.filter_eq_some_iff] at h
  obtain ⟨h, -⟩ := h
  rw [origin]
  split at h
  · next hroot => rw [if_pos hroot, walk_of_not_mem hparts h]
  · next hroot =>
    rw [if_neg hroot]
    split at h
    · exact walk_of_not_mem hparts h
    · cases h

end FileTree

namespace Path

/-- The path of what lies below a path under the given names. -/
def below (p : Path) (names : List Text) : Path := ⟨p.root, p.parts ++ names⟩

/-- The path starts at the given root, and none of its parts names a parent. -/
def IsPlain (root : Text) (p : Path) : Prop := p.root = root ∧ ['.', '.'] ∉ p.parts

instance (root : Text) (p : Path) : Decidable (p.IsPlain root) :=
  inferInstanceAs (Decidable (p.root = root ∧ ['.', '.'] ∉ p.parts))

end Path

namespace Command

theorem nodup_distinct {α : Type} [DecidableEq α] (l : List α) : (distinct l).Nodup := by
  induction l with
  | nil => exact List.nodup_nil
  | cons x l ih =>
    rw [distinct]
    split
    · exact ih
    · next hx => exact List.nodup_cons.mpr ⟨fun h => hx (mem_distinct.mp h), ih⟩

namespace Source

variable {tree : FileTree} {suffixes : List Text} {paths : List Path} {sources : List Source}

/-- The path leads to the file: it names the file, or a directory in which the file lies under the
given names, with no directory between them that is passed over. -/
def Leads (tree : FileTree) (p : Path) (names : List Text) (l : Location) : Prop :=
  tree.isFile l = true ∧ ∃ place, tree.locate? p = some place ∧ l = place ++ names ∧
    (names = [] ∨ tree.isFile place = false ∧ ∀ d ∈ names.dropLast, isSkipped d = false)

/-- The suffix of the path is one of those given, in either case of letters, and stands for the
language. -/
def Supports (suffixes : List Text) (p : Path) (language : Language) : Prop :=
  p.suffix.lower ∈ suffixes.map Text.lower ∧ Language.ofPath? p = some language

/-- The source is a supported file to which the path leads. -/
def IsFound (tree : FileTree) (suffixes : List Text) (p : Path) (s : Source) : Prop :=
  ∃ names, Leads tree p names s.place ∧ s.path = p.below names ∧
    Supports suffixes s.path s.language

theorem ofPath?_eq_some_iff {path : Path} {place : Location} {s : Source} :
    ofPath? (suffixes.map Text.lower) path place = some s ↔
      Supports suffixes path s.language ∧ s.path = path ∧ s.place = place := by
  rw [ofPath?, Option.ite_none_right_eq_some, List.contains_iff_mem, Option.map_eq_some_iff,
    Supports, and_assoc]
  refine and_congr_right fun _ => ⟨?_, ?_⟩
  · rintro ⟨language, hlanguage, rfl⟩
    exact ⟨hlanguage, rfl, rfl⟩
  · rintro ⟨hlanguage, rfl, rfl⟩
    exact ⟨s.language, hlanguage, rfl⟩

theorem below?_eq_some_iff {directory : Path} {place : Location} {names : List Text} {s : Source} :
    below? (suffixes.map Text.lower) directory place names = some s ↔
      (∀ d ∈ names.dropLast, isSkipped d = false) ∧
        Supports suffixes (directory.below names) s.language ∧ s.path = directory.below names ∧
          s.place = place ++ names := by
  rw [below?, Option.ite_none_left_eq_some, Bool.not_eq_true, List.any_eq_false,
    ofPath?_eq_some_iff]
  simp only [Bool.not_eq_true]
  rfl

/-- The sources that a path stands for are those that it finds. -/
theorem mem_named? {p : Path} {found : List Source}
    (h : named? tree (suffixes.map Text.lower) p = some found) {s : Source} :
    s ∈ found ↔ s.IsFound tree suffixes p := by
  obtain ⟨place, hplace, h⟩ := Option.bind_eq_some_iff.mp h
  have hleads : ∀ names, Leads tree p names s.place ↔ tree.isFile s.place = true ∧
      s.place = place ++ names ∧
        (names = [] ∨ tree.isFile place = false ∧ ∀ d ∈ names.dropLast, isSkipped d = false) := by
    intro names
    rw [Leads, hplace]
    simp only [Option.some.injEq, exists_eq_left']
  simp only [IsFound, hleads]
  split at h
  · next hfile =>
    cases h
    rw [Option.mem_toList, ofPath?_eq_some_iff]
    constructor
    · rintro ⟨hsupports, hpath, hs⟩
      refine ⟨[], ⟨hs ▸ hfile, ?_, Or.inl rfl⟩, ?_, hpath ▸ hsupports⟩
      · rw [hs, List.append_nil]
      · rw [hpath, Path.below, List.append_nil]
    · rintro ⟨names, ⟨-, hs, hnames⟩, hpath, hsupports⟩
      obtain rfl := hnames.resolve_right fun hdir => by simp [hdir.1] at hfile
      rw [List.append_nil] at hs
      replace hpath : s.path = p := by rw [hpath, Path.below, List.append_nil]
      exact ⟨hpath ▸ hsupports, hpath, hs⟩
  · next hfile =>
    rw [Bool.not_eq_true] at hfile
    cases h
    simp only [List.mem_filterMap, FileTree.mem_below, below?_eq_some_iff]
    constructor
    · rintro ⟨names, ⟨-, hnames⟩, hskipped, hsupports, hpath, hs⟩
      exact ⟨names, ⟨hs ▸ hnames, hs, Or.inr ⟨hfile, hskipped⟩⟩, hpath, hpath ▸ hsupports⟩
    · rintro ⟨names, ⟨hisFile, hs, hnames⟩, hpath, hsupports⟩
      have hne : names ≠ [] := by
        rintro rfl
        rw [hs, List.append_nil, hfile] at hisFile
        cases hisFile
      exact ⟨names, ⟨hne, hs ▸ hisFile⟩, (hnames.resolve_left hne).2, hpath ▸ hsupports, hpath, hs⟩

/-- The sources that paths stand for are those that one of them finds. -/
theorem mem_ofPaths (h : ofPaths tree (suffixes.map Text.lower) paths = .ok sources) {s : Source} :
    s ∈ sources ↔ ∃ p ∈ paths, s.IsFound tree suffixes p := by
  induction paths generalizing sources with
  | nil =>
    cases h
    simp
  | cons p ps ih =>
    rw [ofPaths] at h
    split at h
    · cases h
    · next first hfirst =>
      cases hrest : ofPaths tree (suffixes.map Text.lower) ps with
      | error e =>
        rw [hrest] at h
        cases h
      | ok more =>
        rw [hrest] at h
        cases h
        rw [List.mem_append, mem_named? hfirst, ih hrest, List.exists_mem_cons_iff]

theorem mem_collect (h : collect tree suffixes paths = .ok sources) {s : Source} :
    s ∈ sources ↔ ∃ p ∈ paths, s.IsFound tree suffixes p := by
  obtain ⟨found, hfound, rfl⟩ := exists_of_collect h
  rw [mem_sortBy, mem_distinct, mem_ofPaths hfound]

theorem nodup_collect (h : collect tree suffixes paths = .ok sources) : sources.Nodup := by
  obtain ⟨found, -, rfl⟩ := exists_of_collect h
  exact (perm_sortBy _ _).nodup_iff.mpr (nodup_distinct found)

/-! ## Files that are listed more than once -/

/-- Sources that paths find at one place are the same if the place is spelled in one way. -/
theorem nodup_place_iff (h : collect tree suffixes paths = .ok sources) :
    (sources.map Source.place).Nodup ↔
      ∀ p ∈ paths, ∀ q ∈ paths, ∀ s s' : Source, s.IsFound tree suffixes p →
        s'.IsFound tree suffixes q → s.place = s'.place → s.path = s'.path := by
  rw [List.nodup_map_iff_inj_on (nodup_collect h)]
  constructor
  · intro hinj p hp q hq s s' hs hs' hplace
    rw [hinj s ((mem_collect h).mpr ⟨p, hp, hs⟩) s' ((mem_collect h).mpr ⟨q, hq, hs'⟩) hplace]
  · intro hspelled s hs s' hs' hplace
    obtain ⟨p, hp, hfound⟩ := (mem_collect h).mp hs
    obtain ⟨q, hq, hfound'⟩ := (mem_collect h).mp hs'
    have hpath := hspelled p hp q hq s s' hfound hfound' hplace
    have hlanguage :=
      (stands_of_collect h s hs).language_eq (stands_of_collect h s' hs') hplace
    cases s
    cases s'
    simp only at hpath hlanguage hplace
    rw [hpath, hlanguage, hplace]

/-- A path without parts that name a parent spells a file by the names that lead to it. -/
theorem IsFound.place_eq {p : Path} {s : Source} (h : s.IsFound tree suffixes p)
    (hparts : ['.', '.'] ∉ p.parts) :
    s.path.root = p.root ∧ s.place = tree.origin p.root ++ s.path.parts := by
  obtain ⟨names, ⟨-, place, hplace, hs, -⟩, hpath, -⟩ := h
  rw [hs, hpath, FileTree.locate?_of_not_mem hparts hplace, List.append_assoc]
  exact ⟨rfl, rfl⟩

theorem path_eq_of_isPlain {root : Text} {p q : Path} (hp : p.IsPlain root) (hq : q.IsPlain root)
    {s s' : Source} (hs : s.IsFound tree suffixes p) (hs' : s'.IsFound tree suffixes q)
    (hplace : s.place = s'.place) : s.path = s'.path := by
  obtain ⟨hroot, hs⟩ := hs.place_eq hp.2
  obtain ⟨hroot', hs'⟩ := hs'.place_eq hq.2
  rw [hp.1] at hroot hs
  rw [hq.1] at hroot' hs'
  have hparts := List.append_cancel_left (hs.symm.trans (hplace.trans hs'))
  cases hpath : s.path
  cases hpath' : s'.path
  simp only [hpath, hpath'] at hroot hroot' hparts
  rw [hroot, hroot', hparts]

/-- Paths that are plain from one root list each file once. -/
theorem nodup_place_of_isPlain (h : collect tree suffixes paths = .ok sources) {root : Text}
    (hplain : ∀ p ∈ paths, p.IsPlain root) : (sources.map Source.place).Nodup :=
  (nodup_place_iff h).mpr fun p hp q hq _ _ hs hs' hplace =>
    path_eq_of_isPlain (hplain p hp) (hplain q hq) hs hs' hplace

end Source

/-! ## The commands -/

variable {tree : FileTree} {columns : Nat} {verbose : Bool} {config : Option Path}
  {settings : Config.Settings} {paths : List Path} {sources : List Source}

theorem perform_check_of_collect (hload : (Config.load tree config).2 = .ok settings)
    (hcollect : Source.collect tree settings.extensions paths = .ok sources) (summary : Bool) :
    perform tree columns verbose (.check paths config summary) =
      (finishCheck tree columns summary
        (checkSources tree verbose (linterOf settings summary) sources)).after
          (Printed.notes verbose (Config.load tree config).1) := by
  rw [perform, withSettings_of_load hload, withSources, hcollect]

theorem perform_fix_of_collect (hload : (Config.load tree config).2 = .ok settings)
    (hcollect : Source.collect tree settings.extensions paths = .ok sources) :
    perform tree columns verbose (.fix paths config) =
      (finishFix (fixSources tree verbose (linterOf settings false) sources)).after
        (Printed.notes verbose (Config.load tree config).1) := by
  rw [perform, withSettings_of_load hload, withSources, hcollect]

/-- If there is something at every path, then the sources that are handled are the supported files
to which a path leads, each of them once under each spelling. Each file is handled once exactly if
no two paths lead to one file under different spellings; that is so for paths without parts that
name a parent, if all of them are relative or start at one root. -/
theorem collect_lists_sources (tree : FileTree) (columns : Nat) (verbose : Bool)
    {paths : List Path} {config : Option Path} {settings : Config.Settings}
    (hload : (Config.load tree config).2 = .ok settings)
    (hpaths : ∀ p ∈ paths, tree.locate? p ≠ none) :
    ∃ sources, Source.collect tree settings.extensions paths = .ok sources ∧
      (∀ summary, perform tree columns verbose (.check paths config summary) =
        (finishCheck tree columns summary
          (checkSources tree verbose (linterOf settings summary) sources)).after
            (Printed.notes verbose (Config.load tree config).1)) ∧
      perform tree columns verbose (.fix paths config) =
        (finishFix (fixSources tree verbose (linterOf settings false) sources)).after
          (Printed.notes verbose (Config.load tree config).1) ∧
      (∀ s, s ∈ sources ↔ ∃ p ∈ paths, s.IsFound tree settings.extensions p) ∧
      sources.Nodup ∧
      ((sources.map Source.place).Nodup ↔
        ∀ p ∈ paths, ∀ q ∈ paths, ∀ s s' : Source, s.IsFound tree settings.extensions p →
          s'.IsFound tree settings.extensions q → s.place = s'.place → s.path = s'.path) ∧
      ((∃ root, ∀ p ∈ paths, p.IsPlain root) → (sources.map Source.place).Nodup) := by
  obtain ⟨sources, hcollect⟩ := (Source.exists_collect_iff settings.extensions).mpr hpaths
  exact ⟨sources, hcollect, perform_check_of_collect hload hcollect,
    perform_fix_of_collect hload hcollect, fun s => Source.mem_collect hcollect,
    Source.nodup_collect hcollect, Source.nodup_place_iff hcollect,
    fun ⟨_, hplain⟩ => Source.nodup_place_of_isPlain hcollect hplain⟩

/-- A directory, one in it, a file below both, and a hidden directory: each file is handled once.
What lies in the hidden directory is handled since this is named. -/
theorem collect_lists_sources_of_nested :
    let tree : FileTree :=
      { top := [], current := [text "home"], directories := []
        files := [([text "home", text "src", text "lib", text "A.JS"], .text (text "a = '\"';")),
          ([text "home", text "src", text ".git", text "b.js"], .text (text "b = '\"';")),
          ([text "home", text "src", text "c.txt"], .text [])] }
    let extensions := Language.scriptSuffixes ++ Language.componentSuffixes
    let paths := [text "src", text "src/lib", text "src/lib/A.JS", text "src/.git"].map Path.ofText
    let a : Source := ⟨Path.ofText (text "src/lib/A.JS"), .script,
      [text "home", text "src", text "lib", text "A.JS"]⟩
    let b : Source := ⟨Path.ofText (text "src/.git/b.js"), .script,
      [text "home", text "src", text ".git", text "b.js"]⟩
    (∀ p ∈ paths, tree.locate? p ≠ none) ∧ (∀ p ∈ paths, p.IsPlain []) ∧
      Source.collect tree extensions paths = .ok [b, a] ∧
      (∃ p ∈ paths, b.IsFound tree extensions p) ∧ ([b, a].map Source.place).Nodup := by
  intro tree extensions paths a b
  have hload : (Config.load tree none).2 = .ok ⟨.fix, extensions, [], false, {}⟩ := rfl
  have hpaths : ∀ p ∈ paths, tree.locate? p ≠ none := by decide +kernel
  have hplain : ∀ p ∈ paths, p.IsPlain [] := by decide +kernel
  have hfound : Source.collect tree extensions paths = .ok [b, a] := by decide +kernel
  obtain ⟨sources, hcollect, -, -, hmem, -, -, honce⟩ :=
    collect_lists_sources tree 100 false hload hpaths
  cases hfound.symm.trans hcollect
  exact ⟨hpaths, hplain, hfound, (hmem b).mp List.mem_cons_self, honce ⟨[], hplain⟩⟩

/-- A file that is named twice, once with a way up and down again: it is listed twice, and `check`
reports its issue twice in the same words. -/
theorem collect_lists_file_twice :
    let tree : FileTree :=
      { top := [], current := [text "home"], directories := []
        files := [([text "home", text "src", text "a.js"],
          .text (text "var a = 'say \"hi\"';\n"))] }
    let paths := [text "src/a.js", text "src/../src/a.js"].map Path.ofText
    let issue := text "src/a.js:\n" ++
      text "  - [no-straight-quotes] 1:9: Prefer the use of curly quotes → «'say “hi”'»\n"
    (∀ p ∈ paths, tree.locate? p ≠ none) ∧
      (∃ sources, Source.collect tree (Language.scriptSuffixes ++ Language.componentSuffixes)
          paths = .ok sources ∧
        sources.map Source.place =
          [[text "home", text "src", text "a.js"], [text "home", text "src", text "a.js"]]) ∧
      (perform tree 100 false (.check paths none false)).output = issue ++ issue := by
  intro tree paths issue
  let place : Location := [text "home", text "src", text "a.js"]
  have hfound : Source.collect tree (Language.scriptSuffixes ++ Language.componentSuffixes) paths =
      .ok [⟨Path.ofText (text "src/../src/a.js"), .script, place⟩,
        ⟨Path.ofText (text "src/a.js"), .script, place⟩] := by decide +kernel
  exact ⟨by decide +kernel, ⟨_, hfound, rfl⟩, by decide +kernel⟩

end Command

end SmartQuotes
