import SmartQuotes.FileTree
import SmartQuotes.Proofs.Text.Utf8

/-!
# Writing files

Writing a file changes what this file holds and nothing else: the same places are files and
directories, so that every path leads where it has led. A text without carriage returns is read as
it was written.
-/

namespace SmartQuotes

namespace Text

theorem return_not_mem_unifyLines (t : Text) : '\r' ∉ t.unifyLines := by
  fun_induction unifyLines t with
  | case1 => exact List.not_mem_nil
  | case2 t ih =>
    intro h
    rcases List.mem_cons.mp h with h | h
    · exact absurd h (by decide)
    · exact ih h
  | case3 c t _ ih =>
    intro h
    rcases List.mem_cons.mp h with h | h
    · split at h
      · exact absurd h (by decide)
      · next hc => exact hc h.symm
    · exact ih h

theorem unifyLines_of_return_not_mem {t : Text} (h : '\r' ∉ t) : t.unifyLines = t := by
  fun_induction unifyLines t with
  | case1 => rfl
  | case2 t _ => exact absurd List.mem_cons_self h
  | case3 c t _ ih =>
    rw [List.mem_cons, not_or] at h
    rw [if_neg (Ne.symm h.1), ih h.2]

end Text

namespace Content

/-- The content as it is read after it has been written. -/
def reread : Content → Content
  | text t => ofBytes (Utf8.encode t)
  | malformed f => malformed f

theorem ofBytes_encode (t : Text) : ofBytes (Utf8.encode t) = text t := by
  rw [ofBytes, Utf8.decode_eq_ok_iff.mpr rfl]

theorem reread_eq (c : Content) : c.reread = c := by
  cases c with
  | text t => exact ofBytes_encode t
  | malformed f => rfl

end Content

namespace FileTree

/-- The tree as it is read after it has been written. -/
def reread (t : FileTree) : FileTree := { t with files := t.files.map fun f => (f.1, f.2.reread) }

theorem reread_eq (t : FileTree) : t.reread = t := by
  have hfiles : (t.files.map fun f => (f.1, f.2.reread)) = t.files := by
    simp only [Content.reread_eq]
    exact List.map_id _
  rw [reread, hfiles]

/-! ## What is where -/

section

variable {t : FileTree} {directory l : Location}

theorem isFile_iff : t.isFile l = true ↔ ∃ f ∈ t.files, f.1 = l := by
  rw [isFile, content?, List.lookup_isSome_iff]
  exact ⟨fun ⟨f, hf, h⟩ => ⟨f, hf, (beq_iff_eq.mp h).symm⟩,
    fun ⟨f, hf, h⟩ => ⟨f, hf, beq_iff_eq.mpr h.symm⟩⟩

theorem isBelow_iff :
    isBelow directory l = true ↔ ∃ names, names ≠ [] ∧ l = directory ++ names := by
  rw [isBelow, Bool.and_eq_true, List.isPrefixOf_iff_prefix, decide_eq_true_eq]
  constructor
  · rintro ⟨⟨names, rfl⟩, hlength⟩
    refine ⟨names, ?_, rfl⟩
    rintro rfl
    rw [List.append_nil] at hlength
    exact Nat.lt_irrefl _ hlength
  · rintro ⟨names, hne, rfl⟩
    have := List.length_pos_iff.mpr hne
    exact ⟨List.prefix_append _ _, by rw [List.length_append]; omega⟩

/-- The names of the files below a directory. -/
theorem mem_below {names : List Text} :
    names ∈ t.below directory ↔ names ≠ [] ∧ t.isFile (directory ++ names) = true := by
  simp only [below, List.mem_map, List.mem_filter, isBelow_iff, isFile_iff]
  constructor
  · rintro ⟨f, ⟨hf, names', hne, heq⟩, rfl⟩
    rw [heq, List.drop_left]
    exact ⟨hne, f, hf, heq⟩
  · rintro ⟨hne, f, hf, heq⟩
    exact ⟨f, ⟨hf, names, hne, heq⟩, by rw [heq, List.drop_left]⟩

end

/-- The same places are files and directories in both trees. -/
structure SameShape (t t' : FileTree) : Prop where
  top : t.top = t'.top
  current : t.current = t'.current
  places : t.files.map (·.1) = t'.files.map (·.1)
  directories : t.directories = t'.directories

namespace SameShape

variable {t t' : FileTree}

theorem refl (t : FileTree) : SameShape t t := ⟨rfl, rfl, rfl, rfl⟩

theorem trans {t'' : FileTree} (h : SameShape t t') (h' : SameShape t' t'') : SameShape t t'' :=
  ⟨h.top.trans h'.top, h.current.trans h'.current, h.places.trans h'.places,
    h.directories.trans h'.directories⟩

theorem isFile_eq (h : SameShape t t') (l : Location) : t.isFile l = t'.isFile l := by
  rw [Bool.eq_iff_iff, isFile_iff, isFile_iff, ← List.mem_map, ← List.mem_map, h.places]

theorem isDirectory_eq (h : SameShape t t') (l : Location) : t.isDirectory l = t'.isDirectory l := by
  have any : ∀ u : FileTree, (u.files.any fun f => isBelow l f.1) =
      (u.files.map (·.1)).any (isBelow l) := by
    intro u
    rw [List.any_map]
    rfl
  rw [isDirectory, isDirectory, any, any, h.places, h.current, h.directories]

theorem walk_eq (h : SameShape t t') (l : Location) (parts : List Text) :
    t.walk l parts = t'.walk l parts := by
  induction parts generalizing l with
  | nil => rfl
  | cons p rest ih => rw [walk, walk, h.isDirectory_eq, ih, ih]

theorem locate?_eq (h : SameShape t t') (p : Path) : t.locate? p = t'.locate? p := by
  simp only [locate?, h.walk_eq, h.current, h.top, h.isFile_eq, h.isDirectory_eq]

theorem below_eq (h : SameShape t t') (directory : Location) :
    t.below directory = t'.below directory := by
  have map : ∀ u : FileTree, u.below directory =
      ((u.files.map (·.1)).filter (isBelow directory)).map (·.drop directory.length) := by
    intro u
    rw [List.filter_map, List.map_map]
    rfl
  rw [map, map, h.places]

theorem shown_eq (h : SameShape t t') (l : Location) : t.shown l = t'.shown l := by
  rw [shown, shown, h.current, h.top]

end SameShape

/-! ## Writing -/

variable {t : FileTree}

theorem sameShape_write (t : FileTree) (l : Location) (new : Text) : SameShape t (t.write l new) := by
  refine ⟨rfl, rfl, ?_, rfl⟩
  rw [write, List.map_map]
  refine List.map_congr_left fun f _ => ?_
  simp only [Function.comp_apply]
  split
  · next h => exact h
  · rfl

theorem lookup_cons (f : Location × Content) (files : List (Location × Content)) (k : Location) :
    (f :: files).lookup k = if k = f.1 then some f.2 else files.lookup k := by
  rw [List.lookup_cons]
  split
  · next h => rw [if_pos (beq_iff_eq.mp h)]
  · next h => rw [if_neg (beq_eq_false_iff_ne.mp h)]

theorem content?_write (l k : Location) (new : Text) : (t.write l new).content? k =
    if k = l then (t.content? k).map fun _ => .text new else t.content? k := by
  simp only [content?, write]
  induction t.files with
  | nil => exact (ite_self none).symm
  | cons f files ih =>
    rw [List.map_cons, lookup_cons, lookup_cons, ih]
    by_cases hf : f.1 = l
    · rw [if_pos hf]
      by_cases hk : k = l
      · rw [if_pos hk, if_pos hk, if_pos (hk.trans hf.symm)]
        rfl
      · have hne : k ≠ f.1 := fun h => hk (h.trans hf)
        rw [if_neg hk, if_neg hk, if_neg hk, if_neg hne]
    · rw [if_neg hf]
      by_cases hk : k = l
      · have hne : k ≠ f.1 := fun h => hf (h.symm.trans hk)
        rw [if_pos hk, if_pos hk, if_neg hne, if_neg hne]
      · rw [if_neg hk, if_neg hk]

/-- Only the file that is written holds anything else. -/
theorem content?_write_of_ne {l k : Location} (h : k ≠ l) (new : Text) :
    (t.write l new).content? k = t.content? k := by
  rw [content?_write, if_neg h]

theorem content?_write_self {l : Location} (h : t.isFile l = true) (new : Text) :
    (t.write l new).content? l = some (.text new) := by
  obtain ⟨c, hc⟩ := Option.isSome_iff_exists.mp h
  rw [content?_write, if_pos rfl, hc]
  rfl

end FileTree

end SmartQuotes
