import Mathlib.Data.List.TakeWhile
import SmartQuotes.Proofs.Command.Fix
import SmartQuotes.Proofs.Command.Source

/-!
# Files are fixed separately

What fixing does with a source is told by the text of its file alone. Sources at different places
are treated as each of them would be alone, up to the first one that ends the run: a document that is
refused stays as it is and the others go on, but a breakdown of a reader ends the run, and the
sources behind it are not handled any more. Nothing is changed at all where the configuration cannot
be loaded or a path leads nowhere.
-/

namespace SmartQuotes.Command

/-- What fixing does with a source: its file is rewritten with some number of changes, or kept since
its text is its own fix, or the text cannot be parsed, or it ends the run. -/
inductive Effect
  | rewritten (fixed : Text) (changes : Nat)
  | kept
  | refused (e : ParseError)
  | ended (f : Fault)
deriving DecidableEq

/-- The effect of fixing a source, taken alone: what the linter makes of the text of its file. -/
def Source.effect (tree : FileTree) (l : Linter) (s : Source) : Effect :=
  match s.read tree with
  | .error f => .ended (.undecodable f)
  | .ok document =>
    match (l.inspect .fix s.language (tree.shown s.place) document).result with
    | .error (.refused e) => .refused e
    | .error (.broken b) => .ended (.broken b)
    | .ok r =>
      if r.fixed.getD document = document then .kept
      else .rewritten (r.fixed.getD document) r.applied

namespace Effect

def isRewritten : Effect → Bool
  | rewritten .. => true
  | _ => false

def isRefused : Effect → Bool
  | refused _ => true
  | _ => false

def fault? : Effect → Option Fault
  | ended f => some f
  | _ => none

/-- The next source is handled. -/
def goesOn (e : Effect) : Bool := e.fault?.isNone

/-- What the file holds afterwards. -/
def content (old : Option Content) : Effect → Option Content
  | rewritten fixed _ => some (.text fixed)
  | _ => old

/-- What is put out for the file at a path. -/
def output (path : Text) : Effect → Text
  | rewritten _ changes =>
    text "Fixed: " ++ path ++ text " (" ++ Note.number changes ++ text " change(s))" ++ ['\n']
  | _ => []

/-- The tree afterwards. -/
def behind (tree : FileTree) (place : Location) : Effect → FileTree
  | rewritten fixed _ => tree.write place fixed
  | _ => tree

variable {tree : FileTree} {place : Location} (e : Effect)

theorem sameShape_behind : tree.SameShape (e.behind tree place) := by
  cases e with
  | rewritten fixed _ => exact FileTree.sameShape_write tree place fixed
  | _ => exact .refl tree

theorem content?_behind_self (h : tree.isFile place = true) :
    (e.behind tree place).content? place = e.content (tree.content? place) := by
  cases e with
  | rewritten fixed _ => exact FileTree.content?_write_self h fixed
  | _ => rfl

theorem content?_behind_of_ne {other : Location} (h : other ≠ place) :
    (e.behind tree place).content? other = tree.content? other := by
  cases e with
  | rewritten fixed _ => exact FileTree.content?_write_of_ne h fixed
  | _ => rfl

end Effect

variable {tree tree' : FileTree} {verbose : Bool} {l : Linter} {s : Source}

namespace Printed

/-- What of the printed is output. -/
def outputs (printed : List Printed) : Text := printed.flatMap fun
  | .output t => t
  | .message _ => []

theorem outputs_append (printed more : List Printed) :
    outputs (printed ++ more) = outputs printed ++ outputs more := List.flatMap_append

theorem outputs_notes (verbose : Bool) (ns : List Note) : outputs (notes verbose ns) = [] := by
  rw [outputs, List.flatMap_eq_nil_iff]
  intro p hp
  obtain ⟨n, -, rfl⟩ := List.mem_map.mp hp
  rfl

end Printed

/-! ## One source -/

/-- The sources that are handled: those in front of the first one that ends the run. -/
def handled (effect : Source → Effect) (sources : List Source) : List Source :=
  sources.takeWhile fun s => (effect s).goesOn

/-- Each source has the effect that is told for it, and nothing else happens. -/
structure Fixed.Separate (x : Fixed) (tree : FileTree) (effect : Source → Effect)
    (sources : List Source) : Prop where
  shape : tree.SameShape x.tree
  contents : ∀ s ∈ handled effect sources,
    x.tree.content? s.place = (effect s).content (tree.content? s.place)
  others : ∀ place, (∀ s ∈ handled effect sources, place ≠ s.place) →
    x.tree.content? place = tree.content? place
  updated : x.updated = (handled effect sources).countP fun s => (effect s).isRewritten
  failed : x.failed = (handled effect sources).any fun s => (effect s).isRefused
  outputs : Printed.outputs x.printed =
    (handled effect sources).flatMap fun s => (effect s).output (tree.shown s.place)
  fault : x.fault = sources.findSome? fun s => (effect s).fault?

section

variable {effect : Source → Effect} {rest : List Source} {printed : List Printed}

theorem Fixed.Separate.cons {more : Fixed} (hgoesOn : (effect s).goesOn = true)
    (hfile : tree.isFile s.place = true) (hne : ∀ s' ∈ rest, s'.place ≠ s.place)
    (hprinted : Printed.outputs printed = (effect s).output (tree.shown s.place))
    (h : more.Separate ((effect s).behind tree s.place) effect rest) :
    Separate { more with
      printed := printed ++ more.printed
      updated := (if (effect s).isRewritten then 1 else 0) + more.updated
      failed := (effect s).isRefused || more.failed } tree effect (s :: rest) := by
  have hhandled : handled effect (s :: rest) = s :: handled effect rest :=
    List.takeWhile_cons_of_pos hgoesOn
  have hsubset : ∀ s' ∈ handled effect rest, s'.place ≠ s.place := fun s' hs' =>
    hne s' ((List.takeWhile_sublist _).subset hs')
  have hshape : tree.SameShape ((effect s).behind tree s.place) := (effect s).sameShape_behind
  refine ⟨hshape.trans h.shape, ?_, fun place hplace => ?_, ?_, ?_, ?_, ?_⟩
  · rw [hhandled, List.forall_mem_cons]
    refine ⟨?_, fun s' hs' => ?_⟩
    · -- the file of the first source is not touched while the others are handled
      rw [h.others s.place fun s' hs' => (hsubset s' hs').symm]
      exact (effect s).content?_behind_self hfile
    · rw [h.contents s' hs', (effect s).content?_behind_of_ne (hsubset s' hs')]
  · rw [hhandled, List.forall_mem_cons] at hplace
    rw [h.others place hplace.2, (effect s).content?_behind_of_ne hplace.1]
  · rw [hhandled, List.countP_cons, h.updated, Nat.add_comm]
  · rw [hhandled, List.any_cons, h.failed]
  · simp only [hhandled, List.flatMap_cons, Printed.outputs_append, hprinted, h.outputs,
      hshape.shown_eq]
  · rw [List.findSome?_cons, Option.isNone_iff_eq_none.mp hgoesOn, h.fault]

end

/-- What is said in the end of the number of files that were rewritten. -/
def verdict (updated : Nat) : Text :=
  if updated = 0 then text "No changes applied: files were already compliant."
  else Note.number updated ++ text " file(s) updated."

end SmartQuotes.Command
