import SmartQuotes.FileTree
import SmartQuotes.Language

/-!
# Sources

The files that a command handles: those named, if they are supported, and those in named
directories. Directories that hold no sources of one's own, and hidden ones, are passed over below a
named directory. Each path is handled once, in the order of paths.
-/

namespace SmartQuotes.Command

/-- A file to handle. -/
structure Source where
  path : Path
  language : Language
  place : Location
deriving DecidableEq, Repr

/-- A list with each member once. -/
def distinct {α : Type} [DecidableEq α] : List α → List α
  | [] => []
  | x :: xs => if x ∈ xs then distinct xs else x :: distinct xs

namespace Source

/-- Whether a directory is passed over. -/
def isSkipped (directory : Text) : Bool :=
  (["node_modules", "dist", "build", "coverage", "__pycache__"].map text).contains directory ||
    directory.head? == some '.'

/-- The source at a path, if its suffix is one of those given and its language is known. -/
def ofPath? (suffixes : List Text) (path : Path) (place : Location) : Option Source :=
  if suffixes.contains path.suffix.lower then
    (Language.ofPath? path).map fun language => ⟨path, language, place⟩
  else none

/-- The source at the given names below a directory. -/
def below? (suffixes : List Text) (directory : Path) (place : Location) (names : List Text) :
    Option Source :=
  if names.dropLast.any isSkipped then none
  else ofPath? suffixes ⟨directory.root, directory.parts ++ names⟩ (place ++ names)

/-- The sources that a path stands for; `none` if there is nothing at the path. -/
def named? (tree : FileTree) (suffixes : List Text) (path : Path) : Option (List Source) := do
  let place ← tree.locate? path
  if tree.isFile place then return (ofPath? suffixes path place).toList
  else return (tree.below place).filterMap (below? suffixes path place)

/-- The sources that paths stand for, or the first path at which there is nothing. -/
def ofPaths (tree : FileTree) (suffixes : List Text) : List Path → Except Path (List Source)
  | [] => .ok []
  | p :: ps =>
    match named? tree suffixes p with
    | none => .error p
    | some sources => do return sources ++ (← ofPaths tree suffixes ps)

/-- The sources to handle, in order; suffixes count in either case of letters. -/
def collect (tree : FileTree) (suffixes : List Text) (paths : List Path) :
    Except Path (List Source) := do
  let sources ← ofPaths tree (suffixes.map Text.lower) paths
  return sortBy (fun a b => a.path.le b.path) (distinct sources)

end Source

end SmartQuotes.Command
