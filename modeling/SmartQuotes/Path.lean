import SmartQuotes.Text.Class

/-!
# Paths

A path is its root, empty for a relative path, and its parts. Empty parts and parts that name the
current directory are dropped when a path is read; parts that name the parent are kept.
-/

namespace SmartQuotes

structure Path where
  root : Text
  parts : List Text
deriving DecidableEq, Repr

namespace Path

/-- The root of a written path: exactly two slashes in front are kept apart from one. -/
def rootOf : Text → Text
  | '/' :: '/' :: '/' :: _ => ['/']
  | '/' :: '/' :: _ => ['/', '/']
  | '/' :: _ => ['/']
  | _ => []

def ofText (t : Text) : Path :=
  ⟨rootOf t, (t.splitOn (· == '/')).filter fun p => p != [] && p != ['.']⟩

/-- The written path; the current directory is a single dot. -/
def toText (p : Path) : Text :=
  if p.root.isEmpty && p.parts.isEmpty then ['.'] else p.root ++ Text.join ['/'] p.parts

/-- The last part. -/
def name (p : Path) : Text := p.parts.getLast?.getD []

/-- The ending of a name from its last dot on, unless the dot is its first or last character. -/
def suffixOf (name : Text) : Text :=
  let tail := (name.reverse.takeWhile (· != '.')).reverse
  if tail.isEmpty || name.length ≤ tail.length + 1 then [] else '.' :: tail

def suffix (p : Path) : Text := suffixOf p.name

/-- The path of an entry of a directory. -/
def child (p : Path) (name : Text) : Path := ⟨p.root, p.parts ++ [name]⟩

/-- Lexicographic order of two texts. -/
def textLe : Text → Text → Bool
  | [], _ => true
  | _ :: _, [] => false
  | a :: s, b :: t => a.toNat < b.toNat || (a == b && textLe s t)

/-- Lexicographic order of two lists of parts. -/
def partsLe : List Text → List Text → Bool
  | [], _ => true
  | _ :: _, [] => false
  | a :: s, b :: t => if a = b then partsLe s t else textLe a b

/-- The order in which files are handled: part by part, the root counting as a part. -/
def le (p q : Path) : Bool :=
  let all (x : Path) := if x.root.isEmpty then x.parts else x.root :: x.parts
  partsLe (all p) (all q)

end Path

end SmartQuotes
