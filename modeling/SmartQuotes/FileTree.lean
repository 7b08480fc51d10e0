import SmartQuotes.Path
import SmartQuotes.Text.Utf8

/-!
# File trees

The files and directories that a program can see, with its working directory. Places in the tree are
lists of names from the top; a path is looked up part by part, so that a part that names the parent
works only behind a directory.
-/

namespace SmartQuotes

/-- What a file holds: a text, or bytes that are none. -/
inductive Content
  | text (t : Text)
  | malformed (fault : Utf8.Fault)
deriving DecidableEq, Repr

namespace Content

def ofBytes (bytes : List UInt8) : Content :=
  match Utf8.decode bytes with
  | .ok t => text t
  | .error f => malformed f

end Content

/-- A place in a file tree: the names from the top down. -/
abbrev Location := List Text

/-- Files and directories. A directory that holds something need not be listed. `top` is the written
form of the top directory. -/
structure FileTree where
  top : Text
  current : Location
  files : List (Location × Content)
  directories : List Location

namespace FileTree

/-- The content of the file at a place. -/
def content? (t : FileTree) (l : Location) : Option Content := t.files.lookup l

def isFile (t : FileTree) (l : Location) : Bool := (t.content? l).isSome

/-- Whether a place lies in a directory, at any depth. -/
def isBelow (directory l : Location) : Bool :=
  directory.isPrefixOf l && directory.length < l.length

def isDirectory (t : FileTree) (l : Location) : Bool :=
  l.isEmpty || l == t.current || isBelow l t.current || t.directories.contains l ||
    t.directories.any (isBelow l) || t.files.any fun f => isBelow l f.1

/-- Follow the parts of a path from a place. -/
def walk (t : FileTree) (l : Location) : List Text → Option Location
  | [] => some l
  | p :: rest =>
    if !t.isDirectory l then none
    else if p = ['.', '.'] then t.walk l.dropLast rest
    else t.walk (l ++ [p]) rest

/-- The place that a path names, if there is a file or a directory. -/
def locate? (t : FileTree) (p : Path) : Option Location :=
  let found :=
    if p.root.isEmpty then t.walk t.current p.parts
    else if t.top.isEmpty then t.walk [] p.parts
    else none
  found.filter fun l => t.isFile l || t.isDirectory l

/-- The file that a path names. -/
def file? (t : FileTree) (p : Path) : Option (Location × Content) :=
  (t.locate? p).bind fun l => (t.content? l).map fun c => (l, c)

/-- The files in a directory, at any depth: their names from the directory down. -/
def below (t : FileTree) (directory : Location) : List (List Text) :=
  (t.files.filter fun f => isBelow directory f.1).map fun f => f.1.drop directory.length

/-- The tree with the text of a file replaced. -/
def write (t : FileTree) (l : Location) (new : Text) : FileTree :=
  { t with files := t.files.map fun f => if f.1 = l then (l, .text new) else f }

/-- A place as it is shown: seen from the working directory if it lies there, else from the top. -/
def shown (t : FileTree) (l : Location) : Text :=
  if t.current.isPrefixOf l then (⟨[], l.drop t.current.length⟩ : Path).toText
  else t.top ++ ['/'] ++ Text.join ['/'] l

end FileTree

namespace Text

/-- The text with every line end written as a line feed. -/
def unifyLines : Text → Text
  | [] => []
  | '\r' :: '\n' :: t => '\n' :: unifyLines t
  | c :: t => (if c = '\r' then '\n' else c) :: unifyLines t

end Text

/-- The text of a file as programs read it. -/
def Content.read : Content → Except Utf8.Fault Text
  | .text t => .ok t.unifyLines
  | .malformed f => .error f

end SmartQuotes
