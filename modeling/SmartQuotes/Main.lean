import SmartQuotes.Command.Run

/-!
# The program

Reads the files that a command line names into a tree, runs the command, and carries out what it
prints and writes. Everything is decided by the run; nothing here looks into a text.
-/

namespace SmartQuotes

namespace FileTree

/-- The absolute path of a place. -/
def absolute (l : Location) : String := "/" ++ "/".intercalate (l.map String.ofList)

/-- The place of an absolute path. -/
def placeOf (path : String) : Location := (Path.ofText (text path)).parts

/-- The place that a path names from the working directory. -/
def place (t : FileTree) (p : Path) : Location :=
  p.parts.foldl (fun l part => if part = ['.', '.'] then l.dropLast else l ++ [part])
    (if p.root.isEmpty then t.current else [])

/-- The tree with a file in it. -/
def addFile (t : FileTree) (l : Location) : IO FileTree := do
  if t.isFile l then return t
  let content ← do
    if (Language.ofPath? ⟨[], l⟩).isSome then
      pure (Content.ofBytes (← IO.FS.readBinFile (absolute l)).toList)
    else pure (Content.text [])
  return { t with files := t.files ++ [(l, content)] }

/-- The tree with all files below a directory, links to directories and directories without sources
left out. -/
partial def addDirectory (t : FileTree) (l : Location) : IO FileTree := do
  let mut t := { t with directories := t.directories ++ [l] }
  let here ← IO.FS.realPath (absolute l)
  for entry in ← here.readDir do
    let next := l ++ [text entry.fileName]
    let path ← IO.FS.realPath (here / entry.fileName)
    if ← path.isDir then
      if path == here / entry.fileName && !Command.Source.isSkipped (text entry.fileName) then
        t ← t.addDirectory next
    else if ← path.pathExists then t ← t.addFile next
  return t

/-- The tree with what a path names. -/
def add (t : FileTree) (p : Path) : IO FileTree := do
  let l := t.place p
  let there ← try pure (some (← IO.FS.realPath (absolute l))) catch _ => pure none
  match there with
  | none => return t
  | some path =>
    if ← path.isDir then t.addDirectory l
    else if ← path.pathExists then t.addFile l
    else return t

/-- Write the files in which two trees differ. -/
def writeChanges (old new : FileTree) : IO Unit :=
  for (l, content) in new.files do
    if old.content? l ≠ some content then
      if let .text t := content then
        IO.FS.writeBinFile (absolute l) (Utf8.encode t).toByteArray

end FileTree

namespace Command

/-- The files that a job may look at: the sources and the configuration. -/
def Job.files : Job → List Path × Option Path
  | .check paths config _ => (paths, config)
  | .fix paths config => (paths, config)
  | .convert _ _ config => ([], config)

/-- The files that a command line names, as a tree. -/
def load (words : List Text) : IO FileTree := do
  let current := FileTree.placeOf (← IO.currentDir).toString
  let empty : FileTree := { top := [], current, files := [], directories := [] }
  match Request.ofWords words with
  | .perform _ job =>
    let (paths, config) := job.files
    let l := empty.place (config.getD Config.defaultFile)
    let there ← try pure (some (← IO.FS.realPath (FileTree.absolute l))) catch _ => pure none
    let mut tree := empty
    if let some path := there then
      unless ← path.isDir do
        let content := Content.ofBytes (← IO.FS.readBinFile path).toList
        tree := { tree with files := [(l, content)] }
    for path in paths do tree ← tree.add path
    return tree
  | _ => return empty

def print : Printed → IO Unit
  | .output t => do (← IO.getStdout).putStr (String.ofList t)
  | .message t => do (← IO.getStderr).putStr (String.ofList t)

def Fault.message : Fault → String
  | .undecodable f => f.message
  | .unshowable f => f.message
  | .broken b => String.ofList b.message

/-- The columns of the terminal as the environment tells them. -/
def terminalColumns : IO Nat := do
  let told ← IO.getEnv "COLUMNS"
  return (told.bind String.toNat?).getD 80

end Command

end SmartQuotes

open SmartQuotes in
def main (words : List String) : IO UInt32 := do
  let words := words.map text
  let tree ← Command.load words
  let run := Command.run tree words (← Command.terminalColumns)
  run.printed.forM Command.print
  tree.writeChanges run.tree
  match run.ending with
  | .ok code => return code.toUInt32
  | .error fault =>
    (← IO.getStderr).putStrLn fault.message
    return 1
