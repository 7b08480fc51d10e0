import SmartQuotes.Config.Settings
import SmartQuotes.Config.Value.Node
import SmartQuotes.FileTree
import SmartQuotes.Note

/-!
# Loading the configuration

The configuration is read from the file that is named, or else from the file of the default name in
the working directory, if there is one. Its settings are checked at once, rule options included.
-/

namespace SmartQuotes.Config

/-- Why a configuration cannot be loaded. -/
inductive LoadError
  | refused (r : Refusal)
  | undecodable (f : Utf8.Fault)
  | broken (b : Breakdown)

/-- The name of the file that is read when none is named. -/
def defaultFile : Path := ⟨[], [text ".curly-quotes.yml"]⟩

/-- The settings in the text of a file, with what is noted. -/
def ofText (path : Path) (t : Text) : List Note × Except LoadError Settings :=
  match Yaml.valueOf t with
  | .error (.broken b) => ([], .error (.broken b))
  | .error fault => ([], .error (.refused (.malformed path.toText (fault.message t))))
  | .ok value =>
    ([.configurationLoaded path.toText], (settingsOf value).mapError .refused)

/-- The settings of a file. -/
def ofFile (tree : FileTree) (path : Path) : List Note × Except LoadError Settings :=
  match tree.file? path with
  | none => ([], .error (.refused (.fileNotFound path.toText)))
  | some (_, content) =>
    match content.read with
    | .error f => ([], .error (.undecodable f))
    | .ok t => ofText path t

/-- The settings in force, with what is noted. -/
def load (tree : FileTree) (path : Option Path) : List Note × Except LoadError Settings :=
  match path with
  | some path => ofFile tree path
  | none =>
    if (tree.file? defaultFile).isSome then ofFile tree defaultFile
    else ([], (settingsOf .null).mapError .refused)

end SmartQuotes.Config
