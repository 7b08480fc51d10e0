import SmartQuotes.Config.Problem
import SmartQuotes.Language
import SmartQuotes.Quote.Marks

/-!
# Settings

What a configuration sets, read from a value. Null stands for the default, except for the list of
file suffixes, which has to be a list when it is given.
-/

namespace SmartQuotes.Config

/-- The value of a key as some type, or why it is refused. -/
abbrev Check (α : Type) := Except (Text × Problem) α

/-- Refuse the value of a key. -/
def refuse {α : Type} (key : String) (p : Problem) : Check α := .error (text key, p)

/-- The entries of the value of a key that is given. -/
def isGiven (key : String) (entries : List (Value × Value)) : Bool :=
  entries.any fun e => match e.1 with
    | .text t => t == text key
    | _ => false

/-! ## Rule options -/

/-- A mark: any text. -/
def mark (key : String) (default : Text) (entries : List (Value × Value)) : Check Text :=
  match lookup key entries with
  | .null => .ok default
  | .text t => .ok t
  | v => refuse key (.wrongShape .text v.shape)

def markKeys : List String :=
  ["single-opening", "single-closing", "double-opening", "double-closing"]

/-- The marks that rule options set. -/
def marksOf (options : Value) : Except Refusal Marks :=
  let read (entries : List (Value × Value)) : Except Refusal Marks :=
    let d : Marks := {}
    checkKeys .ruleOptions markKeys entries do
      let singleOpening ← mark "single-opening" d.singleOpening entries
      let singleClosing ← mark "single-closing" d.singleClosing entries
      let doubleOpening ← mark "double-opening" d.doubleOpening entries
      let doubleClosing ← mark "double-closing" d.doubleClosing entries
      return { singleOpening, singleClosing, doubleOpening, doubleClosing }
  match options with
  | .null => read []
  | .mapping entries => read entries
  | _ => .error (.notAMapping .ruleOptions)

/-! ## Configuration -/

/-- What a configuration sets. -/
structure Settings where
  level : Level
  extensions : List Text
  options : List (Value × Value)
  summary : Bool
  marks : Marks

def levelOf (entries : List (Value × Value)) : Check Level :=
  match lookup "level" entries with
  | .null => .ok .fix
  | .text t =>
    match Level.ofName? (String.ofList t) with
    | some l => .ok l
    | none => refuse "level" (.notALevel (.text t))
  | v => refuse "level" (.notALevel v)

/-- The texts of a list of texts. -/
def textsOf (key : String) : List Value → Check (List Text)
  | [] => .ok []
  | .text t :: rest => return t :: (← textsOf key rest)
  | v :: _ => refuse key (.wrongShape .text v.shape)

def extensionsOf (entries : List (Value × Value)) : Check (List Text) :=
  let key := "extensions"
  match lookup key entries with
  | .null =>
    if isGiven key entries then refuse key .missing
    else .ok (Language.scriptSuffixes ++ Language.componentSuffixes)
  | .list items => textsOf key items
  | v => refuse key (.notAList v.shape)

def optionsOf (entries : List (Value × Value)) : Check (List (Value × Value)) :=
  match lookup "options" entries with
  | .null => .ok []
  | .mapping options => .ok options
  | v => refuse "options" (.wrongShape .mapping v.shape)

def summaryOf (entries : List (Value × Value)) : Check Bool :=
  match lookup "summary" entries with
  | .null => .ok false
  | .bool b => .ok b
  | v => refuse "summary" (.wrongShape .bool v.shape)

def settingKeys : List String := ["level", "extensions", "options", "summary"]

/-- The settings of a configuration; an empty one sets nothing. -/
def settingsOf (configuration : Value) : Except Refusal Settings :=
  let read (entries : List (Value × Value)) : Except Refusal Settings := do
    let (level, extensions, options, summary) ← checkKeys .configuration settingKeys entries do
      let level ← levelOf entries
      let extensions ← extensionsOf entries
      let options ← optionsOf entries
      let summary ← summaryOf entries
      return (level, extensions, options, summary)
    let marks ← marksOf (.mapping options)
    return { level, extensions, options, summary, marks }
  match configuration with
  | .null => read []
  | .mapping entries => read entries
  | _ => .error (.notAMapping .configuration)

end SmartQuotes.Config
