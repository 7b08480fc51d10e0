import SmartQuotes.Config.Value
import SmartQuotes.Quote.Review

/-!
# Problems of a configuration

Why a configuration is refused. The value of the first key that is refused is told, and after it
every key that is not known.
-/

namespace SmartQuotes.Config

/-- Why the value of a key is refused. -/
inductive Problem
  | wrongShape (expected received : Shape)
  | notALevel (received : Value)
  | notAList (received : Shape)
  | missing
  | unknownKey (key : Text)

namespace Problem

/-- The levels in the form in which messages list them. -/
def shownLevels : Text :=
  ['('] ++ Text.join [',', ' '] ([Level.ignore, .warn, .fix].map fun l =>
    text s!"<Level.{l.name}: " ++ (text l.name).quoted ++ ['>']) ++ [')']

def message : Problem → Text
  | wrongShape expected received =>
    text "Expected type: " ++ expected.shown ++ text " but received: " ++ received.shown
  | notALevel received =>
    text "Expected one of: " ++ shownLevels ++ text " but received: " ++ received.shown
  | notAList received =>
    text "Expected a list of items, but a " ++ received.shown ++ text " was given."
  | missing => text "Required configuration not provided."
  | unknownKey key => text "Unrecognised configuration name: " ++ key

end Problem

/-- What is checked. -/
inductive Origin
  | configuration
  | ruleOptions
deriving DecidableEq, Repr

namespace Origin

def name : Origin → String
  | configuration => "configuration"
  | ruleOptions => "rule options"

end Origin

/-- Why a configuration is refused. -/
inductive Refusal
  | notAMapping (origin : Origin)
  | invalid (origin : Origin) (problems : List (Text × Problem))
  | fileNotFound (path : Text)
  | malformed (path message : Text)

namespace Refusal

def message : Refusal → Text
  | notAMapping origin => text s!"Invalid {origin.name}: expected a mapping"
  | invalid origin problems =>
    text s!"Invalid {origin.name}: " ++ Text.join [';', ' '] (problems.map fun (key, p) =>
      key ++ [':', ' '] ++ p.message)
  | fileNotFound path => text "Configuration file not found: " ++ path
  | malformed path message => text "Invalid YAML in " ++ path ++ [':', ' '] ++ message

end Refusal

/-- The result of checking the known keys together with the keys that are not known. -/
def checkKeys {α : Type} (origin : Origin) (known : List String) (entries : List (Value × Value))
    (checked : Except (Text × Problem) α) : Except Refusal α :=
  let keys := entries.map (·.1.written)
  let strange := keys.filter fun k => !(known.map text).contains k
  let unknown := strange.map fun k => (k, Problem.unknownKey k)
  match checked, unknown with
  | .ok a, [] => .ok a
  | .ok _, unknown => .error (.invalid origin unknown)
  | .error problem, unknown => .error (.invalid origin (problem :: unknown))

/-- The value of a key; null when there is none. -/
def lookup (key : String) (entries : List (Value × Value)) : Value :=
  let isKey : Value → Bool
    | .text t => t == text key
    | _ => false
  ((entries.find? fun e => isKey e.1).map (·.2)).getD .null

end SmartQuotes.Config
