import SmartQuotes.Command.Flag
import SmartQuotes.Text.Quoted

/-!
# Problems with a command line

Why a command line is refused.
-/

namespace SmartQuotes.Command

inductive Problem
  | ambiguous (word : Text) (names : List Text)
  | missingValue (f : Flag)
  | needlessValue (f : Flag) (value : Text)
  | unknownKind (value : Text)
  | unknownCommand (value : Text)
  | missingText
  | unrecognized (words : List Text)
deriving DecidableEq, Repr

namespace Problem

/-- What is said of a value that is none of the choices. -/
def invalidChoice (argument : Text) (value : Text) (choices : List Text) : Text :=
  text "argument " ++ argument ++ text ": invalid choice: " ++ value.quoted ++
    text " (choose from " ++ Text.join (text ", ") (choices.map Text.quoted) ++ text ")"

def message : Problem → Text
  | ambiguous word names =>
    text "ambiguous option: " ++ word ++ text " could match " ++ Text.join (text ", ") names
  | missingValue f => text "argument " ++ f.shown ++ text ": expected one argument"
  | needlessValue f value =>
    text "argument " ++ f.shown ++ text ": ignored explicit argument " ++ value.quoted
  | unknownKind value =>
    invalidChoice Flag.kind.shown value (Kind.all.map fun k => text k.name)
  | unknownCommand value =>
    invalidChoice (text "command") value (["check", "fix", "convert"].map text)
  | missingText => text "the following arguments are required: text"
  | unrecognized words => text "unrecognized arguments: " ++ Text.join [' '] words

end Problem

end SmartQuotes.Command
