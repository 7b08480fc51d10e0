import SmartQuotes.Quote.Rule
import SmartQuotes.Text.Quoted

/-!
# Notes

What is noted for the user while documents are handled: each note has a severity, the channel it
belongs to and a text.
-/

namespace SmartQuotes

inductive Severity
  | debug
  | warning
deriving DecidableEq, Repr

namespace Severity

def name : Severity → String
  | debug => "DEBUG"
  | warning => "WARNING"

end Severity

/-- Something noted along the way. -/
inductive Note
  | skippedExpression (line : Nat) (column : Int) (expression : Text)
  | unsupportedScript (lang : Text)
  | unsupportedTemplate (lang : Text)
  | unlocatedBlock (name : Text)
  | issue (path : Text) (line : Nat) (column : Int) (preview : Option Text)
  | fixesPending (path : Text) (passes : Nat)
  | configurationLoaded (path : Text)
deriving DecidableEq, Repr

namespace Note

def severity : Note → Severity
  | skippedExpression .. => .debug
  | configurationLoaded _ => .debug
  | _ => .warning

/-- The channel of the notes on parsing, and that of all others. -/
def channel : Note → String
  | skippedExpression .. | unsupportedScript _ | unsupportedTemplate _ | unlocatedBlock _ =>
    "curly_quotes.parsers"
  | _ => "curly_quotes"

/-- A preview behind an arrow, if there is one that is not empty. -/
def previewText (preview : Option Text) : Text :=
  match preview with
  | none => []
  | some t => if t.isEmpty then [] else text " → «" ++ t ++ text "»"

def number (i : Int) : Text := text (toString i)

def message : Note → Text
  | skippedExpression line column expression =>
    text "Skipping unparsable template expression at " ++ number line ++ text ":" ++
      number column ++ text ": " ++ expression.quoted
  | unsupportedScript lang =>
    text "Skipping <script lang=" ++ lang.quoted ++ text ">: only JavaScript is supported"
  | unsupportedTemplate lang =>
    text "Skipping <template lang=" ++ lang.quoted ++ text ">: only HTML is supported"
  | unlocatedBlock name => text "Unable to locate <" ++ name ++ text "> block, skipping it"
  | issue path line column preview =>
    text "[curly-quotes:" ++ text Finding.rule ++ text "] '" ++ path ++ text ":" ++ number line ++
      text ":" ++ number column ++ text "': " ++ text Finding.message ++ previewText preview
  | fixesPending path passes =>
    path ++ text ": fixes still pending after " ++ number passes ++ text " passes"
  | configurationLoaded path => text "Loaded configuration from " ++ path

/-- The note with its severity and channel. -/
def record (n : Note) : Text :=
  text n.severity.name ++ text ":" ++ text n.channel ++ text ": " ++ n.message

end Note

end SmartQuotes
