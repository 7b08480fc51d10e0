import SmartQuotes.Quote.Fragment

/-!
# Flags

The flags of the command line with their spellings. A flag may ask for a value.
-/

namespace SmartQuotes.Command

inductive Flag
  | help
  | verbose
  | config
  | summary
  | kind
deriving DecidableEq, Repr

namespace Flag

def names : Flag → List Text
  | help => ["-h", "--help"].map text
  | verbose => ["-v", "--verbose"].map text
  | config => ["--config"].map text
  | summary => ["--summary"].map text
  | kind => ["--kind"].map text

def takesValue : Flag → Bool
  | config | kind => true
  | help | verbose | summary => false

/-- The flag as messages show it. -/
def shown (f : Flag) : Text := Text.join ['/'] f.names

/-- The flag with a spelling. -/
def ofName? (flags : List Flag) (name : Text) : Option Flag :=
  flags.find? (·.names.contains name)

end Flag

end SmartQuotes.Command
