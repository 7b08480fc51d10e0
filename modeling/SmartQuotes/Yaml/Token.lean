import SmartQuotes.Yaml.Fault

/-!
# Tokens of a YAML text
-/

namespace SmartQuotes.Yaml

/-- A line for the reader of a document. -/
inductive Directive
  | version (major minor : Nat)
  | handle (name tag : Text)
  | other
deriving DecidableEq, Repr

inductive TokenKind
  | directive (d : Directive)
  | documentStart
  | documentEnd
  | streamEnd
  | blockSequenceStart
  | blockMappingStart
  | blockEnd
  | flowSequenceStart
  | flowSequenceEnd
  | flowMappingStart
  | flowMappingEnd
  | key
  | value
  | blockEntry
  | flowEntry
  | reference (name : Text)
  | anchor (name : Text)
  | tag (handle : Option Text) (suffix : Text)
  | scalar (t : Text) (plain : Bool)
deriving DecidableEq, Repr

namespace TokenKind

/-- The name of a token in messages. -/
def name : TokenKind → String
  | directive _ => "<directive>"
  | documentStart => "<document start>"
  | documentEnd => "<document end>"
  | streamEnd => "<stream end>"
  | blockSequenceStart => "<block sequence start>"
  | blockMappingStart => "<block mapping start>"
  | blockEnd => "<block end>"
  | flowSequenceStart => "["
  | flowSequenceEnd => "]"
  | flowMappingStart => "\x7b"
  | flowMappingEnd => "\x7d"
  | key => "?"
  | value => ":"
  | blockEntry => "-"
  | flowEntry => ","
  | reference _ => "<alias>"
  | anchor _ => "<anchor>"
  | tag _ _ => "<tag>"
  | scalar _ _ => "<scalar>"

end TokenKind

structure Token where
  kind : TokenKind
  start : Place
  stop : Place
deriving DecidableEq, Repr

end SmartQuotes.Yaml
