import SmartQuotes.Text.Basic

/-!
# Tokens of scripts
-/

namespace SmartQuotes.Script

inductive Token.Kind
  | endOfInput
  | identifier
  | keyword
  | boolean
  | null
  | numeric
  | string
  | template
  | punctuator
  | regularExpression
  | elementName
deriving DecidableEq, Repr

/-- A token with the offsets that it spans and the line on which it ends. `octal` marks numbers and
strings with a legacy octal notation; `opens` and `closes` mark the template parts that start and
end with a backquote. `points` are the code points of a word: escapes may name surrogates, of which
the value shows nothing. -/
structure Token where
  kind : Token.Kind
  value : String
  start : Nat
  stop : Nat
  line : Nat
  octal : Bool := false
  opens : Bool := false
  closes : Bool := false
  points : List Nat := []
deriving DecidableEq, Repr

namespace Token

/-- Words that are keywords in every script. -/
def keywords : List String :=
  ["if", "in", "do", "var", "for", "new", "try", "let", "this", "else", "case", "void", "with",
   "enum", "while", "break", "catch", "throw", "const", "yield", "class", "super", "return",
   "typeof", "delete", "switch", "export", "import", "default", "finally", "extends", "function",
   "continue", "debugger", "instanceof"]

/-- Keywords that have a meaning in some contexts only. -/
def isFutureReserved (s : String) : Bool := ["enum", "export", "import", "super"].contains s

/-- Words that are keywords in strict code. -/
def isStrictReserved (s : String) : Bool :=
  ["implements", "interface", "package", "private", "protected", "public", "static", "yield",
   "let"].contains s

/-- Names that strict code may not bind. -/
def isRestricted (s : String) : Bool := s == "eval" || s == "arguments"

/-- The kind of a word. -/
def kindOfWord (s : String) : Kind :=
  if keywords.contains s then .keyword
  else if s == "null" then .null
  else if s == "true" || s == "false" then .boolean
  else .identifier

def isPunctuator (t : Token) (s : String) : Bool := t.kind == .punctuator && t.value == s

def isKeyword (t : Token) (s : String) : Bool := t.kind == .keyword && t.value == s

/-- Whether the token is a word without a reserved meaning that the grammar uses as a keyword. -/
def isContextual (t : Token) (s : String) : Bool := t.kind == .identifier && t.value == s

/-- Whether the token is a word of any kind. -/
def isName (t : Token) : Bool :=
  t.kind matches .identifier | .keyword | .boolean | .null

/-- Whether a property key may start with the token. -/
def startsKey (t : Token) : Bool :=
  t.isName || t.kind == .string || t.kind == .numeric || t.isPunctuator "["

end Token

end SmartQuotes.Script
