import SmartQuotes.Text.Class

/-!
# Arguments

A tag may have arguments, which are written as literals: numbers, strings and constants, and tuples,
sets and dictionaries of them. They are cut into tokens, and a machine reads the tokens with a stack
of the brackets that are open. Square brackets do not come up, since they would end the tag. The
name of a character in an escape is not looked up.
-/

namespace SmartQuotes.Console.Argument

/-! ## Values and tokens -/

/-- What matters of a value to where it may stand. -/
inductive Value
  | real
  | complex
  /-- A real number behind a sign. -/
  | signed
  | string (bytes : Bool)
  /-- Any other value that may be a member of a set. -/
  | fixed
  /-- A value that may not. -/
  | changing
deriving DecidableEq, Repr

namespace Value

def isHashable (v : Value) : Bool := v != changing

/-- The value in parentheses: no string goes on behind them. -/
def grouped : Value → Value
  | string _ => fixed
  | v => v

end Value

inductive Token
  | value (v : Value)
  /-- The name of the empty set, which is called. -/
  | empty
  | opening (brace : Bool)
  | closing (brace : Bool)
  | comma
  | colon
  | sign
  | newline
deriving DecidableEq, Repr

/-! ## Numbers -/

/-- How many digits follow; an underscore may stand in front of each. -/
def countMore (isDigit : Char → Bool) : Text → Nat
  | '_' :: c :: t => if isDigit c then 2 + countMore isDigit t else 0
  | c :: t => if isDigit c then 1 + countMore isDigit t else 0
  | [] => 0

/-- How many characters of digits there are, the first of which is none but a digit. -/
def countDigits (isDigit : Char → Bool) (t : Text) : Nat :=
  if t.head?.any isDigit then countMore isDigit t else 0

def isHexDigit (c : Char) : Bool :=
  Text.Class.isAsciiDigit c || ('a' ≤ c && c ≤ 'f') || ('A' ≤ c && c ≤ 'F')

/-- The digits behind a zero and a letter. -/
def digitsOf? (c : Char) : Option (Char → Bool) :=
  if c == 'x' || c == 'X' then some isHexDigit
  else if c == 'o' || c == 'O' then some fun c => '0' ≤ c && c ≤ '7'
  else if c == 'b' || c == 'B' then some fun c => c == '0' || c == '1'
  else none

/-- How long the fraction in front is, with its point. -/
def countFraction : Text → Nat
  | '.' :: t => 1 + countDigits Text.Class.isAsciiDigit t
  | _ => 0

/-- How long the exponent in front is; without digits there is none. -/
def countExponent : Text → Nat
  | e :: t =>
    let sign := if t.head?.any fun c => c == '+' || c == '-' then 1 else 0
    let digits := countDigits Text.Class.isAsciiDigit (t.drop sign)
    if (e == 'e' || e == 'E') && 0 < digits then 1 + sign + digits else 0
  | [] => 0

/-- The decimal number in front, with its length. Whole numbers do not start with a zero, unless they
are zero. -/
def decimal? (t : Text) : Option (Value × Nat) :=
  let whole := countDigits Text.Class.isAsciiDigit t
  let fraction := whole + countFraction (t.drop whole)
  let number := fraction + countExponent (t.drop fraction)
  if (t.drop number).head?.any fun c => c == 'j' || c == 'J' then some (.complex, number + 1)
  else if number = whole && t.head? == some '0' &&
      (t.take whole).any fun c => c != '0' && c != '_' then none
  else some (.real, number)

/-- The number in front, with its length. -/
def number? : Text → Option (Value × Nat)
  | '0' :: c :: t =>
    match digitsOf? c with
    | some isDigit =>
      let digits := countMore isDigit t
      if digits = 0 then none else some (.real, 2 + digits)
    | none => decimal? ('0' :: c :: t)
  | t => decimal? t

/-! ## Strings -/

def isNewline (c : Char) : Bool := c == '\n' || c == '\r'

/-- Whether so many digits of a code point follow. -/
def areHexDigits (n : Nat) (t : Text) : Bool := (t.take n).length == n && (t.take n).all isHexDigit

/-- Whether the name of a character follows. -/
def isNamed : Text → Bool
  | '\x7b' :: t =>
    let isNameChar (c : Char) : Bool := Text.Class.isAsciiLetter c || Text.Class.isAsciiDigit c ||
      c == ' ' || c == '-'
    t.head?.any isNameChar && (t.dropWhile isNameChar).head? == some '\x7d'
  | _ => false

/-- Whether a character behind a backslash may stand in front of a text. -/
def isEscape (bytes : Bool) (c : Char) (t : Text) : Bool :=
  match c with
  | 'x' => areHexDigits 2 t
  | 'u' => bytes || areHexDigits 4 t
  | 'U' => bytes || areHexDigits 8 t &&
      ((text "000").isPrefixOf t || (text "0010").isPrefixOf t)
  | 'N' => bytes || isNamed t
  | _ => true

/-- How long the rest of a string is behind its opening quotes, the closing ones included. A string
in single quotes ends with its line. -/
def countString? (quote : Char) (triple raw bytes : Bool) : Text → Option Nat
  | [] => none
  | '\\' :: c :: t =>
    if raw || isEscape bytes c t then (countString? quote triple raw bytes t).map (· + 2) else none
  | c :: t =>
    if c == quote && (!triple || [quote, quote].isPrefixOf t) then some (if triple then 3 else 1)
    else if isNewline c && !triple then none
    else (countString? quote triple raw bytes t).map (· + 1)

/-- The length of the string that starts with a quote. -/
def string? (raw bytes : Bool) : Text → Option Nat
  | [] => none
  | quote :: t =>
    let triple := [quote, quote].isPrefixOf t
    let opening := if triple then 3 else 1
    match countString? quote triple raw bytes ((quote :: t).drop opening) with
    | none => none
    | some n =>
      if bytes && ((quote :: t).take (opening + n)).any (0x80 ≤ ·.toNat) then none
      else some (opening + n)

/-! ## Tokens of a text -/

def isQuote (c : Char) : Bool := c == '\x27' || c == '\x22'

/-- The token that a word starts, with its length: a constant, or a string behind its prefix. -/
def word? (t : Text) : Option (Token × Nat) :=
  let word := t.takeWhile Text.Class.isWord
  let rest := t.drop word.length
  let small := Text.lower word
  if rest.head?.any isQuote then
    if ["r", "u", "b", "br", "rb"].any (text · == small) then
      let bytes := small.contains 'b'
      (string? (small.contains 'r') bytes rest).map fun n =>
        (.value (.string bytes), word.length + n)
    else none
  else if ["None", "True", "False"].any (text · == word) then some (.value .fixed, word.length)
  else if word == text "set" then some (.empty, word.length)
  else none

/-- The token in front of a text, if what stands there is any, with its length. -/
def front? (t : Text) : Option (Option Token × Nat) :=
  let found : Option (Token × Nat) → Option (Option Token × Nat) :=
    Option.map fun (token, n) => (some token, n)
  match t with
  | [] => none
  | '\\' :: c :: _ => if isNewline c then some (none, 2) else none
  | '.' :: '.' :: '.' :: _ => some (some (.value .fixed), 3)
  | '(' :: _ => some (some (.opening false), 1)
  | ')' :: _ => some (some (.closing false), 1)
  | '\x7b' :: _ => some (some (.opening true), 1)
  | '\x7d' :: _ => some (some (.closing true), 1)
  | ',' :: _ => some (some .comma, 1)
  | ':' :: _ => some (some .colon, 1)
  | '#' :: r => some (none, 1 + (r.takeWhile (!isNewline ·)).length)
  | c :: r =>
    if c == ' ' || c == '\t' || c == '\x0c' then some (none, 1)
    else if isNewline c then some (some .newline, 1)
    else if c == '+' || c == '-' then some (some .sign, 1)
    else if isQuote c then (string? false false t).map fun n => (some (.value (.string false)), n)
    else if Text.Class.isAsciiDigit c || c == '.' && r.head?.any Text.Class.isAsciiDigit then
      found ((number? t).map fun (v, n) => (.value v, n))
    else found (word? t)

/-- The tokens of a text. -/
def tokens? (t : Text) : Option (List Token) :=
  match t with
  | [] => some []
  | c :: r =>
    match front? (c :: r) with
    | none => none
    | some (token, n) => (tokens? (r.drop (n - 1))).map (token.toList ++ ·)
termination_by t.length
decreasing_by simp only [List.length_cons, List.length_drop]; omega

/-! ## Reading the tokens -/

/-- What has been read of a value. -/
inductive Operand
  | missing
  /-- A sign: a number is to follow. -/
  | signed
  /-- A real number and a sign: a complex one is to follow. -/
  | summed
  /-- The name of the empty set: parentheses are to follow. -/
  | called
  | value (v : Value)
deriving DecidableEq, Repr

namespace Operand

/-- The operand with a value behind it; strings are joined. -/
def take? : Operand → Value → Option Operand
  | missing, v => some (value v)
  | signed, .real => some (value .signed)
  | signed, .complex => some (value .fixed)
  | summed, .complex => some (value .fixed)
  | value (.string bytes), v => if v = .string bytes then some (value v) else none
  | _, _ => none

/-- The operand with a sign behind it. -/
def sign? : Operand → Option Operand
  | missing => some signed
  | value .real => some summed
  | value .signed => some summed
  | _ => none

end Operand

inductive Bracket
  /-- No bracket: the whole text. -/
  | none
  | parenthesis
  | brace
  /-- The parentheses of a call. -/
  | call
deriving DecidableEq, Repr

/-- An open bracket with what has been read behind it: how many members, whether all of them may be
members of a set, whether they have keys, whether the next one has its key, and what there is of
it. -/
structure Group where
  bracket : Bracket
  members : Nat := 0
  hashable : Bool := true
  keys : Option Bool := none
  keyed : Bool := false
  operand : Operand := .missing
deriving DecidableEq, Repr

namespace Group

/-- The next member is read. -/
def addMember? (g : Group) : Option Group :=
  match g.operand with
  | .value v =>
    let next :=
      { g with members := g.members + 1, hashable := g.hashable && v.isHashable, keyed := false,
               operand := .missing }
    if g.bracket != .brace || g.keyed then some next
    else if g.keys = some true || !v.isHashable then none
    else some { next with keys := some false }
  | _ => none

/-- The key of the next member is read. -/
def addKey? (g : Group) : Option Group :=
  match g.operand with
  | .value v =>
    if g.bracket == .brace && !g.keyed && g.keys != some false && v.isHashable then
      some { g with keys := some true, keyed := true, operand := .missing }
    else none
  | _ => none

/-- The value of the group when it ends: that of what is in it if there is no comma. -/
def value? (g : Group) : Option Value := do
  let all ← if g.operand = .missing && !g.keyed then some g else g.addMember?
  let tuple : Value := if all.hashable then .fixed else .changing
  match g.bracket, g.members, g.operand with
  | .none, 0, .missing => none
  | .none, 0, .value v => v.grouped
  | .none, _, _ => tuple
  | .parenthesis, 0, .value v => v.grouped
  | .parenthesis, _, _ => tuple
  | .brace, _, _ => some .changing
  | .call, 0, .missing => some .changing
  | .call, _, _ => none

end Group

/-- How far the tokens have been read: the innermost group, those around it, and whether the text is
over but for empty lines. -/
structure State where
  group : Group := { bracket := .none }
  outer : List Group := []
  isOver : Bool := false

namespace State

/-- How many brackets may be open. -/
def maxDepth : Nat := 200

def enter? (s : State) (brace : Bool) : Option State :=
  let go (bracket : Bracket) : Option State :=
    if s.outer.length < maxDepth then
      let operand := if bracket == .call then .missing else s.group.operand
      some { s with group := { bracket }, outer := { s.group with operand } :: s.outer }
    else none
  match s.group.operand, brace with
  | .called, false => go .call
  | .called, true => none
  | .value _, _ => none
  | _, false => go .parenthesis
  | _, true => go .brace

def leave? (s : State) (brace : Bool) : Option State :=
  match s.outer with
  | [] => none
  | g :: outer =>
    if (s.group.bracket == .brace) == brace then do
      let operand ← g.operand.take? (← s.group.value?)
      some { s with group := { g with operand }, outer }
    else none

/-- A line ends the text, unless it is in brackets or nothing stands on it. -/
def endLine? (s : State) : Option State :=
  if !s.outer.isEmpty || s.group = { bracket := .none } then some s
  else s.group.value?.map fun _ => { s with isOver := true }

def step? (s : State) : Token → Option State
  | .newline => s.endLine?
  | token =>
    if s.isOver then none
    else match token with
      | .newline => some s
      | .value v => (s.group.operand.take? v).map fun operand =>
          { s with group := { s.group with operand } }
      | .empty => if s.group.operand = .missing then
          some { s with group := { s.group with operand := .called } } else none
      | .opening brace => s.enter? brace
      | .closing brace => s.leave? brace
      | .comma => s.group.addMember?.map fun group => { s with group }
      | .colon => s.group.addKey?.map fun group => { s with group }
      | .sign => s.group.operand.sign?.map fun operand =>
          { s with group := { s.group with operand } }

/-- Whether the text may end here. -/
def isComplete (s : State) : Bool := s.outer.isEmpty && s.group.value?.isSome

end State

/-- Whether a text is a literal. -/
def isLiteral (t : Text) : Bool :=
  !t.contains '\x00' && ((tokens? t).bind (List.foldlM State.step? {})).any State.isComplete

/-! ## Parameters -/

/-- The literal in the parameters of a tag: the arguments behind a name, which may be left out, or
all of them. -/
def ofParameters (parameters : Text) : Text :=
  let stripped := parameters.strip
  let rest := stripped.dropWhile fun c => Text.Class.isWord c || c == '.'
  if rest.isEmpty then text "()"
  else if rest.head? == some '(' && rest.getLast? == some ')' && !rest.contains '\n' then rest
  else stripped

/-- Whether the parameters of a tag can be read; there may be none. -/
def areReadable (parameters : Text) : Bool :=
  parameters.isEmpty || isLiteral (ofParameters parameters)

example : areReadable (text "say('it', -1 + 2j)") = true := by decide +kernel

end SmartQuotes.Console.Argument
