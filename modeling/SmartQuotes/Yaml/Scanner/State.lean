import SmartQuotes.Yaml.Token

/-!
# The state of scanning

The text is read once from left to right. Tokens wait in a queue, because a token turns out to be a
key only when the colon behind it is met; until then the key is remembered as a possible one, at
most one for each level of brackets.
-/

namespace SmartQuotes.Yaml

/-- A token that a colon on the same line may turn into a key. -/
structure PossibleKey where
  level : Nat
  number : Nat
  required : Bool
  place : Place
deriving DecidableEq, Repr

structure Scanner where
  rest : Text
  place : Place := ⟨0, 0, 0⟩
  level : Nat := 0
  indent : Int := -1
  indents : List Int := []
  queue : List Token := []
  taken : Nat := 0
  allowsKey : Bool := true
  keys : List PossibleKey := []
  done : Bool := false

abbrev Scan := StateT Scanner (Except Fault)

namespace Scan

/-- The end of the text, seen as a character. -/
def stop : Char := '\x00'

/-- The character `n` places ahead. -/
def peek (n : Nat) : Scan Char := return ((← get).rest.drop n).head?.getD stop

/-- The next `n` characters, fewer at the end. -/
def ahead (n : Nat) : Scan Text := return (← get).rest.take n

def place : Scan Place := return (← get).place

def column : Scan Nat := return (← get).place.column

/-- Whether the scanner stands outside all brackets. -/
def inBlock : Scan Bool := return (← get).level == 0

def fail {α : Type} (activity : Option (Activity × Option Place)) (cause : Cause) : Scan α := do
  throw (.at activity cause (← place))

/-! ## Classes of characters -/

def isBreakOrEnd (c : Char) : Bool := isBreak c || c == stop

/-- The end, a space or a line end. -/
def isSpaceBreakOrEnd (c : Char) : Bool := isBreakOrEnd c || c == ' '

/-- What may stand behind an indicator. -/
def isGap (c : Char) : Bool := isSpaceBreakOrEnd c || c == '\t'

/-- Characters of names. -/
def isNameChar (c : Char) : Bool :=
  Text.Class.isAsciiLetter c || Text.Class.isAsciiDigit c || c == '-' || c == '_'

/-! ## Moving -/

/-- The place behind a character that stands in front of the given text. -/
def after (p : Place) (c : Char) (rest : Text) : Place :=
  let breaks := c == '\n' || c == '\u0085' || c == '\u2028' || c == '\u2029' ||
    (c == '\r' && rest.head? != some '\n')
  if breaks then ⟨p.index + 1, p.line + 1, 0⟩
  else ⟨p.index + 1, p.line, if c == '\ufeff' then p.column else p.column + 1⟩

/-- Move over `n` characters. -/
def forward (n : Nat) : Scan Unit :=
  modify fun s =>
    let (rest, place) := n.repeat (fun (rest, p) => match rest with
      | [] => ([], p)
      | c :: r => (r, after p c r)) (s.rest, s.place)
    { s with rest, place }

/-- Read the characters that satisfy `p`. -/
def takeWhile (p : Char → Bool) : Scan Text := do
  let t := (← get).rest.takeWhile p
  forward t.length
  return t

/-- Read a line end, if there is one. Most line ends read as a line feed. -/
def lineBreak : Scan Text := do
  match (← get).rest with
  | '\r' :: '\n' :: _ => forward 2; return ['\n']
  | c :: _ =>
    if c == '\u2028' || c == '\u2029' then forward 1; return [c]
    else if isBreak c then forward 1; return ['\n']
    else return []
  | [] => return []

/-- Whether a line of dashes or dots that separates documents is next. -/
def isAtSeparator : Scan Bool := do
  let t ← ahead 3
  return (t == ['-', '-', '-'] || t == ['.', '.', '.']) && isGap (← peek 3)

/-- A number that no loop over the rest of the text exceeds. -/
def fuel : Scan Nat := return (← get).rest.length + 1

/-! ## Queue and indentation -/

/-- Put a token at the end of the queue. -/
def push (kind : TokenKind) (start stop : Place) : Scan Unit :=
  modify fun s => { s with queue := s.queue ++ [⟨kind, start, stop⟩] }

/-- Put a token in front of the token of the given number. -/
def insert (number : Nat) (kind : TokenKind) (p : Place) : Scan Unit :=
  modify fun s =>
    let n := number - s.taken
    { s with queue := s.queue.take n ++ ⟨kind, p, p⟩ :: s.queue.drop n }

def allowKey (allowed : Bool) : Scan Unit := modify fun s => { s with allowsKey := allowed }

/-- Close the blocks that are indented deeper than the given column. -/
def unwindFrom (column : Int) : Nat → Scan Unit
  | 0 => return
  | n + 1 => do
    let s ← get
    if column < s.indent then
      push .blockEnd s.place s.place
      modify fun s => { s with indent := s.indents.headD (-1), indents := s.indents.drop 1 }
      unwindFrom column n

def unwind (column : Int) : Scan Unit := do
  let s ← get
  if s.level == 0 then unwindFrom column (s.indents.length + 1)

/-- Open a block at a column, if it is indented deeper than the last one. -/
def addIndent (column : Nat) : Scan Bool := do
  let s ← get
  if s.indent < column then
    set { s with indent := column, indents := s.indent :: s.indents }
    return true
  else return false

/-! ## Possible keys -/

/-- Refuse a key that must be one but has no colon behind it. -/
def requireColon (k : PossibleKey) : Scan Unit := do
  if k.required then fail (some (.simpleKey, some k.place)) .missingColon

/-- Whether a possible key is too far away to be one. -/
def isStale (p : Place) (k : PossibleKey) : Bool :=
  k.place.line != p.line || k.place.index + 1024 < p.index

/-- Forget the keys that are too far away. -/
def dropStale : Scan Unit := do
  let s ← get
  (s.keys.filter (isStale s.place)).forM requireColon
  set { s with keys := s.keys.filter fun k => !isStale s.place k }

/-- Forget the possible key of the current level. -/
def removeKey : Scan Unit := do
  let s ← get
  (s.keys.filter (·.level == s.level)).forM requireColon
  set { s with keys := s.keys.filter (·.level != s.level) }

/-- Remember that the next token may be a key. -/
def saveKey : Scan Unit := do
  if (← get).allowsKey then
    removeKey
    modify fun s =>
      let required := s.level == 0 && s.indent == s.place.column
      { s with keys := s.keys ++ [⟨s.level, s.taken + s.queue.length, required, s.place⟩] }

end Scan

end SmartQuotes.Yaml
