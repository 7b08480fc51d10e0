import SmartQuotes.Yaml.Scanner.Name

/-!
# Scanning

Tokens are read when they are asked for, and only as far as needed to tell whether the first token
of the queue is a key.
-/

namespace SmartQuotes.Yaml.Scan

/-- Move past spaces, comments and line ends. A key may start behind a line end outside brackets. -/
def skipGap : Nat → Scan Unit
  | 0 => return
  | n + 1 => do
    let _ ← takeWhile (· == ' ')
    if (← peek 0) == '#' then
      let _ ← takeWhile fun c => !isBreakOrEnd c
    if (← lineBreak).isEmpty then return
    else
      if ← inBlock then allowKey true
      skipGap n

/-! ## Reading single tokens -/

/-- Read an indicator of `n` characters. -/
def indicator (kind : TokenKind) (n : Nat) : Scan Unit := do
  let start ← place
  forward n
  push kind start (← place)

/-- Read the end of the text. -/
def streamEnd : Scan Unit := do
  unwind (-1)
  removeKey
  modify fun s => { s with allowsKey := false, keys := [], done := true }
  let p ← place
  push .streamEnd p p

/-- Start a document or its directives. -/
def leaveDocument : Scan Unit := do
  unwind (-1)
  removeKey
  allowKey false

def flowStart (kind : TokenKind) : Scan Unit := do
  saveKey
  modify fun s => { s with level := s.level + 1, allowsKey := true }
  indicator kind 1

def flowEnd (kind : TokenKind) : Scan Unit := do
  removeKey
  modify fun s => { s with level := s.level - 1, allowsKey := false }
  indicator kind 1

def flowEntry : Scan Unit := do
  allowKey true
  removeKey
  indicator .flowEntry 1

/-- Open a block at the current column, if the last one is indented less. -/
def openBlock (kind : TokenKind) (what : String) : Scan Unit := do
  if ← inBlock then
    unless (← get).allowsKey do fail none (.notAllowed what)
    if ← addIndent (← column) then
      let p ← place
      push kind p p

def blockEntry : Scan Unit := do
  openBlock .blockSequenceStart "sequence entries"
  allowKey true
  removeKey
  indicator .blockEntry 1

def key : Scan Unit := do
  openBlock .blockMappingStart "mapping keys"
  allowKey (← inBlock)
  removeKey
  indicator .key 1

def value : Scan Unit := do
  let s ← get
  match s.keys.find? (·.level == s.level) with
  | some k =>
    set { s with keys := s.keys.filter (·.level != s.level) }
    insert k.number .key k.place
    if ← inBlock then
      if ← addIndent k.place.column then insert k.number .blockMappingStart k.place
    allowKey false
  | none =>
    openBlock .blockMappingStart "mapping values"
    allowKey (← inBlock)
    removeKey
  indicator .value 1

/-- Read a token that may be a key. -/
def keyLike (p : Scan Unit) : Scan Unit := do
  saveKey
  allowKey false
  p

/-- Read a block scalar, behind which a key may start. -/
def block (fold : Bool) : Scan Unit := do
  allowKey true
  removeKey
  blockScalar fold

/-- Characters that start no plain scalar. -/
def isIndicator (c : Char) : Bool :=
  (text "-?:,[]\x7b\x7d#&*!|>'\"%@\x60").contains c

/-- Whether a plain scalar starts with `c` in front of `next`. -/
def startsPlain (inBlock : Bool) (c next : Char) : Bool :=
  !(isGap c || isIndicator c) ||
    (!isGap next && (c == '-' || (inBlock && (c == '?' || c == ':'))))

/-- Read the token that starts with `c`. -/
def fetch (c : Char) : Scan Unit := do
  let next ← peek 1
  let outside ← inBlock
  let atMargin := (← column) == 0
  if c == stop then streamEnd
  else if c == '%' && atMargin then
    leaveDocument
    directive
  else if c == '-' && atMargin && (← isAtSeparator) then
    leaveDocument
    indicator .documentStart 3
  else if c == '.' && atMargin && (← isAtSeparator) then
    leaveDocument
    indicator .documentEnd 3
  else if c == '[' then flowStart .flowSequenceStart
  else if c == '\x7b' then flowStart .flowMappingStart
  else if c == ']' then flowEnd .flowSequenceEnd
  else if c == '\x7d' then flowEnd .flowMappingEnd
  else if c == ',' then flowEntry
  else if c == '-' && isGap next then blockEntry
  else if c == '?' && (!outside || isGap next) then key
  else if c == ':' && (!outside || isGap next) then value
  else if c == '*' then keyLike (anchor .reference .reference)
  else if c == '&' then keyLike (anchor .anchor .anchor)
  else if c == '!' then keyLike tag
  else if c == '|' && outside then block false
  else if c == '>' && outside then block true
  else if c == '\x27' || c == '\x22' then keyLike (quotedScalar c)
  else if startsPlain outside c next then keyLike plainScalar
  else fail (some (.nextToken, none)) (.cannotStart c)

/-- Read at least one more token. -/
def fetchMore : Scan Unit := do
  let s ← get
  if s.place.index == 0 && s.rest.head? == some '\ufeff' then forward 1
  skipGap (← fuel)
  dropStale
  unwind (← column)
  fetch (← peek 0)

/-- Whether the first token of the queue cannot be told yet. -/
def needsMore : Scan Bool := do
  let s ← get
  if s.done then return false
  else if s.queue.isEmpty then return true
  else
    dropStale
    return (← get).keys.any (·.number == s.taken)

/-- Read tokens until the first one of the queue is known. -/
def settle : Nat → Scan Unit
  | 0 => return
  | n + 1 => do
    if ← needsMore then
      fetchMore
      settle n

/-- The next token. -/
def peekToken : Scan Token := do
  settle ((← fuel) + 1)
  let p ← place
  return (← get).queue.head?.getD ⟨.streamEnd, p, p⟩

/-- Read the next token. -/
def nextToken : Scan Token := do
  let t ← peekToken
  modify fun s => { s with queue := s.queue.drop 1, taken := s.taken + 1 }
  return t

end SmartQuotes.Yaml.Scan
