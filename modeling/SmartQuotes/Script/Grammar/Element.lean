import SmartQuotes.Script.Parser

/-!
# Elements

Elements in the notation of markup, as expressions. Inside their tags the tokens are read on the
spot, not one ahead; an embedded expression returns to reading ahead, and its closing brace is read
again as a token of the tag.
-/

namespace SmartQuotes.Script.Grammar

open SmartQuotes.Script.Parser

variable {σ : Source}

/-! ## Tokens of tags -/

/-- Move past a gap and say where. -/
def skipGap : Parser σ Cursor := fun s =>
  match hgap : s.cursor.skipGap s.sloppy with
  | .error e => .error (.refused e)
  | .ok cursor => .ok ⟨cursor, s.skipTo (s.follows_gap hgap), s.since_self⟩

/-- Read the next token of a tag. -/
def nextInTag : Parser σ Token := fun s =>
  match hgap : s.cursor.skipGap s.sloppy with
  | .error e => .error (.refused e)
  | .ok mark =>
    match hlex : lexElement s.braces mark with
    | .error e => .error e
    | .ok l =>
      .ok ⟨l.token, { s.take (s.follows_gap hgap) (follows_lexElement hlex) with
        braces := l.braces }, s.since_self⟩

/-- Whether the given punctuator is next in a tag. -/
def isAtTag (value : String) : Parser σ Bool := fun s =>
  match s.cursor.skipGap s.sloppy with
  | .error e => .error (.refused e)
  | .ok cursor =>
    match lexElement s.braces cursor with
    | .error e => .error e
    | .ok l =>
      .ok ⟨l.token.isPunctuator value, { s with braces := l.braces }, s.since_self⟩

/-- Read the given punctuator of a tag. -/
def expectInTag (value : String) : Parser σ Unit := do
  let t ← nextInTag
  unless t.isPunctuator value do unexpected t

/-- Go back to the start of the token that has been read ahead. -/
def rewind : Parser σ Unit := fun s => .ok ⟨(), s.rewind, s.since_self⟩

/-- Read an expression in braces behind its opening brace, up to and with the closing one. -/
def embedded (nest : Nest σ) : Parser σ Unit := do
  let _ ← nest .assignment
  rewind
  expectInTag "\x7d"

/-! ## Tags -/

/-- Read a name without a prefix. -/
def elementWord : Parser σ String := do
  let t ← nextInTag
  unless t.kind == .elementName do unexpected t
  return t.value

/-- Read the name of an element, which may have a prefix or be the member of an object. -/
def elementName : Parser σ String := do
  let first ← elementWord
  if ← isAtTag ":" then
    expectInTag ":"
    return first ++ ":" ++ (← elementWord)
  else
    iterate first fun name => do
      if ← isAtTag "." then
        expectInTag "."
        return .inl (name ++ "." ++ (← elementWord))
      else return .inr name

/-- Read the value of an attribute. -/
def attributeValue (nest : Nest σ) : Parser σ Unit := do
  if ← isAtTag "\x7b" then
    expectInTag "\x7b"
    let _ ← next
    if ← isAt "\x7d" then failAhead .emptyAttribute
    embedded nest
  else if ← isAtTag "<" then
    let _ ← nest .element
  else
    let start := (← skipGap).index
    let t ← nextInTag
    unless t.kind == .string do unexpected t
    record .literal Kind.isPlain_literal start

/-- Read an attribute. -/
def tagAttribute (nest : Nest σ) : Parser σ Unit := do
  if ← isAtTag "\x7b" then
    expectInTag "\x7b"
    expectInTag "..."
    let _ ← next
    embedded nest
  else
    let _ ← elementWord
    if ← isAtTag ":" then
      expectInTag ":"
      let _ ← elementWord
    if ← isAtTag "=" then
      expectInTag "="
      attributeValue nest

/-- Read the rest of a start tag behind its bracket: the name, and whether the element ends here. -/
def startTag (nest : Nest σ) : Parser σ (String × Bool) := do
  let name ← elementName
  let _ ← manyUntil (return (← isAtTag "/") || (← isAtTag ">")) (tagAttribute nest)
  let closed ← isAtTag "/"
  if closed then expectInTag "/"
  expectInTag ">"
  return (name, closed)

/-! ## Children -/

/-- Read an expression in braces among the children; it may be empty. -/
def childExpression (nest : Nest σ) : Parser σ Unit := do
  let _ ← skipGap
  expectInTag "\x7b"
  if ← isAtTag "\x7d" then
    let _ ← skipGap
    expectInTag "\x7d"
  else
    let _ ← next
    embedded nest

/-- Read text up to a tag or an expression. -/
def readText : Parser σ Unit := fun s =>
  let start := s.cursor
  let stop := skipElementText start.rest start.index start.line
  have h : stop.Follows start.rest start.index := follows_skipElementText _ _ _
  .ok ⟨(), s.take (.start _ _ _) h, s.since_self⟩

/-- Read text up to a tag or an expression, and record it. -/
def childText : Parser σ Unit := do
  let start := (← state).cursor
  readText
  if start.index < (← state).cursor.index then record .elementText Kind.isPlain_elementText start.index

/-- Read texts and expressions up to a tag or the end. -/
def children (nest : Nest σ) : Parser σ Unit :=
  iterate () fun _ => do
    if (← state).cursor.rest.isEmpty then return .inr ()
    childText
    if (← state).cursor.rest.head? == some '\x7b' then
      childExpression nest
      return .inl ()
    else return .inr ()

/-- Read the children of an element and its end tag. `enclosing` are the names of the elements that
are open around it. At the end of the text the elements still open are closed without a tag. -/
def elementRest (nest : Nest σ) (name : String) : Parser σ Unit :=
  iterate (name, ([] : List String)) fun (name, enclosing) => do
    if (← state).cursor.rest.isEmpty then return .inr ()
    children nest
    expectInTag "<"
    if ← isAtTag "/" then
      expectInTag "/"
      let closing ← elementName
      expectInTag ">"
      unless closing == name do failAhead (.closingTag name)
      match enclosing with
      | outer :: rest => return .inl (outer, rest)
      | [] => return .inr ()
    else
      let (inner, closed) ← startTag nest
      return .inl (if closed then (name, enclosing) else (inner, name :: enclosing))

/-- Read an element. -/
def element (nest : Nest σ) : Parser σ Unit := do
  let _ ← skipGap
  expectInTag "<"
  let (name, closed) ← startTag nest
  unless closed do elementRest nest name

/-- Read an element whose bracket has been read ahead. -/
def elementExpression (nest : Nest σ) : Parser σ Form := do
  rewind
  element nest
  let _ ← next
  return .other

end SmartQuotes.Script.Grammar
