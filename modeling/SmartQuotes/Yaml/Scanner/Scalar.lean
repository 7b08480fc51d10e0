import SmartQuotes.Yaml.Scanner.State

/-!
# Scalars

Plain and quoted scalars fold their lines: a single line end reads as a space, and further ones
stand for themselves. Block scalars keep their lines or fold those that are indented alike.
-/

namespace SmartQuotes.Yaml.Scan

/-- The text of folded line ends: the first one, and those behind it. -/
def folded (first breaks : Text) : Text :=
  if first != ['\n'] then first ++ breaks
  else if breaks.isEmpty then [' ']
  else breaks

/-! ## Quoted scalars -/

/-- The characters that stand for others behind a backslash. -/
def escapes : List (Char × Char) := [
  ('0', '\x00'), ('a', '\x07'), ('b', '\x08'), ('t', '\t'), ('\t', '\t'), ('n', '\n'),
  ('v', '\x0b'), ('f', '\x0c'), ('r', '\r'), ('e', '\x1b'), (' ', ' '), ('\x22', '\x22'),
  ('\\', '\\'), ('/', '/'), ('N', '\u0085'), ('_', '\u00a0'), ('L', '\u2028'), ('P', '\u2029')]

/-- The number of hexadecimal digits behind an escaped letter. -/
def escapeWidths : List (Char × Nat) := [('x', 2), ('u', 4), ('U', 8)]

/-- The value of a hexadecimal digit. -/
def hexDigit? (c : Char) : Option Nat :=
  if '0' ≤ c && c ≤ '9' then some (c.toNat - 48)
  else if 'a' ≤ c && c ≤ 'f' then some (c.toNat - 87)
  else if 'A' ≤ c && c ≤ 'F' then some (c.toNat - 55)
  else none

/-- Read the code point of an escape. -/
def escapedPoint (start : Place) (width : Nat) : Scan Text := do
  let digits := ((← ahead width).takeWhile fun c => (hexDigit? c).isSome)
  if digits.length < width then
    fail (some (.doubleQuotedScalar, some start)) (.expected
      s!"escape sequence of {width} hexadecimal numbers" (← peek digits.length))
  let value := digits.foldl (fun n c => n * 16 + (hexDigit? c).getD 0) 0
  if 0x80000000 ≤ value then throw (.broken .beyondWords)
  if 0x110000 ≤ value then throw (.broken .beyondCharacters)
  forward width
  return [Char.ofNat value]

/-- Read the line ends in a quoted scalar with the blanks around them. -/
def quotedBreaks (start : Place) : Nat → Scan Text
  | 0 => return []
  | n + 1 => do
    if ← isAtSeparator then fail (some (.quotedScalar, some start)) .separatorInside
    let _ ← takeWhile fun c => c == ' ' || c == '\t'
    if isBreak (← peek 0) then
      let first ← lineBreak
      return first ++ (← quotedBreaks start n)
    else return []

/-- Read the blanks in a quoted scalar. -/
def quotedSpaces (start : Place) : Scan Text := do
  let spaces ← takeWhile fun c => c == ' ' || c == '\t'
  let c ← peek 0
  if c == stop then fail (some (.quotedScalar, some start)) .endInside
  else if isBreak c then
    let first ← lineBreak
    return folded first (← quotedBreaks start (← fuel))
  else return spaces

/-- Read the characters of a quoted scalar up to a blank or the quote. -/
def quotedWord (double : Bool) (start : Place) : Nat → Scan Text
  | 0 => return []
  | n + 1 => do
    let plain ← takeWhile fun c => !(isGap c || c == '\x27' || c == '\x22' || c == '\\')
    let c ← peek 0
    if !double && c == '\x27' && (← peek 1) == '\x27' then
      forward 2
      return plain ++ '\x27' :: (← quotedWord double start n)
    else if (double && c == '\x27') || (!double && (c == '\x22' || c == '\\')) then
      forward 1
      return plain ++ c :: (← quotedWord double start n)
    else if double && c == '\\' then
      forward 1
      let c ← peek 0
      let found ← match escapes.lookup c, escapeWidths.lookup c with
        | some d, _ => do
          forward 1
          pure [d]
        | none, some width => do
          forward 1
          escapedPoint start width
        | none, none => do
          if isBreak c then
            let _ ← lineBreak
            quotedBreaks start (← fuel)
          else fail (some (.doubleQuotedScalar, some start)) (.unknownEscape c)
      return plain ++ found ++ (← quotedWord double start n)
    else return plain

/-- Read the rest of a quoted scalar up to its quote. -/
def quotedRest (quote : Char) (start : Place) : Nat → Scan Text
  | 0 => return []
  | n + 1 => do
    if (← peek 0) == quote then return []
    else
      let spaces ← quotedSpaces start
      let word ← quotedWord (quote == '\x22') start (← fuel)
      return spaces ++ word ++ (← quotedRest quote start n)

/-- Read a quoted scalar. -/
def quotedScalar (quote : Char) : Scan Unit := do
  let start ← place
  forward 1
  let first ← quotedWord (quote == '\x22') start (← fuel)
  let more ← quotedRest quote start (← fuel)
  forward 1
  push (.scalar (first ++ more) false) start (← place)

/-! ## Plain scalars -/

/-- Read line ends and spaces behind a plain scalar; nothing when documents are separated there. -/
def plainBreaks : Nat → Scan (Option Text)
  | 0 => return some []
  | n + 1 => do
    let c ← peek 0
    if c == ' ' then
      forward 1
      plainBreaks n
    else if isBreak c then
      let first ← lineBreak
      if ← isAtSeparator then return none
      else return (← plainBreaks n).map (first ++ ·)
    else return some []

/-- Read the spaces in a plain scalar. -/
def plainSpaces : Scan Text := do
  let spaces ← takeWhile (· == ' ')
  if isBreak (← peek 0) then
    let first ← lineBreak
    allowKey true
    if ← isAtSeparator then return []
    else match ← plainBreaks (← fuel) with
      | none => return []
      | some breaks => return folded first breaks
  else return spaces

/-- The characters of a plain scalar up to a blank or an indicator. -/
def plainWord (inFlow : Bool) : Text → Text
  | [] => []
  | c :: t =>
    let next := t.head?.getD stop
    let isIndicator (c : Char) : Bool := inFlow && (text ",?[]\x7b\x7d").contains c
    let endsByColon := c == ':' && (isGap next || (inFlow && (text ",[]\x7b\x7d").contains next))
    if isGap c || endsByColon || isIndicator c then []
    else c :: plainWord inFlow t

/-- Read a plain scalar behind the given spaces: its text and where it ends. -/
def plainFrom (indent : Int) (spaces : Text) (last : Place) : Nat → Scan (Text × Place)
  | 0 => return ([], last)
  | n + 1 => do
    let s ← get
    let word := plainWord (s.level != 0) s.rest
    if word.isEmpty || s.rest.head? == some '#' then return ([], last)
    else
      allowKey false
      forward word.length
      let last ← place
      let next ← plainSpaces
      let outside := (← inBlock) && (← column) < indent
      if next.isEmpty || (← peek 0) == '#' || outside then return (spaces ++ word, last)
      else
        let (more, last) ← plainFrom indent next last n
        return (spaces ++ word ++ more, last)

/-- Read a plain scalar. -/
def plainScalar : Scan Unit := do
  let start ← place
  let indent := (← get).indent + 1
  let (t, last) ← plainFrom indent [] start (← fuel)
  push (.scalar t true) start last

/-! ## Block scalars -/

/-- What becomes of the line ends at the end of a block scalar. -/
inductive Chomping
  | strip
  | clip
  | keep
deriving DecidableEq, Repr

/-- Read a sign, if there is one. -/
def chomping? : Scan (Option Chomping) := do
  match ← peek 0 with
  | '+' => forward 1; return some .keep
  | '-' => forward 1; return some .strip
  | _ => return none

/-- Read a digit, if there is one. -/
def increment? (start : Place) : Scan (Option Nat) := do
  let c ← peek 0
  if Text.Class.isAsciiDigit c then
    if c == '0' then fail (some (.blockScalar, some start)) .zeroIndentation
    forward 1
    return some (c.toNat - 48)
  else return none

/-- Read the signs behind the indicator of a block scalar. -/
def blockIndicators (start : Place) : Scan (Chomping × Option Nat) := do
  let first ← chomping?
  let increment ← increment? start
  let second ← if first.isNone && increment.isSome then chomping? else pure none
  let c ← peek 0
  unless isSpaceBreakOrEnd c do
    fail (some (.blockScalar, some start)) (.expected "chomping or indentation indicators" c)
  return ((first <|> second).getD .clip, increment)

/-- Read the rest of a line that may hold nothing but a comment. -/
def ignoredLine (activity : Activity) (start : Place) : Scan Unit := do
  let _ ← takeWhile (· == ' ')
  if (← peek 0) == '#' then
    let _ ← takeWhile fun c => !isBreakOrEnd c
  let c ← peek 0
  unless isBreakOrEnd c do
    fail (some (activity, some start)) (.expected "a comment or a line break" c)
  let _ ← lineBreak

/-- Read empty lines in front of a block scalar: the line ends, the deepest column reached, and
where the last of them ends. -/
def leadingLines (deepest : Nat) (last : Place) : Nat → Scan (Text × Nat × Place)
  | 0 => return ([], deepest, last)
  | n + 1 => do
    let c ← peek 0
    if c == ' ' then
      forward 1
      leadingLines (max deepest (← column)) last n
    else if isBreak c then
      let first ← lineBreak
      let (more, deepest, last) ← leadingLines deepest (← place) n
      return (first ++ more, deepest, last)
    else return ([], deepest, last)

/-- Read spaces up to a column. -/
def spacesUpTo (indent : Nat) : Scan Unit := do
  let spaces := ((← get).rest.takeWhile (· == ' ')).length
  forward (min spaces (indent - (← column)))

/-- Read empty lines in a block scalar of the given indentation. -/
def emptyLines (indent : Nat) (last : Place) : Nat → Scan (Text × Place)
  | 0 => return ([], last)
  | n + 1 => do
    spacesUpTo indent
    if isBreak (← peek 0) then
      let first ← lineBreak
      let (more, last) ← emptyLines indent (← place) n
      return (first ++ more, last)
    else return ([], last)

/-- Read the lines of a block scalar behind some empty ones: their text, the last line end, and the
empty lines behind it. -/
def blockLines (fold : Bool) (indent : Nat) (breaks : Text) (last : Place) :
    Nat → Scan (Text × Text × Text × Place)
  | 0 => return ([], [], breaks, last)
  | n + 1 => do
    let isBlankChar (c : Char) : Bool := c == ' ' || c == '\t'
    let startsWithBlank := isBlankChar (← peek 0)
    let line ← takeWhile fun c => !isBreakOrEnd c
    let first ← lineBreak
    let (next, last) ← emptyLines indent (← place) (← fuel)
    let c ← peek 0
    if (← column) == indent && c != stop then
      let joined :=
        if fold && first == ['\n'] && !startsWithBlank && !isBlankChar c then
          if next.isEmpty then [' '] else []
        else first
      let (more, first, next, last) ← blockLines fold indent next last n
      return (breaks ++ line ++ joined ++ more, first, next, last)
    else return (breaks ++ line, first, next, last)

/-- Read a block scalar. -/
def blockScalar (fold : Bool) : Scan Unit := do
  let start ← place
  forward 1
  let (chomping, increment) ← blockIndicators start
  ignoredLine .blockScalar start
  let least := max 1 ((← get).indent + 1).toNat
  let (indent, breaks, last) ← match increment with
    | none => do
      let (breaks, deepest, last) ← leadingLines 0 (← place) (← fuel)
      pure (max least deepest, breaks, last)
    | some k => do
      let indent := least + k - 1
      let (breaks, last) ← emptyLines indent (← place) (← fuel)
      pure (indent, breaks, last)
  let (body, first, breaks, last) ←
    if (← column) == indent && (← peek 0) != stop then
      blockLines fold indent breaks last (← fuel)
    else pure ([], [], breaks, last)
  let ending := match chomping with
    | .strip => []
    | .clip => first
    | .keep => first ++ breaks
  push (.scalar (body ++ ending) false) start last

end SmartQuotes.Yaml.Scan
