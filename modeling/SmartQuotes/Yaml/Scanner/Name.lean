import SmartQuotes.Yaml.Scanner.Scalar

/-!
# Anchors, tags and directives
-/

namespace SmartQuotes.Yaml.Scan

/-- Read a name that is not empty and ends as the test asks. -/
def name (activity : Activity) (start : Place) (endsName : Char → Bool) : Scan Text := do
  let refuse (c : Char) : Scan Unit :=
    fail (some (activity, some start)) (.expected "alphabetic or numeric character" c)
  let t := (← get).rest.takeWhile isNameChar
  if t.isEmpty then refuse (← peek 0)
  forward t.length
  let c ← peek 0
  unless endsName c do refuse c
  return t

/-! ## Anchors and aliases -/

/-- Read an anchor or an alias. -/
def anchor (activity : Activity) (kind : Text → TokenKind) : Scan Unit := do
  let start ← place
  forward 1
  let t ← name activity start fun c => isGap c || (text "?:,]\x7d%@\x60").contains c
  push (kind t) start (← place)

/-! ## Tags -/

/-- Characters of tags. -/
def isTagChar (c : Char) : Bool :=
  isNameChar c || (text ";/?:@&=+$,.!~*'()[]").contains c

/-- Read bytes that are written in hexadecimal, each behind a percent sign. -/
def tagBytes (activity : Activity) (start : Place) : Nat → Scan (List UInt8)
  | 0 => return []
  | n + 1 => do
    if (← peek 0) == '%' then
      forward 1
      let digits := ((← ahead 2).takeWhile fun c => (hexDigit? c).isSome)
      if digits.length < 2 then
        fail (some (activity, some start)) (.expected
          "URI escape sequence of 2 hexadecimal numbers" (← peek digits.length))
      forward 2
      let byte := digits.foldl (fun n c => n * 16 + (hexDigit? c).getD 0) 0
      return byte.toUInt8 :: (← tagBytes activity start n)
    else return []

/-- Read the characters that bytes written in hexadecimal stand for. -/
def tagEscapes (activity : Activity) (start : Place) : Scan Text := do
  let mark ← place
  match Utf8.decode (← tagBytes activity start (← fuel)) with
  | .ok t => return t
  | .error f => throw (.at (some (activity, some start)) (.undecodable f) mark)

/-- Read the characters of a tag. -/
def tagChars (activity : Activity) (start : Place) : Nat → Scan Text
  | 0 => return []
  | n + 1 => do
    let t ← takeWhile isTagChar
    if (← peek 0) == '%' then
      let found ← tagEscapes activity start
      return t ++ found ++ (← tagChars activity start n)
    else return t

/-- Read a tag or the rest of one, which may not be empty. -/
def tagUri (start : Place) : Scan Text := do
  let t ← tagChars .tag start (← fuel)
  if t.isEmpty then fail (some (.tagName, some start)) (.expected "URI" (← peek 0))
  return t

/-- Read the handle of a tag, exclamation marks included. -/
def tagHandle (activity : Activity) (start : Place) : Scan Text := do
  let refuse (c : Char) : Scan Unit := fail (some (activity, some start)) (.expected "'!'" c)
  let c ← peek 0
  unless c == '!' do refuse c
  forward 1
  if (← peek 0) == ' ' then return ['!']
  else
    let t ← takeWhile isNameChar
    let c ← peek 0
    unless c == '!' do refuse c
    forward 1
    return '!' :: t ++ ['!']

/-- Read a tag. -/
def tag : Scan Unit := do
  let start ← place
  let c ← peek 1
  let (handle, suffix) ←
    if c == '<' then
      forward 2
      let t ← tagUri start
      let c ← peek 0
      unless c == '>' do fail (some (.tagName, some start)) (.expected "'>'" c)
      forward 1
      pure (none, t)
    else if isGap c then
      forward 1
      pure (none, ['!'])
    else
      let word := ((← get).rest.drop 1).takeWhile fun c => !isSpaceBreakOrEnd c
      let handle ←
        if word.contains '!' then tagHandle .tag start
        else
          forward 1
          pure ['!']
      pure (some handle, ← tagUri start)
  let c ← peek 0
  unless isSpaceBreakOrEnd c do fail (some (.tag, some start)) (.expected "' '" c)
  push (.tag handle suffix) start (← place)

/-! ## Directives -/

/-- Read a number of the version. -/
def versionNumber (start : Place) : Scan Nat := do
  let c ← peek 0
  unless Text.Class.isAsciiDigit c do
    fail (some (.directive, some start)) (.expected "a digit" c)
  let digits ← takeWhile Text.Class.isAsciiDigit
  return digits.foldl (fun n c => n * 10 + (c.toNat - 48)) 0

/-- Read what follows the name of a directive. -/
def directiveValue (start : Place) (name : Text) : Scan Directive := do
  let refuse (what : String) (c : Char) : Scan Unit :=
    fail (some (.directive, some start)) (.expected what c)
  if name == text "YAML" then
    let _ ← takeWhile (· == ' ')
    let major ← versionNumber start
    let c ← peek 0
    unless c == '.' do refuse "a digit or '.'" c
    forward 1
    let minor ← versionNumber start
    let c ← peek 0
    unless isSpaceBreakOrEnd c do refuse "a digit or ' '" c
    return .version major minor
  else if name == text "TAG" then
    let _ ← takeWhile (· == ' ')
    let handle ← tagHandle .directive start
    let c ← peek 0
    unless c == ' ' do refuse "' '" c
    let _ ← takeWhile (· == ' ')
    let t ← tagChars .directive start (← fuel)
    if t.isEmpty then
      fail (some (.directiveUri, some start)) (.expected "URI" (← peek 0))
    let c ← peek 0
    unless isSpaceBreakOrEnd c do refuse "' '" c
    return .handle handle t
  else
    let _ ← takeWhile fun c => !isBreakOrEnd c
    return .other

/-- Read a directive. -/
def directive : Scan Unit := do
  let start ← place
  forward 1
  let t ← name .directive start isSpaceBreakOrEnd
  let d ← directiveValue start t
  let last ← place
  ignoredLine .directive start
  push (.directive d) start last

end SmartQuotes.Yaml.Scan
