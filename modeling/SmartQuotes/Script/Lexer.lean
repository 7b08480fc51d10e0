import SmartQuotes.Script.Cursor
import SmartQuotes.Script.Pattern
import SmartQuotes.Script.Reference
import SmartQuotes.Script.Token

/-!
# Reading tokens

`lex` reads the token at a cursor that stands behind a gap. Whether a closing brace goes on with a
template depends on the braces that are open, so these are handed from token to token. What follows
a slash is read by `lexRegularExpression` when the grammar expects an operand, and the tags of
elements have tokens of their own, read by `lexElement`.
-/

namespace SmartQuotes.Script

open Text.Class

/-! ## Escapes -/

/-- The character of a number; a surrogate, which is none, is shown by a replacement. -/
def characterOf (n : Nat) : Char := if n.isValidChar then Char.ofNat n else '\ufffd'

/-- The number written by the hexadecimal digits in front, at most `limit` of them, behind the
number `value`; and how many digits there are. -/
def hexRun (limit value : Nat) (t : Text) : Nat × Nat :=
  match limit, t with
  | limit + 1, c :: t =>
    match hexValue? c with
    | some d => let (v, k) := hexRun limit (16 * value + d) t; (v, k + 1)
    | none => (value, 0)
  | _, _ => (value, 0)

/-- A code point in braces, the opening one already read: its number and the characters it takes. -/
def codePoint (t : Text) (index line : Nat) : Except SyntaxError (Nat × Nat) :=
  let (value, k) := hexRun t.length 0 t
  match t.drop k with
  | [] => .error ⟨index + k, line, .illegalCharacter⟩
  | c :: _ =>
    if c = '\x7d' then
      if k = 0 then .error ⟨index, line, .illegalCharacter⟩
      else if value > 0x10ffff then .error ⟨index + k + 1, line, .illegalCharacter⟩
      else .ok (value, k + 1)
    else .error ⟨index + k + 1, line, .illegalCharacter⟩

/-- The value of an octal escape that starts with `digit`, and the further digits that it takes. -/
def octalEscape (digit : Char) (t : Text) : Nat × Nat :=
  let first := digit.toNat - 48
  match t with
  | a :: rest =>
    if isOctalDigit a then
      let second := 8 * first + (a.toNat - 48)
      match rest with
      | b :: _ =>
        if first ≤ 3 && isOctalDigit b then (8 * second + (b.toNat - 48), 2) else (second, 1)
      | [] => (second, 1)
    else (first, 0)
  | [] => (first, 0)

/-- The characters that a letter behind a backslash stands for. -/
def simpleEscape (c : Char) : Char :=
  match c with
  | 'n' => '\n'
  | 'r' => '\r'
  | 't' => '\t'
  | 'b' => '\x08'
  | 'v' => '\x0b'
  | 'f' => '\x0c'
  | c => c

/-- An escape of a string behind its backslash and the character `c`: the character it stands for,
the further characters it takes, and whether it is a legacy octal one. -/
def stringEscape (c : Char) (t : Text) (index line : Nat) :
    Except SyntaxError (Char × Nat × Bool) :=
  if c = 'u' then
    match t with
    | '\x7b' :: rest => do
      let (value, k) ← codePoint rest (index + 1) line
      return (characterOf value, k + 1, false)
    | _ =>
      let (value, k) := hexRun 4 0 t
      if k < 4 then .error ⟨index + k, line, .illegalCharacter⟩
      else .ok (characterOf value, 4, false)
  else if c = 'x' then
    let (value, k) := hexRun 2 0 t
    if k < 2 then .error ⟨index + k, line, .hexEscape⟩ else .ok (Char.ofNat value, 2, false)
  else if c = '8' || c = '9' then .error ⟨index, line, .illegalCharacter⟩
  else if isOctalDigit c then
    let (value, k) := octalEscape c t
    .ok (Char.ofNat value, k, c != '0' || k != 0)
  else .ok (simpleEscape c, 0, false)

/-- The further characters that an escape of a template takes. -/
def templateEscape (c : Char) (t : Text) (index line : Nat) : Except SyntaxError Nat :=
  if c = 'u' then
    match t with
    | '\x7b' :: rest => do
      let (_, k) ← codePoint rest (index + 1) line
      return k + 1
    | _ => .ok (if (hexRun 4 0 t).2 < 4 then 0 else 4)
  else if c = 'x' then
    let (_, k) := hexRun 2 0 t
    if k < 2 then .error ⟨index + k, line, .hexEscape⟩ else .ok 2
  else if c = '0' then
    match t with
    | d :: _ => if isAsciiDigit d then .error ⟨index, line, .templateOctal⟩ else .ok 0
    | [] => .ok 0
  else if isOctalDigit c then .error ⟨index, line, .templateOctal⟩
  else .ok 0

/-! ## Words -/

/-- The code points of a word and the cursor behind it. A word may be spelled with escapes, those in
braces for any code point; `first` says that its first character is still to come. -/
def word (first : Bool) (t : Text) (index line : Nat) : Except SyntaxError (List Nat × Cursor) :=
  match t with
  | [] => .ok ([], ⟨[], index, line⟩)
  | '\\' :: 'u' :: '\x7b' :: t => do
    let (value, k) ← codePoint t (index + 3) line
    let (more, stop) ← word false (t.drop k) (index + 3 + k) line
    return (value :: more, stop)
  | '\\' :: 'u' :: t =>
    let (value, k) := hexRun 4 0 t
    let c := Char.ofNat value
    if k < 4 || c = '\\' || !(if first then isNameStart c else isNamePart c) then
      .error ⟨index + 2 + k, line, .illegalCharacter⟩
    else do
      let (more, stop) ← word false (t.drop k) (index + 2 + k) line
      return (value :: more, stop)
  | '\\' :: _ => .error ⟨index + 1, line, .illegalCharacter⟩
  | c :: t =>
    if isNamePart c then do
      let (more, stop) ← word false t (index + 1) line
      return (c.toNat :: more, stop)
    else .ok ([], ⟨c :: t, index, line⟩)
termination_by t.length

/-- The word at a cursor. A keyword may not be spelled with escapes. -/
def lexWord (c : Cursor) : Except SyntaxError (Token × Cursor) := do
  let (points, stop) ← word true c.rest c.index c.line
  let value := String.ofList (points.map characterOf)
  let kind := Token.kindOfWord value
  if kind != .identifier && c.index + points.length != stop.index then c.refuse .escapedKeyword
  else return ({ kind, value, start := c.index, stop := stop.index, line := c.line, points }, stop)

/-! ## Numbers -/

/-- Refuse a number that runs on into a word or a digit. -/
def endNumber (c : Cursor) (n : Nat) (octal : Bool) : Except SyntaxError (Token × Cursor) :=
  let stop := c.skip n
  let token : Token :=
    { kind := .numeric, value := String.ofList (c.rest.take n), start := c.index,
      stop := stop.index, line := c.line, octal }
  match stop.rest with
  | [] => .ok (token, stop)
  | d :: _ => if isNameStart d || isAsciiDigit d then stop.refuse .illegalCharacter
    else .ok (token, stop)

/-- A number behind a two-character mark of its base. -/
def radixNumber (c : Cursor) (isDigit : Char → Bool) : Except SyntaxError (Token × Cursor) :=
  let n := ((c.rest.drop 2).takeWhile isDigit).length
  if n = 0 then (c.skip 2).refuse .illegalCharacter else endNumber c (n + 2) false

/-- The length of the digits in front. -/
def digitRun (t : Text) : Nat := (t.takeWhile isAsciiDigit).length

/-- A decimal number with its fraction and exponent. -/
def decimalNumber (c : Cursor) : Except SyntaxError (Token × Cursor) :=
  let whole := digitRun c.rest
  let n := match c.rest.drop whole with
    | '.' :: t => whole + 1 + digitRun t
    | _ => whole
  match c.rest.drop n with
  | e :: t =>
    if e = 'e' || e = 'E' then
      let sign := match t with
        | s :: _ => if s = '+' || s = '-' then 1 else 0
        | [] => 0
      let power := digitRun (t.drop sign)
      if power = 0 then (c.skip (n + 1 + sign)).refuse .illegalCharacter
      else endNumber c (n + 1 + sign + power) false
    else endNumber c n false
  | [] => endNumber c n false

/-- The number at a cursor. A number that starts with a zero and has no digit above seven is
octal. -/
def lexNumber (c : Cursor) : Except SyntaxError (Token × Cursor) :=
  match c.rest with
  | '0' :: m :: t =>
    if m = 'x' || m = 'X' then radixNumber c isHexDigit
    else if m = 'b' || m = 'B' then radixNumber c (fun d => d = '0' || d = '1')
    else if m = 'o' || m = 'O' then radixNumber c isOctalDigit
    else if isOctalDigit m then
      match t.dropWhile isOctalDigit with
      | d :: _ =>
        if d = '8' || d = '9' then decimalNumber c
        else endNumber c (2 + (t.takeWhile isOctalDigit).length) true
      | [] => endNumber c (2 + t.length) true
    else decimalNumber c
  | _ => decimalNumber c

/-! ## Strings and templates -/

/-- The rest of a string that started at `start`: its value, whether it holds a legacy octal escape
and the cursor behind it. -/
def stringBody (quote : Char) (start : Nat) (t : Text) (index line : Nat) (octal : Bool) :
    Except SyntaxError (Text × Bool × Cursor) :=
  match t with
  | [] => .error ⟨start, line, .illegalCharacter⟩
  | ['\\'] => .error ⟨start, line, .illegalCharacter⟩
  | '\\' :: '\r' :: '\n' :: t => stringBody quote start t (index + 3) (line + 1) octal
  | '\\' :: c :: t =>
    if isLineEnd c then stringBody quote start t (index + 2) (line + 1) octal
    else do
      let (value, k, legacy) ← stringEscape c t (index + 2) line
      let (more, octal, stop) ←
        stringBody quote start (t.drop k) (index + 2 + k) line (octal || legacy)
      return (value :: more, octal, stop)
  | c :: t =>
    if c = quote then .ok ([], octal, ⟨t, index + 1, line⟩)
    else if isLineEnd c then .error ⟨start, line, .illegalCharacter⟩
    else do
      let (more, octal, stop) ← stringBody quote start t (index + 1) line octal
      return (c :: more, octal, stop)
termination_by t.length

/-- The string at a cursor, whose first character is its quote. -/
def lexString (quote : Char) (c : Cursor) : Except SyntaxError (Token × Cursor) := do
  let (value, octal, stop) ← stringBody quote c.index (c.rest.drop 1) (c.index + 1) c.line false
  return ({ kind := .string, value := String.ofList value, start := c.index, stop := stop.index,
            line := stop.line, octal }, stop)

/-- The rest of a template part: whether a backquote ends it, and the cursor behind it. -/
def templateBody (t : Text) (index line : Nat) : Except SyntaxError (Bool × Cursor) :=
  match t with
  | [] => .error ⟨index, line, .illegalCharacter⟩
  | ['\\'] => .error ⟨index + 2, line, .illegalCharacter⟩
  | '\x60' :: t => .ok (true, ⟨t, index + 1, line⟩)
  | '$' :: '\x7b' :: t => .ok (false, ⟨t, index + 2, line⟩)
  | '\\' :: '\r' :: '\n' :: t => templateBody t (index + 3) (line + 1)
  | '\\' :: c :: t =>
    if isLineEnd c then templateBody t (index + 2) (line + 1)
    else do
      let k ← templateEscape c t (index + 2) line
      templateBody (t.drop k) (index + 2 + k) line
  | '\r' :: '\n' :: t => templateBody t (index + 2) (line + 1)
  | c :: t => templateBody t (index + 1) (if isLineEnd c then line + 1 else line)
termination_by t.length

/-- A token with what is open behind it: for each open brace whether it belongs to a template. -/
structure Lexed where
  token : Token
  cursor : Cursor
  braces : List Bool

/-- The part of a template at a cursor, whose first character is a backquote or a closing brace. -/
def lexTemplate (braces : List Bool) (c : Cursor) : Except SyntaxError Lexed := do
  let opens := c.rest.head? == some '\x60'
  let (closes, stop) ← templateBody (c.rest.drop 1) (c.index + 1) c.line
  let length := stop.index - c.index - (if closes then 2 else 3)
  let token : Token :=
    { kind := .template, value := String.ofList ((c.rest.drop 1).take length), start := c.index,
      stop := stop.index, line := stop.line, opens, closes }
  let braces := if closes then braces else true :: braces
  return ⟨token, stop, if opens then braces else braces.drop 1⟩

/-! ## Punctuators -/

/-- The punctuators of more than one character, longer ones first, and those of one character that
they may start with. -/
def operators : List String :=
  [">>>=", "===", "!==", ">>>", "<<=", ">>=", "**=", "&&", "||", "==", "!=", "+=", "-=", "*=",
   "/=", "++", "--", "<<", ">>", "&=", "|=", "^=", "%=", "<=", ">=", "=>", "**", "<", ">", "=",
   "!", "+", "-", "*", "%", "&", "|", "^", "/"]

/-- The punctuator at a cursor. -/
def lexPunctuator (braces : List Bool) (c : Cursor) : Except SyntaxError Lexed :=
  let take (s : String) (braces : List Bool) : Except SyntaxError Lexed :=
    let stop := c.skip s.length
    .ok ⟨{ kind := .punctuator, value := s, start := c.index, stop := stop.index, line := c.line },
      stop, braces⟩
  match c.rest with
  | '\x7b' :: _ => take "\x7b" (false :: braces)
  | '\x7d' :: _ => take "\x7d" (braces.drop 1)
  | '.' :: '.' :: '.' :: _ => take "..." braces
  | d :: _ =>
    if [')', '(', ';', ',', '[', ']', ':', '?', '~', '.'].contains d then
      take (String.singleton d) braces
    else match operators.find? (fun s => s.toList.isPrefixOf c.rest) with
      | some s => take s braces
      | none => c.refuse .illegalCharacter
  | [] => c.refuse .illegalCharacter

/-! ## Tokens -/

/-- The token at a cursor. -/
def lex (braces : List Bool) (c : Cursor) : Except SyntaxError Lexed :=
  let plain (r : Except SyntaxError (Token × Cursor)) : Except SyntaxError Lexed := do
    let (token, cursor) ← r
    return ⟨token, cursor, braces⟩
  match c.rest with
  | [] =>
    .ok ⟨{ kind := .endOfInput, value := "", start := c.index, stop := c.index, line := c.line },
      c, braces⟩
  | d :: t =>
    if isNameStart d then plain (lexWord c)
    else if d = '\x27' || d = '\x22' then plain (lexString d c)
    else if isAsciiDigit d then plain (lexNumber c)
    else if d = '.' && (t.head?.map isAsciiDigit).getD false then plain (lexNumber c)
    else if d = '\x60' || (d = '\x7d' && braces.head?.getD false) then lexTemplate braces c
    else lexPunctuator braces c

/-- The length of a regular expression behind its opening slash, with the closing one. -/
def expressionBody (inClass : Bool) (t : Text) (index line : Nat) : Except SyntaxError Nat :=
  match t with
  | [] => .error ⟨index, line, .unterminatedRegularExpression⟩
  | ['\\'] => .error ⟨index + 2, line, .unterminatedRegularExpression⟩
  | '\\' :: c :: t =>
    if isLineEnd c then .error ⟨index + 2, line, .unterminatedRegularExpression⟩
    else do return (← expressionBody inClass t (index + 2) line) + 2
  | c :: t =>
    if isLineEnd c then .error ⟨index + 1, line, .unterminatedRegularExpression⟩
    else if c = '/' && !inClass then .ok 1
    else do
      return (← expressionBody (if inClass then c != ']' else c == '[') t (index + 1) line) + 1

/-- Move past the flags of a regular expression. An escape is no flag. -/
def skipFlags (t : Text) (index line : Nat) : Except SyntaxError Cursor :=
  match t with
  | [] => .ok ⟨[], index, line⟩
  | ['\\'] => .ok ⟨[], index + 1, line⟩
  | '\\' :: 'u' :: t =>
    .error ⟨if (hexRun 4 0 t).2 < 4 then index + 2 else index + 6, line, .illegalCharacter⟩
  | '\\' :: _ => .error ⟨index + 1, line, .illegalCharacter⟩
  | c :: t => if isNamePart c then skipFlags t (index + 1) line else .ok ⟨c :: t, index, line⟩

/-- The regular expression at a cursor, whose first character is its slash. -/
def lexRegularExpression (c : Cursor) : Except SyntaxError (Token × Cursor) := do
  let n ← expressionBody false (c.rest.drop 1) (c.index + 1) c.line
  let body := (c.rest.drop 1).take (n - 1)
  let stop ← skipFlags (c.rest.drop (n + 1)) (c.index + n + 1) c.line
  if Pattern.isValid body then
    return ({ kind := .regularExpression, value := "", start := c.index, stop := stop.index,
              line := c.line }, stop)
  else stop.refuse .regularExpression

/-! ## Elements -/

/-- The characters that are tokens by themselves in a tag. -/
def isTagPunctuator (c : Char) : Bool :=
  ['<', '>', '/', ':', '=', '\x7b', '\x7d'].contains c

/-- The token of a tag at a cursor. Strings have no escapes and may span lines, and a hyphen may
continue a name. -/
def lexElement (braces : List Bool) (c : Cursor) : Except Halt Lexed :=
  let take (kind : Token.Kind) (n : Nat) : Except Halt Lexed :=
    let stop := c.skip n
    let token : Token :=
      { kind, value := String.ofList (c.rest.take n), start := c.index, stop := stop.index,
        line := c.line }
    .ok ⟨token, stop, braces⟩
  match c.rest with
  | [] => (lex braces c).mapError .refused
  | d :: t =>
    if isTagPunctuator d then take .punctuator 1
    else if d = '\x27' || d = '\x22' then
      let inside := t.takeWhile (· != d)
      match Reference.stop? inside with
      | some b => .error (.broken b)
      | none => take .string (inside.length + if inside.length < t.length then 2 else 1)
    else if d = '.' then take .punctuator (if ['.', '.'].isPrefixOf t then 3 else 1)
    else if d = '\x60' then take .template 0
    else if isNameStart d && d != '\\' then
      take .elementName ((t.takeWhile fun e => (isNamePart e && e != '\\') || e == '-').length + 1)
    else (lex braces c).mapError .refused

/-- Move to the next tag or expression of the children of an element. -/
def skipElementText (t : Text) (index line : Nat) : Cursor :=
  match t with
  | [] => ⟨[], index, line⟩
  | '\r' :: '\n' :: t => skipElementText t (index + 2) (line + 1)
  | c :: t =>
    if c = '\x7b' || c = '<' then ⟨c :: t, index, line⟩
    else skipElementText t (index + 1) (if isLineEnd c then line + 1 else line)

end SmartQuotes.Script
