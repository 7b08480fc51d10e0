import SmartQuotes.Yaml.Scanner

/-!
# Nodes of a YAML document

A document is a tree of scalars, sequences and mappings with tags. An alias stands for the node that
was anchored under its name. The text has to hold a single document.
-/

namespace SmartQuotes.Yaml

/-! ## Tags -/

/-- The types that are known, and any other tag. -/
inductive Tag
  | null
  | bool
  | int
  | float
  | timestamp
  | merge
  | assignment
  | str
  | seq
  | map
  | other (name : Text)
deriving DecidableEq, Repr

namespace Tag

/-- What the handle of two exclamation marks stands for. -/
def base : Text := text "tag:yaml.org,2002:"

/-- The known tags with their names. -/
def known : List (Tag × String) :=
  [(null, "null"), (bool, "bool"), (int, "int"), (float, "float"), (timestamp, "timestamp"),
    (merge, "merge"), (assignment, "value"), (str, "str"), (seq, "seq"), (map, "map")]

def ofName (name : Text) : Tag :=
  ((known.find? fun t => base ++ text t.2 == name).map (·.1)).getD (other name)

def name : Tag → Text
  | other name => name
  | t => base ++ text ((known.lookup t).getD "")

end Tag

/-- A tree of values; each node knows where it starts. -/
inductive Node
  | scalar (tag : Tag) (t : Text) (start : Place)
  | sequence (tag : Tag) (items : List Node) (start : Place)
  | mapping (tag : Tag) (entries : List (Node × Node)) (start : Place)
deriving Repr

namespace Node

def start : Node → Place
  | scalar _ _ p | sequence _ _ p | mapping _ _ p => p

def tag : Node → Tag
  | scalar t _ _ | sequence t _ _ | mapping t _ _ => t

/-- What a node is in messages. -/
def name : Node → String
  | scalar .. => "scalar"
  | sequence .. => "sequence"
  | mapping .. => "mapping"

end Node

/-! ## Types of plain scalars -/

namespace Plain

def isDigit (c : Char) : Bool := Text.Class.isAsciiDigit c

def isDigitOrLine (c : Char) : Bool := isDigit c || c == '_'

/-- A text without a sign in front. -/
def unsigned : Text → Text
  | '+' :: t => t
  | '-' :: t => t
  | t => t

/-- The words for the two truth values. -/
def isTruth (t : Text) : Bool :=
  ["yes", "Yes", "YES", "no", "No", "NO", "true", "True", "TRUE", "false", "False", "FALSE",
    "on", "On", "ON", "off", "Off", "OFF"].any fun w => text w == t

def isNull (t : Text) : Bool := ["~", "null", "Null", "NULL", ""].any fun w => text w == t

/-- One or two digits of base 60. -/
def isSixty : Text → Bool
  | [d] => isDigit d
  | [c, d] => '0' ≤ c && c ≤ '5' && isDigit d
  | _ => false

/-- Whether the parts between colons are a number in base 60. -/
def isSixties (first : Text → Bool) (t : Text) : Bool :=
  match Text.splitOn (· == ':') t with
  | a :: b :: rest => first a && (b :: rest).all isSixty
  | _ => false

/-- A digit that is no zero, and more digits. -/
def isPositive : Text → Bool
  | c :: t => '1' ≤ c && c ≤ '9' && t.all isDigitOrLine
  | [] => false

def isInt (t : Text) : Bool :=
  let isHex (c : Char) : Bool := (Scan.hexDigit? c).isSome || c == '_'
  match unsigned t with
  | '0' :: 'b' :: r => !r.isEmpty && r.all fun c => c == '0' || c == '1' || c == '_'
  | '0' :: 'x' :: r => !r.isEmpty && r.all isHex
  | ['0'] => true
  | '0' :: r => r.all fun c => ('0' ≤ c && c ≤ '7') || c == '_'
  | r => isPositive r || isSixties isPositive r

/-- An exponent with a sign, or nothing. -/
def isExponent : Text → Bool
  | [] => true
  | e :: s :: t => (e == 'e' || e == 'E') && (s == '+' || s == '-') && !t.isEmpty && t.all isDigit
  | _ => false

/-- Digits with a point behind them and perhaps more. -/
def isDecimal (t : Text) : Bool :=
  match t with
  | c :: r =>
    isDigit c && match r.dropWhile isDigitOrLine with
      | '.' :: r => isExponent (r.dropWhile isDigitOrLine)
      | _ => false
  | [] => false

/-- A point with digits behind it. -/
def isFraction : Text → Bool
  | '.' :: c :: r => isDigit c && isExponent (r.dropWhile isDigitOrLine)
  | _ => false

/-- A number in base 60 with a point. -/
def isSixtiesWithPoint (t : Text) : Bool :=
  let whole := t.takeWhile (· != '.')
  let startsWithDigit (t : Text) : Bool := (t.head?.map isDigit).getD false && t.all isDigitOrLine
  match t.drop whole.length with
  | '.' :: r => r.all isDigitOrLine && isSixties startsWithDigit whole
  | _ => false

def isInfinity (t : Text) : Bool := [".inf", ".Inf", ".INF"].any fun w => text w == t

def isUndefined (t : Text) : Bool := [".nan", ".NaN", ".NAN"].any fun w => text w == t

def isFloat (t : Text) : Bool :=
  isDecimal (unsigned t) || isFraction t || isSixtiesWithPoint (unsigned t) ||
    isInfinity (unsigned t) || isUndefined t

/-- The type of a plain scalar. -/
def tagOf (t : Text) : Tag :=
  if isTruth t then .bool
  else if isFloat t then .float
  else if isInt t then .int
  else if t == text "<<" then .merge
  else if isNull t then .null
  else if Moment.isPlain t then .timestamp
  else if t == text "=" then .assignment
  else .str

end Plain

/-! ## Reading nodes -/

/-- The scanner with the anchored nodes and the handles of the document. -/
structure Reader where
  scanner : Scanner
  anchors : List (Text × Node) := []
  handles : List (Text × Text) := []

abbrev Parse := StateT Reader (Except Fault)

namespace Parse

/-- Let the scanner work. -/
def scan {α : Type} (p : Scan α) : Parse α := fun r => do
  let (a, scanner) ← p r.scanner
  return (a, { r with scanner })

def peek : Parse Token := scan Scan.peekToken

def next : Parse Token := scan Scan.nextToken

def refuse {α : Type} (activity : Option (Activity × Option Place)) (cause : Cause) (p : Place) :
    Parse α := throw (.at activity cause p)

/-- Read a token of the given kind, if it is next. -/
def accept (kind : TokenKind) : Parse (Option Token) := do
  if (← peek).kind == kind then return some (← next) else return none

/-- Whether one of the given kinds is next. -/
def isAt (kinds : List TokenKind) : Parse Bool := return kinds.contains (← peek).kind

/-- An empty scalar. -/
def empty (p : Place) : Node := .scalar .null [] p

/-! ### Properties -/

/-- The anchor and the tag in front of a node with the place of the tag, and where they start. -/
structure Properties where
  anchor : Option Text := none
  tag : Option (Option Text × Text × Place) := none
  start : Option Place := none

/-- Read an anchor and a tag in either order. -/
def properties (p : Properties) : Nat → Parse Properties
  | 0 => return p
  | n + 1 => do
    let t ← peek
    match t.kind with
    | .anchor name =>
      if p.anchor.isSome then return p
      else
        let _ ← next
        properties { p with anchor := some name, start := p.start <|> some t.start } n
    | .tag handle suffix =>
      if p.tag.isSome then return p
      else
        let _ ← next
        properties
          { p with tag := some (handle, suffix, t.start), start := p.start <|> some t.start } n
    | _ => return p

/-- The handles that need not be declared. -/
def standardHandles : List (Text × Text) := [(['!'], ['!']), (['!', '!'], Tag.base)]

/-- The full name of a tag. -/
def tagName (p : Properties) : Parse (Option Text) := do
  match p.tag with
  | none => return none
  | some (none, suffix, _) => return some suffix
  | some (some handle, suffix, place) =>
    match ((← get).handles ++ standardHandles).lookup handle with
    | some full => return some (full ++ suffix)
    | none => refuse (some (.node, p.start)) (.unknownHandle handle) place

/-- The tag of a node: the written one, or that of its kind. -/
def tagOr (name : Option Text) (default : Tag) : Tag :=
  match name with
  | none => default
  | some name => if name == ['!'] then default else .ofName name

/-- Refuse an anchor that is in use. -/
def checkAnchor (anchor : Option Text) (start : Place) : Parse Unit := do
  if let some name := anchor then
    if let some first := (← get).anchors.lookup name then
      refuse (some (.firstAnchor name, some first.start)) .secondOccurrence start

/-- Remember a node under its anchor. -/
def remember (anchor : Option Text) (node : Node) : Parse Unit := do
  if let some name := anchor then
    modify fun r => { r with anchors := (name, node) :: r.anchors }

/-! ### Nodes -/

/-- How nodes inside are read: whether blocks are allowed, and whether the entries of a sequence may
follow without being indented. -/
abbrev Nest := Bool → Bool → Parse Node

/-- Read a node, or nothing in front of the given kinds. -/
def nodeUnless (nest : Nest) (block indentless : Bool) (kinds : List TokenKind) (p : Place) :
    Parse Node := do
  if ← isAt kinds then return empty p else nest block indentless

/-- Read the items of a block sequence. -/
def blockItems (nest : Nest) (start : Place) : Nat → Parse (List Node)
  | 0 => return []
  | n + 1 => do
    match ← accept .blockEntry with
    | some t =>
      let item ← nodeUnless nest true false [.blockEntry, .blockEnd] t.stop
      return item :: (← blockItems nest start n)
    | none =>
      let t ← peek
      unless t.kind == .blockEnd do
        refuse (some (.blockCollection, some start)) (.expectedToken "<block end>" t.kind.name)
          t.start
      let _ ← next
      return []

/-- Read the items of a sequence that is not indented. -/
def indentlessItems (nest : Nest) : Nat → Parse (List Node)
  | 0 => return []
  | n + 1 => do
    match ← accept .blockEntry with
    | some t =>
      let item ← nodeUnless nest true false [.blockEntry, .key, .value, .blockEnd] t.stop
      return item :: (← indentlessItems nest n)
    | none => return []

/-- Read the value of an entry, which may be missing. -/
def entryValue (nest : Nest) (block : Bool) (kinds : List TokenKind) : Parse Node := do
  match ← accept .value with
  | some t => nodeUnless nest block block kinds t.stop
  | none => return empty (← peek).start

/-- Read the entries of a block mapping. -/
def blockEntries (nest : Nest) (start : Place) : Nat → Parse (List (Node × Node))
  | 0 => return []
  | n + 1 => do
    match ← accept .key with
    | some t =>
      let key ← nodeUnless nest true true [.key, .value, .blockEnd] t.stop
      let value ← entryValue nest true [.key, .value, .blockEnd]
      return (key, value) :: (← blockEntries nest start n)
    | none =>
      let t ← peek
      unless t.kind == .blockEnd do
        refuse (some (.blockMapping, some start)) (.expectedToken "<block end>" t.kind.name)
          t.start
      let _ ← next
      return []

/-- Read the comma between the items of a flow collection. -/
def comma (activity : Activity) (what : String) (start : Place) (first : Bool) : Parse Unit := do
  unless first do
    if (← accept .flowEntry).isNone then
      let t ← peek
      refuse (some (activity, some start)) (.gotToken what t.kind.name) t.start

/-- Read the items of a flow sequence; a single entry of a mapping is an item, too. -/
def flowItems (nest : Nest) (start : Place) (first : Bool) : Nat → Parse (List Node)
  | 0 => return []
  | n + 1 => do
    if (← accept .flowSequenceEnd).isSome then return []
    else
      comma .flowSequence "',' or ']'" start first
      match ← accept .key with
      | some t =>
        let key ← nodeUnless nest false false [.value, .flowEntry, .flowSequenceEnd] t.stop
        let value ← entryValue nest false [.flowEntry, .flowSequenceEnd]
        return .mapping .map [(key, value)] t.start :: (← flowItems nest start false n)
      | none =>
        if (← accept .flowSequenceEnd).isSome then return []
        else
          let item ← nest false false
          return item :: (← flowItems nest start false n)

/-- Read the entries of a flow mapping. -/
def flowEntries (nest : Nest) (start : Place) (first : Bool) : Nat → Parse (List (Node × Node))
  | 0 => return []
  | n + 1 => do
    if (← accept .flowMappingEnd).isSome then return []
    else
      comma .flowMapping "',' or '\x7d'" start first
      match ← accept .key with
      | some t =>
        let key ← nodeUnless nest false false [.value, .flowEntry, .flowMappingEnd] t.stop
        let value ← entryValue nest false [.flowEntry, .flowMappingEnd]
        return (key, value) :: (← flowEntries nest start false n)
      | none =>
        if (← accept .flowMappingEnd).isSome then return []
        else
          let key ← nest false false
          let p := (← peek).start
          return (key, empty p) :: (← flowEntries nest start false n)

/-- Read what follows the properties of a node. -/
def content (nest : Nest) (block indentless : Bool) (p : Properties) (name : Option Text)
    (fuel : Nat) : Parse Node := do
  let t ← peek
  let start := p.start.getD t.start
  checkAnchor p.anchor start
  match t.kind with
  | .scalar value plain =>
    let _ ← next
    let isPlain := (plain && name.isNone) || name == some ['!']
    return .scalar (tagOr name (if isPlain then Plain.tagOf value else .str)) value start
  | .flowSequenceStart =>
    let _ ← next
    return .sequence (tagOr name .seq) (← flowItems nest t.start true fuel) start
  | .flowMappingStart =>
    let _ ← next
    return .mapping (tagOr name .map) (← flowEntries nest t.start true fuel) start
  | kind =>
    if indentless && kind == .blockEntry then
      return .sequence (tagOr name .seq) (← indentlessItems nest fuel) start
    else if block && kind == .blockSequenceStart then
      let _ ← next
      return .sequence (tagOr name .seq) (← blockItems nest t.start fuel) start
    else if block && kind == .blockMappingStart then
      let _ ← next
      return .mapping (tagOr name .map) (← blockEntries nest t.start fuel) start
    else if p.anchor.isSome || name.isSome then
      let isPlain := name.isNone || name == some ['!']
      return .scalar (tagOr name (if isPlain then .null else .str)) [] start
    else
      refuse (some (if block then .blockNode else .flowNode, some start))
        (.expectedToken "the node content" kind.name) t.start

/-- Read a node, nested at most so deep. -/
def node : Nat → Nest
  | 0 => fun _ _ => return empty (← peek).start
  | fuel + 1 => fun block indentless => do
    let t ← peek
    match t.kind with
    | .reference name =>
      let _ ← next
      match (← get).anchors.lookup name with
      | some found => return found
      | none => refuse none (.unknownAlias name) t.start
    | _ =>
      let p ← properties {} 2
      let name ← tagName p
      let found ← content (node fuel) block indentless p name (fuel + 1)
      remember p.anchor found
      return found

/-! ### Documents -/

/-- Read the directives of a document. -/
def directives (versioned : Bool) : Nat → Parse Unit
  | 0 => return
  | n + 1 => do
    let t ← peek
    match t.kind with
    | .directive d =>
      let _ ← next
      match d with
      | .version major _ =>
        if versioned then refuse none .repeatedVersion t.start
        else if major != 1 then refuse none .foreignVersion t.start
        else directives true n
      | .handle name tag =>
        if ((← get).handles.lookup name).isSome then refuse none (.repeatedHandle name) t.start
        modify fun r => { r with handles := (name, tag) :: r.handles }
        directives versioned n
      | .other => directives versioned n
    | _ => return

/-- Read the ends of documents. -/
def documentEnds : Nat → Parse Unit
  | 0 => return
  | n + 1 => do
    if (← accept .documentEnd).isSome then documentEnds n

/-- Read the start of a document that is marked; the place of the mark, or nothing at the end. -/
def documentStart (fuel : Nat) : Parse (Option Place) := do
  documentEnds fuel
  let t ← peek
  if t.kind == .streamEnd then return none
  else
    modify fun r => { r with handles := [] }
    directives false fuel
    let s ← peek
    unless s.kind == .documentStart do
      refuse none (.expectedToken "'<document start>'" s.kind.name) s.start
    let _ ← next
    return some t.start

/-- Read the single document of a text, if there is one. -/
def document (fuel : Nat) : Parse (Option Node) := do
  let first ← peek
  let isMarked := match first.kind with
    | .directive _ | .documentStart | .streamEnd => true
    | _ => false
  let root ←
    if isMarked then
      match ← documentStart fuel with
      | none => pure none
      | some _ =>
        let t ← peek
        let isEmpty := match t.kind with
          | .directive _ | .documentStart | .documentEnd | .streamEnd => true
          | _ => false
        if isEmpty then pure (some (empty t.start)) else some <$> node fuel true false
    else some <$> node fuel true false
  match root with
  | none => return none
  | some root =>
    let _ ← accept .documentEnd
    match ← documentStart fuel with
    | none => return some root
    | some place => refuse (some (.singleDocument, some root.start)) .anotherDocument place

end Parse

namespace Node

/-- Whether a character may stand in a text. -/
def isAcceptable (c : Char) : Bool :=
  let n := c.toNat
  n == 9 || n == 10 || n == 13 || (0x20 ≤ n && n ≤ 0x7e) || n == 0x85 ||
    (0xa0 ≤ n && n ≤ 0xfffd) || 0x10000 ≤ n

/-- The root of the document in a text; nothing when the text holds none. -/
def ofText? (t : Text) : Except Fault (Option Node) := do
  let before := (t.takeWhile isAcceptable).length
  match t.drop before with
  | c :: _ => throw (.unacceptable c before)
  | [] =>
    let fuel := 4 * t.length + 16
    let (root, _) ← Parse.document fuel { scanner := { rest := t } }
    return root

end Node

end SmartQuotes.Yaml
