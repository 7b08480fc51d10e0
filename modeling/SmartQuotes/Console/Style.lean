import SmartQuotes.Console.Style.Colors
import SmartQuotes.Text.Class

/-!
# Styles

A style is named by words: attributes, which may be negated, a color, the color behind the text and
the target of a link. Different words may name one style; the normal form of a name tells whether
they do.
-/

namespace SmartQuotes.Console

structure Style where
  attributes : List (String × Bool) := []
  color : Option Text := none
  background : Option Text := none
  link : Option Text := none
deriving DecidableEq, Repr

namespace Style

/-! ## Colors -/

/-- The number that digits write. -/
def number? (t : Text) : Option Nat :=
  if t.isEmpty then none
  else t.foldlM (fun n c => (Text.Class.digitValue? c).map (10 * n + ·)) 0

/-- A number of at most three digits that fits in a byte. -/
def isByte (t : Text) : Bool :=
  t.length ≤ 3 && t.all Text.Class.isAsciiDigit && (number? t).any (· ≤ 255)

/-- What stands in the parentheses of a function. -/
def argument? (function : String) (t : Text) : Option Text :=
  let opening := text function ++ ['(']
  if opening.isPrefixOf t && t.getLast? == some ')' then some (t.drop opening.length).dropLast
  else none

/-- Why words name no style. -/
inductive Misnomer
  /-- A word has no meaning. -/
  | meaningless
  /-- A part of a color is empty, which stops its reader. -/
  | emptyPart
deriving DecidableEq, Repr

/-- A word that names a color only if a condition holds. -/
def requireColor (valid : Bool) : Except Misnomer Unit :=
  if valid then .ok () else .error .meaningless

/-- Read a word in small letters that names a color: by name, by its six digits, by its number or by
its three parts. -/
def readColor (t : Text) : Except Misnomer Unit :=
  let isHexDigit (c : Char) : Bool := Text.Class.isAsciiDigit c || ('a' ≤ c && c ≤ 'f')
  match argument? "rgb" t with
  | some parts =>
    let parts := parts.splitOn (· == ',')
    if parts.length = 3 && parts.all (·.all fun c => (Text.Class.digitValue? c).isSome) then
      if parts.contains [] then .error .emptyPart
      else requireColor (parts.all fun p => (number? p).any (· ≤ 255))
    else .error .meaningless
  | none => requireColor (t == text "default" || colorNames.contains t ||
      (t.head? == some '#' && t.length == 7 && t.tail.all isHexDigit) ||
      (argument? "color" t).any isByte)

/-! ## Attributes -/

/-- The attributes in the order in which they are written, each with its short names. -/
def attributeNames : List (String × List String) :=
  [("bold", ["b"]), ("dim", ["d"]), ("italic", ["i"]), ("underline", ["u"]), ("blink", []),
   ("blink2", []), ("reverse", ["r"]), ("conceal", ["c"]), ("strike", ["s"]),
   ("underline2", ["uu"]), ("frame", []), ("encircle", []), ("overline", ["o"])]

/-- The attribute of a name. -/
def attribute? (t : Text) : Option String :=
  (attributeNames.find? fun (name, short) => (name :: short).any (text · == t)).map (·.1)

/-- Turn an attribute on or off. -/
def set (s : Style) (name : String) (on : Bool) : Style :=
  { s with attributes := (name, on) :: s.attributes }

/-! ## Names -/

/-- The style that words add to a style. -/
def addWords (s : Style) : List Text → Except Misnomer Style
  | [] => .ok s
  | [w] => do
    let word := w.lower
    match attribute? word with
    | some a => .ok (s.set a true)
    | none =>
      readColor word
      .ok { s with color := some word }
  | w :: v :: ws => do
    let word := w.lower
    if word == text "on" then
      readColor v.lower
      addWords { s with background := some v.lower } ws
    else if word == text "not" then
      match attribute? v with
      | some a => addWords (s.set a false) ws
      | none => .error .meaningless
    else if word == text "link" then addWords { s with link := some v } ws
    else match attribute? word with
      | some a => addWords (s.set a true) (v :: ws)
      | none =>
        readColor word
        addWords { s with color := some word } (v :: ws)

/-- The words of a text. -/
def wordsOf (t : Text) : List Text :=
  (t.splitOn Text.Class.isBlank).filter fun w => !w.isEmpty

/-- The words of a style: attributes in their order, colors and the link. -/
def words (s : Style) : List Text :=
  attributeNames.flatMap (fun (name, _) => match s.attributes.lookup name with
    | some true => [text name]
    | some false => [text "not", text name]
    | none => []) ++
    s.color.toList ++ (s.background.map fun c => [text "on", c]).getD [] ++
    (s.link.map fun t => [text "link", t]).getD []

/-- The normal form of the name of a style: that of no style at all is the word for it, and what
names no style is taken as it is, but for blanks around it and for case. A name that stops its
reader has none. -/
def normalName? (t : Text) : Option Text :=
  if t.strip == text "none" then some (text "none")
  else match addWords {} (wordsOf t) with
    | .ok s => some (Text.join [' '] s.words)
    | .error .meaningless => some t.strip.lower
    | .error .emptyPart => none

end Style

end SmartQuotes.Console
