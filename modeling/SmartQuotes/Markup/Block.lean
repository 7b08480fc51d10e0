import SmartQuotes.Markup.Event

/-!
# Blocks of a component

The templates and scripts that stand inside no other element. An end tag closes the innermost open
element of its name with all that is open inside; one that closes nothing is passed over. Void
elements close at once.
-/

namespace SmartQuotes.Markup

/-- The names of the elements that are open, the innermost first. -/
abbrev Nesting := List Text

namespace Nesting

/-- Elements without content. -/
def voidNames : List Text :=
  ["area", "base", "basefont", "bgsound", "br", "col", "command", "embed", "frame", "hr", "image",
    "img", "input", "isindex", "keygen", "link", "menuitem", "meta", "nextid", "param", "source",
    "spacer", "track", "wbr"].map text

/-- Read a start tag. An element that is void or closed in its tag has no inside. -/
def startTag (n : Nesting) (g : StartTag) : Nesting :=
  if g.selfClosing || voidNames.contains g.name then n else g.name :: n

/-- Read an end tag: the innermost open element of its name is closed. -/
def endTag (n : Nesting) (name : Text) : Nesting :=
  if n.contains name then (n.dropWhile (· != name)).drop 1 else n

end Nesting

/-- What a block holds. -/
inductive BlockKind
  | template
  | script
deriving DecidableEq, Repr

namespace BlockKind

def name : BlockKind → Text
  | template => text "template"
  | script => text "script"

def ofName? (name : Text) : Option BlockKind := [template, script].find? (·.name == name)

end BlockKind

/-- A template or script with the offset of its start tag and the language given there. -/
structure Block where
  kind : BlockKind
  offset : Nat
  lang : Option Text
deriving DecidableEq, Repr

namespace Block

/-- The block that a start tag opens, given the elements around it. -/
def ofStartTag? (n : Nesting) (g : StartTag) (offset : Nat) : Option Block :=
  if n.isEmpty then
    (BlockKind.ofName? g.name).map fun kind => ⟨kind, offset, g.attribute? (text "lang")⟩
  else none

/-- The blocks that are opened by tags in the given order. -/
def listFrom (n : Nesting) : List Event → List Block
  | [] => []
  | .closes name :: rest => listFrom (n.endTag name) rest
  | .opens g offset :: rest => (ofStartTag? n g offset).toList ++ listFrom (n.startTag g) rest

/-- The blocks of a document. -/
def list (document : Text) : Except Breakdown (List Block) :=
  (Event.list document).map (listFrom [])

end Block

end SmartQuotes.Markup
