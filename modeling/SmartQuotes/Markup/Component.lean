import SmartQuotes.Markup.Block
import SmartQuotes.Markup.Template

/-!
# Components

A component is a document with template and script blocks. The body of a block is looked for in the
text behind its start tag: that of a script ends at the first end tag of a script, that of a
template at the end tag that balances the template tags in it. A block in a language that is not
supported is skipped with a note.
-/

namespace SmartQuotes.Markup

/-! ## Bodies -/

/-- Whether a character is a small letter or another case of it. -/
def isLetterOf (small c : Char) : Bool :=
  c == small || Text.Class.lower c == [small] || (small == 's' && c == 'ſ') ||
    (small == 'i' && (c == 'ı' || c == 'İ'))

/-- The rest behind a word in either case of letters. -/
def afterWord? : Text → Text → Option Text
  | [], t => some t
  | _, [] => none
  | w :: word, c :: t => if isLetterOf w c then afterWord? word t else none

/-- Whether the end tag of a script starts here. -/
def startsScriptEnd : Text → Bool
  | '<' :: '/' :: t =>
    match afterWord? (text "script") t with
    | none => false
    | some r => (r.dropWhile Text.Class.isBlank).head? == some '>'
  | _ => false

/-- The length of the body of a script. -/
def scriptLength : Text → Nat
  | [] => 0
  | c :: t => if startsScriptEnd (c :: t) then 0 else scriptLength t + 1

/-- A tag of a template: whether it closes or is closed at once, and its length. -/
structure TemplateTag where
  closing : Bool
  selfClosing : Bool
  width : Nat
deriving DecidableEq, Repr

/-- Read what follows the name of a template tag. `before` is the number of characters in front. -/
def TemplateTag.ofRest? (closing : Bool) (before : Nat) (t : Text) : Option TemplateTag :=
  if (t.head?.map Text.Class.isWord).getD false then none
  else
    let (attributes, rest) := cutAttributes t
    if rest.head? = some '>' then
      some ⟨closing, attributes.getLast? == some '/', before + attributes.length + 1⟩
    else none

/-- The template tag at the start of a text. -/
def TemplateTag.ofText? : Text → Option TemplateTag
  | '<' :: '/' :: t => (afterWord? (text "template") t).bind (ofRest? true 10)
  | '<' :: t => (afterWord? (text "template") t).bind (ofRest? false 9)
  | _ => none

/-- The length of the body of a template in which `depth` further templates are open. -/
def templateLength (depth : Nat) (t : Text) : Nat :=
  match t with
  | [] => 0
  | c :: r =>
    match TemplateTag.ofText? (c :: r) with
    | none => templateLength depth r + 1
    | some g =>
      let n := g.width - 1
      if g.closing then
        match depth with
        | 0 => 0
        | depth + 1 => templateLength depth (r.drop n) + g.width
      else
        let depth := if g.selfClosing then depth else depth + 1
        templateLength depth (r.drop n) + g.width
termination_by t.length
decreasing_by all_goals simp only [List.length_cons, List.length_drop]; omega

/-- The body of a block, if its start tag can be read. -/
def Block.body? (document : Text) (b : Block) : Option Span :=
  (Tag.ofText? (document.drop b.offset)).map fun g =>
    let start := b.offset + g.toText.length
    let rest := document.drop start
    let length := match b.kind with
      | .script => scriptLength rest
      | .template => templateLength 0 rest
    ⟨start, start + length⟩

/-! ## Languages of blocks -/

/-- The language of a block in small letters; none and an empty one mean the default. -/
def Block.language (b : Block) : Text :=
  match b.lang with
  | none | some [] => text "js"
  | some lang => lang.lower

/-- The languages of scripts. -/
def scriptLanguages : List Text := ["js", "jsx", "javascript"].map text

/-- Whether the content of a block can be read. -/
def Block.isSupported (b : Block) : Bool :=
  match b.kind with
  | .script => scriptLanguages.contains b.language
  | .template => b.lang.isNone || b.language == text "html"

/-! ## Fragments -/

/-- The fragments of a block. -/
def extractBlock (document : Text) (b : Block) : Outcome (List Fragment) :=
  match b.body? document with
  | none => do
    .note [.unlocatedBlock b.kind.name]
    return []
  | some body =>
    if b.isSupported then
      match b.kind with
      | .script => .ofExcept (Script.extract document body.start body.stop .script)
      | .template => extractTemplate document body.start body.stop
    else do
      match b.kind with
      | .script => .note [.unsupportedScript b.language]
      | .template => .note [.unsupportedTemplate b.language]
      return []

/-- The fragments of blocks, one block after the other. -/
def extractBlocks (document : Text) : List Block → Outcome (List Fragment)
  | [] => .value []
  | b :: rest => do
    let first ← extractBlock document b
    let more ← extractBlocks document rest
    return first ++ more

/-- The fragments of a component, sorted by position. -/
def extractComponent (document : Text) : Outcome (List Fragment) := do
  let blocks ← Outcome.ofExcept ((Block.list document).mapError .broken)
  let fragments ← extractBlocks document blocks
  return sortBy Fragment.le fragments

end SmartQuotes.Markup
