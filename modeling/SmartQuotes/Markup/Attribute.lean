import SmartQuotes.Markup.Tag

/-!
# Attributes

The quoted attribute values of a tag, found by reading the text of the attributes from left to
right: a name, and behind it an equals sign and a value, with blanks around the sign. Anything that
starts no name is passed over.
-/

namespace SmartQuotes.Markup

/-- An attribute with a quoted value. `offset` is that of the first character between the quotes,
counted from where the attributes start. -/
structure Attribute where
  name : Text
  offset : Nat
  value : Text
deriving DecidableEq, Repr

namespace Attribute

/-- Characters of attribute names. -/
def isNameChar (c : Char) : Bool :=
  !(Text.Class.isBlank c || isQuote c || c == '<' || c == '>' || c == '/' || c == '=')

/-- Characters of values without quotes. -/
def isBareChar (c : Char) : Bool :=
  !(Text.Class.isBlank c || isQuote c || c == '=' || c == '<' || c == '>' || c == '\x60')

/-- What follows an attribute name: the number of characters to pass over, and for a quoted value
also the number of those in front of the value and the value. -/
structure Tail where
  width : Nat := 0
  quoted : Option (Nat × Text) := none

/-- Read what follows an attribute name. -/
def tail (t : Text) : Tail :=
  let gap := t.takeWhile Text.Class.isBlank
  match t.drop gap.length with
  | '=' :: r =>
    let gap' := r.takeWhile Text.Class.isBlank
    let before := gap.length + 1 + gap'.length
    match r.drop gap'.length with
    | [] => {}
    | c :: r =>
      if isQuote c then
        match cutAfter? c r with
        | none => {}
        | some (run, _) =>
          { width := before + 1 + run.length
            quoted := some (before + 1, run.dropLast) }
      else
        let bare := (c :: r).takeWhile isBareChar
        if bare.isEmpty then {} else { width := before + bare.length }
  | _ => {}

/-- The attributes with quoted values in a text whose first character has the given offset. -/
def listFrom (offset : Nat) (t : Text) : List Attribute :=
  match t with
  | [] => []
  | c :: r =>
    if isNameChar c then
      let name := c :: r.takeWhile isNameChar
      let behind := tail (r.drop (name.length - 1))
      let rest := listFrom (offset + name.length + behind.width)
        (r.drop (name.length - 1 + behind.width))
      match behind.quoted with
      | none => rest
      | some (before, value) => ⟨name, offset + name.length + before, value⟩ :: rest
    else listFrom (offset + 1) r
termination_by t.length
decreasing_by all_goals simp only [List.length_cons, List.length_drop]; omega

/-- The attributes with quoted values. -/
def list (t : Text) : List Attribute := listFrom 0 t

/-! ## Directives -/

/-- What the value of an attribute is. -/
inductive Role
  | plain
  | expression
  | iteration
  | binding
deriving DecidableEq, Repr

/-- The role of an attribute, told from its name: plain attributes hold prose, directives hold
expressions, and the directives that name the properties of a slot hold neither. -/
def role (a : Attribute) : Role :=
  let begins (s : String) : Bool := (text s).isPrefixOf a.name
  if begins "#" || begins "v-slot" then .binding
  else if a.name = text "v-for" then .iteration
  else if begins "v-" || begins ":" || begins "@" then .expression
  else .plain

/-- The alias of an iteration with the keyword behind it: the number of characters in front of the
expression that is iterated over. -/
def aliasWidthOf? (value : Text) : Option Nat :=
  let skip (p : Char → Bool) (t : Text) : Option Text :=
    if (t.head?.map p).getD false then some (t.dropWhile p) else none
  let afterName (t : Text) : Option Text :=
    match t with
    | '(' :: r =>
      match r.dropWhile (· != ')') with
      | ')' :: r => some r
      | _ => none
    | t => skip (fun c => !(Text.Class.isBlank c || c == '(' || c == ')')) t
  let afterWord (t : Text) : Option Text :=
    match t with
    | 'i' :: 'n' :: r => some r
    | 'o' :: 'f' :: r => some r
    | _ => none
  let rest := some (value.dropWhile Text.Class.isBlank) >>= afterName >>=
    skip Text.Class.isBlank >>= afterWord >>= skip Text.Class.isBlank
  rest.map fun r => value.length - r.length

def aliasWidth? (a : Attribute) : Option Nat := aliasWidthOf? a.value

end Attribute

end SmartQuotes.Markup
