import SmartQuotes.Console.Argument
import SmartQuotes.Console.Emoji
import SmartQuotes.Console.Style
import SmartQuotes.Text.Quoted

/-!
# Styled texts

A text for the terminal may hold tags in square brackets, which open and close styles. Tags are not
shown, and an odd number of backslashes in front of one makes it plain text; two backslashes there
stand for one. Escaping a text puts the backslashes that keep all of it.
-/

namespace SmartQuotes.Console

/-- A part of a styled text: plain text, or a tag with the backslashes in front of it. -/
inductive Part
  | plain (t : Text)
  | tag (slashes : Nat) (body : Text)
deriving DecidableEq, Repr

namespace Part

def backslashes (n : Nat) : Text := List.replicate n '\\'

def brackets (body : Text) : Text := '[' :: body ++ [']']

/-- The part as it is written. -/
def written : Part → Text
  | plain t => t
  | tag n body => backslashes n ++ brackets body

/-- Characters with which a tag begins. -/
def beginsTag (c : Char) : Bool := ('a' ≤ c && c ≤ 'z') || c == '#' || c == '/' || c == '@'

/-- Characters that a tag holds behind the first one. -/
def isInner (c : Char) : Bool := c != '[' && c != ']'

/-- A tag in front of a text, with what is behind it. -/
structure Found (t : Text) where
  slashes : Nat
  body : Text
  rest : Text
  rest_lt : rest.length < t.length

/-- The body of a tag behind its opening bracket, with what is behind the closing one. -/
def body? : Text → Option (Text × Text)
  | [] => none
  | c :: t =>
    if beginsTag c && (t.dropWhile isInner).head? == some ']' then
      some (c :: t.takeWhile isInner, (t.dropWhile isInner).tail)
    else none

theorem length_dropWhile_le (p : Char → Bool) (t : Text) : (t.dropWhile p).length ≤ t.length :=
  (List.dropWhile_sublist p).length_le

theorem length_lt_of_body? {t body rest : Text} (h : body? t = some (body, rest)) :
    rest.length < t.length := by
  cases t with
  | nil => simp [body?] at h
  | cons c t =>
    simp only [body?, Option.ite_none_right_eq_some, Option.some.injEq, Prod.mk.injEq] at h
    obtain ⟨_, _, rfl⟩ := h
    have := length_dropWhile_le isInner t
    simp only [List.length_tail, List.length_cons]
    omega

/-- The tag in front, if there is one. -/
def found? (t : Text) : Option (Found t) :=
  match ht : t.dropWhile (· == '\\') with
  | '[' :: inner =>
    match h : body? inner with
    | some (body, rest) =>
      some ⟨(t.takeWhile (· == '\\')).length, body, rest, by
        have := length_lt_of_body? h
        have := length_dropWhile_le (· == '\\') t
        rw [ht, List.length_cons] at this
        omega⟩
    | none => none
  | _ => none

/-- Put a character in front of the parts of a text. -/
def consPlain (c : Char) : List Part → List Part
  | plain t :: ps => plain (c :: t) :: ps
  | ps => plain [c] :: ps

/-- The parts of a styled text. -/
def ofText : Text → List Part
  | [] => []
  | c :: t =>
    match found? (c :: t) with
    | some f => tag f.slashes f.body :: ofText f.rest
    | none => consPlain c (ofText t)
termination_by t => t.length
decreasing_by
  · exact f.rest_lt
  · simp only [List.length_cons]; omega

/-- The part with the backslashes that keep it as it is. -/
def escaped : Part → Text
  | plain t => t
  | tag n body => backslashes (2 * n + 1) ++ brackets body

end Part

namespace Styled

/-- Escape a text: shown as a styled text it is the text again. A backslash at the end is doubled,
so that it escapes nothing behind it. -/
def escape (t : Text) : Text :=
  let e := (Part.ofText t).flatMap Part.escaped
  if e.getLast? = some '\\' && e.dropLast.getLast? != some '\\' then e ++ ['\\'] else e

/-! ## Showing -/

/-- Why a styled text cannot be shown: a closing tag that closes nothing, or one that closes a tag
whose arguments cannot be read, or a style whose reader is stopped. -/
inductive Fault
  | unmatched (body : Text) (position : Nat)
  | nothingOpen (position : Nat)
  | unreadable (parameters : Text)
  | emptyPart
deriving DecidableEq, Repr

/-- What is told of a fault; what is wrong with arguments is left out. -/
def Fault.message : Fault → String
  | unmatched body position =>
    s!"closing tag '{String.ofList (Part.brackets body)}' at position {position}" ++
      " doesn't match any open tag"
  | nothingOpen position => s!"closing tag '[/]' at position {position} has nothing to close"
  | unreadable parameters => "error parsing " ++ String.ofList parameters.quoted
  | emptyPart => "invalid literal for int() with base 10: ''"

/-- Control characters that terminals act on; they are not shown. -/
def isControl (c : Char) : Bool := [7, 8, 11, 12, 13].contains c.toNat

/-- Plain text as it is shown. -/
def visible (t : Text) : Text := (Emoji.replace t).filter (!isControl ·)

/-- Drop the backslash in front of each opening bracket. -/
def dropEscapes : Text → Text
  | '\\' :: '[' :: t => '[' :: dropEscapes t
  | c :: t => c :: dropEscapes t
  | [] => []

/-- A tag that is open: the normal form of its name, and what stands behind an equals sign. -/
structure OpenTag where
  name : Text
  parameters : Option Text
deriving DecidableEq, Repr

namespace OpenTag

/-- Whether the tag has arguments and no style. -/
def isCall (tag : OpenTag) : Bool := tag.name.head? == some '@'

/-- The style that the tag names. -/
def style (tag : OpenTag) : Text :=
  match tag.parameters with
  | none => tag.name
  | some t => tag.name ++ ' ' :: t

end OpenTag

/-- The tags that have been read: those that are open, innermost first, and the styles of those that
are closed. -/
structure Tags where
  open_ : List OpenTag := []
  closed : List Text := []

namespace Tags

/-- Close a tag: what it says is read only then. -/
def close (tags : Tags) (tag : OpenTag) (open_ : List OpenTag) : Except Fault Tags :=
  if tag.isCall then
    let parameters := tag.parameters.getD []
    if Argument.areReadable parameters then .ok { tags with open_ }
    else .error (.unreadable parameters)
  else .ok { open_, closed := tag.style :: tags.closed }

/-- The tags behind another one, whose name stands in front of an equals sign. -/
def apply (tags : Tags) (position : Nat) (body : Text) : Except Fault Tags :=
  match body.takeWhile (· != '=') with
  | '/' :: name =>
    if (Text.strip name).isEmpty then
      match tags.open_ with
      | [] => .error (.nothingOpen position)
      | tag :: open_ => tags.close tag open_
    else
      match Style.normalName? (Text.strip name) with
      | none => .error .emptyPart
      | some style =>
        match tags.open_.find? (·.name == style) with
        | none => .error (.unmatched body position)
        | some tag => tags.close tag (tags.open_.eraseP (·.name == style))
  | name =>
    match Style.normalName? name with
    | none => .error .emptyPart
    | some style =>
      let parameters := (body.dropWhile (· != '=')).tail?
      .ok { tags with open_ := ⟨style, parameters⟩ :: tags.open_ }

/-- Whether the reader of styles comes to the end of all of them, also of those of tags that are
still open or have nothing in them. -/
def areReadable (tags : Tags) : Bool :=
  (tags.open_.map OpenTag.style ++ tags.closed).all fun t => (Style.normalName? t).isSome

end Tags

/-- What is shown of the parts of a text from a position on. -/
def showParts (tags : Tags) (position : Nat) : List Part → Except Fault Text
  | [] => if tags.areReadable then .ok [] else .error .emptyPart
  | p :: ps =>
    let next := position + p.written.length
    match p with
    | .plain t => do return visible (dropEscapes t) ++ (← showParts tags next ps)
    | .tag n body => do
      let slashes := Part.backslashes (n / 2)
      if n % 2 = 1 then
        return slashes ++ visible (Part.brackets body) ++ (← showParts tags next ps)
      else
        let tags ← tags.apply (position + n) body
        return slashes ++ (← showParts tags next ps)

/-- What is shown of a styled text. -/
def shown (t : Text) : Except Fault Text :=
  if t.contains '[' then showParts {} 0 (Part.ofText t) else .ok (visible t)

end Styled

end SmartQuotes.Console
