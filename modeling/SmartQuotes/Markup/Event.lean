import SmartQuotes.Breakdown
import SmartQuotes.Markup.StartTag

/-!
# Tags of a document in order

A document is read tolerantly: comments, declarations and instructions are passed over, the text of
scripts and style sheets ends only at the matching end tag, and an incomplete construct is text up
to the next closing bracket. An ampersand in front of a malformed number ends the reading; it goes
on behind the ampersand once, unless an incomplete construct has been met. Only a section without a
kind that is known stops the reader.
-/

namespace SmartQuotes.Markup

/-- A tag that opens or closes an element; `offset` is that of the opening bracket. -/
inductive Event
  | opens (g : StartTag) (offset : Nat)
  | closes (name : Text)
deriving DecidableEq, Repr

namespace Event

/-! ## Ends of constructs -/

/-- The number of characters up to and with the first one that satisfies `p`. -/
def through? (p : Char → Bool) (t : Text) : Option Nat :=
  let before := (t.takeWhile fun c => !p c).length
  if before < t.length then some (before + 1) else none

/-- The number of characters through the first place at which `ends` reads something. -/
def throughFirst? (ends : Text → Option Nat) : Text → Option Nat
  | [] => none
  | c :: t =>
    match ends (c :: t) with
    | some n => some n
    | none => (throughFirst? ends t).map (· + 1)

/-- The length of the given marks in this order with blanks between them. -/
def spaced? : Text → Text → Option Nat
  | [], _ => some 0
  | _, [] => none
  | m :: marks, c :: t =>
    if c = m then
      let blanks := (t.takeWhile Text.Class.isBlank).length
      let gap := if marks.isEmpty then 0 else blanks
      (spaced? marks (t.drop gap)).map (· + gap + 1)
    else none

/-- The end of a comment: two dashes and a bracket, with blanks in front of the bracket. -/
def commentEnd? : Text → Option Nat
  | '-' :: '-' :: t => (spaced? ['-', '>'] ('-' :: t)).map (· + 1)
  | _ => none

/-- The words that open a section, with the marks that close it. -/
def sections : List (String × Text) :=
  ["temp", "cdata", "ignore", "include", "rcdata"].map (·, [']', ']', '>']) ++
    ["if", "else", "endif"].map (·, [']', '>'])

/-- Characters of words that open sections. -/
def isWordChar (c : Char) : Bool :=
  Text.Class.isAsciiLetter c || Text.Class.isAsciiDigit c || c == '-' || c == '_' || c == '.'

/-- The end of a section behind its opening bracket. -/
def sectionEnd? (t : Text) : Except Breakdown (Option Nat) :=
  let name := t.takeWhile isWordChar
  let gap := (t.drop name.length).takeWhile Text.Class.isBlank
  match t with
  | [] => .ok none
  | c :: _ =>
    if !Text.Class.isAsciiLetter c then .error (.namelessSection (text "<![" ++ t))
    else if name.length + gap.length = t.length then .ok none
    else match sections.find? fun s => text s.1 == Text.lower name with
      | some (_, marks) => .ok (throughFirst? (spaced? marks) t)
      | none => .error (.unknownSection (name ++ gap))

/-- The end of what an exclamation mark opens, counted from behind the mark. -/
def declarationEnd? : Text → Except Breakdown (Option Nat)
  | '-' :: '-' :: t => .ok ((throughFirst? commentEnd? t).map (· + 2))
  | '[' :: t => (sectionEnd? t).map (Option.map (· + 1))
  | t => .ok (through? (· == '>') t)

/-! ## End tags -/

/-- Characters of a plain name. -/
def isPlainNameChar (c : Char) : Bool := isWordChar c || c == ':'

/-- The name in an end tag, given what stands between the slash and the closing bracket. -/
def closedName? (t : Text) : Option Text :=
  let inner := t.strip
  let startsWithLetter (t : Text) : Bool := (t.head?.map Text.Class.isAsciiLetter).getD false
  if startsWithLetter inner && inner.all isPlainNameChar then some inner.lower
  else if startsWithLetter t then some (Text.lower (t.takeWhile StartTag.isNameChar))
  else none

/-- The elements whose content is plain text. -/
def rawNames : List Text := [text "script", text "style"]

/-- The end tag of an element at the start of a text. -/
def rawEnd? (name : Text) : Text → Option Nat
  | '<' :: '/' :: t =>
    let gap := (t.takeWhile Text.Class.isBlank).length
    let r := t.drop gap
    if Text.lower (r.take name.length) = name then
      let r := r.drop name.length
      let gap' := (r.takeWhile Text.Class.isBlank).length
      if (r.drop gap').head? = some '>' then some (2 + gap + name.length + gap' + 1) else none
    else none
  | _ => none

/-! ## Reading -/

/-- What an opening bracket starts, read from the text behind it: the number of characters there and
the events; nothing when it is incomplete, or stops the reader. The events of an element of plain
text are those of both its tags; nothing follows when it is not closed. -/
inductive Construct
  | complete (width : Nat) (events : List Event)
  | unending (events : List Event)
  | incomplete
  | broken (b : Breakdown)

/-- Nothing but text, or nothing to report. -/
def passOver : Option Nat → Construct
  | some n => .complete n []
  | none => .incomplete

def construct (offset : Nat) (t : Text) : Construct :=
  match t with
  | [] => .complete 0 []
  | '/' :: r =>
    match through? (· == '>') r with
    | none => .incomplete
    | some n =>
      .complete (n + 1) ((closedName? (r.take (n - 1))).map Event.closes).toList
  | '?' :: r => passOver ((through? (· == '>') r).map (· + 1))
  | '!' :: r =>
    match declarationEnd? r with
    | .ok width => passOver (width.map (· + 1))
    | .error b => .broken b
  | c :: r =>
    if !Text.Class.isAsciiLetter c then .complete 0 []
    else match StartTag.read (c :: r) with
      | .incomplete => .incomplete
      | .prose rest => .complete (t.length - rest.length) []
      | .tag g rest =>
        let width := t.length - rest.length
        if rawNames.contains g.name && !g.selfClosing then
          match throughFirst? (rawEnd? g.name) rest with
          | none => .unending [.opens g offset]
          | some n => .complete (width + n) [.opens g offset, .closes g.name]
        else .complete width [.opens g offset]

/-- How many characters behind an opening bracket are text when the construct is incomplete. -/
def incompleteWidth (t : Text) : Nat :=
  match through? (· == '>') t with
  | some n => n
  | none => match through? (· == '<') t with
    | some n => n - 1
    | none => 0

/-- Whether the text behind an ampersand is a malformed number. -/
def isMalformedNumber : Text → Bool
  | '#' :: t =>
    let hexDigit (c : Char) : Bool := (Reference.digit? c).isSome
    let ends (r : Text) : Bool := (r.head?.map fun c => !hexDigit c).getD false
    let decimal := t.takeWhile Text.Class.isAsciiDigit
    let hex := (t.drop 1).takeWhile hexDigit
    let marked := t.head? == some 'x' || t.head? == some 'X'
    !(!decimal.isEmpty && ends (t.drop decimal.length) ||
      marked && !hex.isEmpty && ends (t.drop (1 + hex.length)))
  | _ => false

/-- The events of a text. `closing` says that the reading is in its last part. -/
def listFrom (closing : Bool) (offset : Nat) (t : Text) : Except Breakdown (List Event) :=
  match t with
  | [] => .ok []
  | c :: r =>
    if c = '<' then
      match construct offset r with
      | .broken b => .error b
      | .incomplete =>
        let n := incompleteWidth r
        listFrom true (offset + 1 + n) (r.drop n)
      | .unending events => .ok events
      | .complete n events =>
        (listFrom closing (offset + 1 + n) (r.drop n)).map (events ++ ·)
    else if c = '&' && isMalformedNumber r then
      if closing || !r.contains ';' then .ok []
      else listFrom true (offset + 2) (r.drop 1)
    else listFrom closing (offset + 1) r
termination_by t.length
decreasing_by all_goals simp only [List.length_cons, List.length_drop]; omega

/-- The events of a document. -/
def list (document : Text) : Except Breakdown (List Event) := listFrom false 0 document

end Event

end SmartQuotes.Markup
