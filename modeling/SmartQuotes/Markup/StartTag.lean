import SmartQuotes.Markup.Attribute
import SmartQuotes.Markup.Reference

/-!
# Start tags of a document

The tolerant form in which the blocks of a document are opened. Names stand in lower case and the
references in values are replaced. An attribute starts only behind a blank, a slash or a quote, so
that an equals sign in front of an unclosed quote leaves the tag incomplete.
-/

namespace SmartQuotes.Markup

/-- An element name with attributes. -/
structure StartTag where
  name : Text
  attributes : List (Text × Text)
  selfClosing : Bool
deriving DecidableEq, Repr

namespace StartTag

/-- The value of the last attribute of a name. -/
def attribute? (g : StartTag) (name : Text) : Option Text :=
  (g.attributes.reverse.find? (·.1 == name)).map (·.2)

/-- Characters of element names. -/
def isNameChar (c : Char) : Bool := !(text "\t\n\r\x0c />\x00").contains c

/-- Characters of attribute names behind the first one. -/
def isAttributeChar (c : Char) : Bool :=
  !(Text.Class.isBlank c || c == '/' || c == '=' || c == '>')

/-- Characters of values without quotes. -/
def isBareChar (c : Char) : Bool := !(Text.Class.isBlank c || c == '>')

/-- Move past blanks and slashes, but not past the slash that closes the tag. The last character
passed comes with the rest. -/
def skipGap (last : Char) : Text → Char × Text
  | [] => (last, [])
  | c :: t =>
    if Text.Class.isBlank c || (c == '/' && t.head? != some '>') then skipGap c t
    else (last, c :: t)

theorem length_skipGap_le (last : Char) (t : Text) : (skipGap last t).2.length ≤ t.length := by
  induction t generalizing last with
  | nil => simp [skipGap]
  | cons c t ih =>
    simp only [skipGap]
    split
    · exact Nat.le_trans (ih c) (by simp)
    · simp

/-- A value behind the name of an attribute with the number of characters read and the last of them;
`none` when there is no value. -/
def value? (t : Text) : Option (Text × Nat × Char) :=
  let gap := t.takeWhile Text.Class.isBlank
  let signs := (t.drop gap.length).takeWhile (· == '=')
  let r := t.drop (gap.length + signs.length)
  let gap' := r.takeWhile Text.Class.isBlank
  let before := gap.length + signs.length + gap'.length
  let bare (first : Nat) :=
    let value := (t.drop first).takeWhile isBareChar
    some (Reference.decode value, first + value.length, value.getLast?.getD '=')
  if signs.isEmpty then none
  else match r.drop gap'.length with
    | [] => bare before
    | c :: rest =>
      if !isQuote c then bare before
      else match cutAfter? c rest with
        | some (run, _) => some (Reference.decode run.dropLast, before + 1 + run.length, c)
        | none =>
          if !gap'.isEmpty then some ([], before, ' ')
          else if 2 ≤ signs.length then bare (before - 1)
          else none

theorem length_behind_le (last : Char) (width : Nat) (t : Text) :
    (skipGap last ((t.dropWhile isAttributeChar).drop width)).2.length ≤ t.length := by
  have h := length_skipGap_le last ((t.dropWhile isAttributeChar).drop width)
  have := (List.dropWhile_sublist isAttributeChar (l := t)).length_le
  simp only [List.length_drop] at h
  omega

/-- The attributes of a tag and the text behind them. `last` is the character in front. -/
def attributesFrom (last : Char) (t : Text) : List (Text × Text) × Text :=
  match t with
  | [] => ([], [])
  | c :: r =>
    if (isQuote last || Text.Class.isBlank last || last == '/') &&
        !(Text.Class.isBlank c || c == '/' || c == '>') then
      let name := c :: r.takeWhile isAttributeChar
      let behind := r.dropWhile isAttributeChar
      let (value, width, last) := (value? behind).getD ([], 0, name.getLast?.getD c)
      let next := skipGap last (behind.drop width)
      let (more, rest) := attributesFrom next.1 next.2
      ((Text.lower name, value) :: more, rest)
    else ([], c :: r)
termination_by t.length
decreasing_by exact Nat.lt_succ_of_le (length_behind_le _ _ _)

/-- What is found where a tag opens: a tag or mere text, each with the rest, or a tag that is
incomplete. -/
inductive Reading
  | tag (g : StartTag) (rest : Text)
  | prose (rest : Text)
  | incomplete

/-- Read a tag behind its opening bracket. -/
def read (t : Text) : Reading :=
  let name := t.takeWhile isNameChar
  let (last, behind) := skipGap (name.getLast?.getD '<') (t.drop name.length)
  let (attributes, rest) := attributesFrom last behind
  match rest with
  | '>' :: r => .tag ⟨Text.lower name, attributes, false⟩ r
  | '/' :: '>' :: r => .tag ⟨Text.lower name, attributes, true⟩ r
  | '\x00' :: r => .prose ('\x00' :: r)
  | _ => .incomplete

end StartTag

end SmartQuotes.Markup
