import SmartQuotes.Breakdown
import SmartQuotes.Text.Utf8

/-!
# Faults of a YAML text

Why a text is refused and where. A message names what was being read and what went wrong, each with
its place and the part of the line around it.
-/

namespace SmartQuotes.Yaml

/-- A place in a text; lines and columns count from 0. -/
structure Place where
  index : Nat
  line : Nat
  column : Nat
deriving DecidableEq, Repr, Inhabited

/-- Characters that end a line. -/
def isBreak (c : Char) : Bool :=
  c == '\n' || c == '\r' || c == '\u0085' || c == '\u2028' || c == '\u2029'

namespace Place

/-- How many characters of the line are shown at most on each side. -/
def reach : Nat := 37

/-- The part of the line in front of a place, and whether it is cut. -/
def before (source : Text) (p : Place) : Text × Bool :=
  let line := ((source.take p.index).reverse.takeWhile fun c => !isBreak c)
  if line.length < reach then (line.reverse, false) else ((line.take (reach - 5)).reverse, true)

/-- The part of the line behind a place, and whether it is cut. -/
def behind (source : Text) (p : Place) : Text × Bool :=
  let line := (source.drop p.index).takeWhile fun c => !isBreak c
  if line.length < reach then (line, false) else (line.take (reach - 5), true)

/-- The place with the part of the line around it and an arrow below. -/
def shown (source : Text) (p : Place) : Text :=
  let (before, cutBefore) := p.before source
  let (behind, cutBehind) := p.behind source
  let head := if cutBefore then text " ... " else []
  let tail := if cutBehind then text " ... " else []
  text s!"  in \"<unicode string>\", line {p.line + 1}, column {p.column + 1}:\n    " ++
    head ++ before ++ behind ++ tail ++ ['\n'] ++
    List.replicate (4 + head.length + before.length) ' ' ++ ['^']

end Place

/-- What was being read. -/
inductive Activity
  | nextToken
  | simpleKey
  | directive
  | directiveUri
  | anchor
  | reference
  | tag
  | tagName
  | blockScalar
  | quotedScalar
  | doubleQuotedScalar
  | node
  | blockNode
  | flowNode
  | blockCollection
  | blockMapping
  | flowSequence
  | flowMapping
  | mappingValue
  | singleDocument
  | firstAnchor (name : Text)
deriving DecidableEq, Repr

namespace Activity

def message : Activity → Text
  | nextToken => text "while scanning for the next token"
  | simpleKey => text "while scanning a simple key"
  | directive => text "while scanning a directive"
  | directiveUri => text "while parsing a directive"
  | anchor => text "while scanning an anchor"
  | reference => text "while scanning an alias"
  | tag => text "while scanning a tag"
  | tagName => text "while parsing a tag"
  | blockScalar => text "while scanning a block scalar"
  | quotedScalar => text "while scanning a quoted scalar"
  | doubleQuotedScalar => text "while scanning a double-quoted scalar"
  | node => text "while parsing a node"
  | blockNode => text "while parsing a block node"
  | flowNode => text "while parsing a flow node"
  | blockCollection => text "while parsing a block collection"
  | blockMapping => text "while parsing a block mapping"
  | flowSequence => text "while parsing a flow sequence"
  | flowMapping => text "while parsing a flow mapping"
  | mappingValue => text "while constructing a mapping"
  | singleDocument => text "expected a single document in the stream"
  | firstAnchor name => text "found duplicate anchor " ++ name.quoted ++ text "; first occurrence"

end Activity

/-- What went wrong. -/
inductive Cause
  | expected (what : String) (found : Char)
  | expectedToken (what : String) (found : String)
  | gotToken (what : String) (found : String)
  | expectedNode (what : String) (found : String)
  | notAllowed (what : String)
  | cannotStart (c : Char)
  | missingColon
  | unknownEscape (c : Char)
  | endInside
  | separatorInside
  | zeroIndentation
  | repeatedVersion
  | foreignVersion
  | undecodable (f : Utf8.Fault)
  | repeatedHandle (handle : Text)
  | unknownHandle (handle : Text)
  | unknownAlias (name : Text)
  | secondOccurrence
  | anotherDocument
  | unknownTag (tag : Text)
  | unhashableKey
deriving DecidableEq, Repr

namespace Cause

def message : Cause → Text
  | expected what found =>
    text s!"expected {what}, but found " ++ Text.quoted [found]
  | expectedToken what found =>
    text s!"expected {what}, but found " ++ (text found).quoted
  | gotToken what found => text s!"expected {what}, but got " ++ (text found).quoted
  | expectedNode what found => text s!"expected {what}, but found {found}"
  | notAllowed what => text s!"{what} are not allowed here"
  | cannotStart c =>
    text "found character " ++ Text.quoted [c] ++ text " that cannot start any token"
  | missingColon => text "could not find expected ':'"
  | unknownEscape c => text "found unknown escape character " ++ Text.quoted [c]
  | endInside => text "found unexpected end of stream"
  | separatorInside => text "found unexpected document separator"
  | zeroIndentation => text "expected indentation indicator in the range 1-9, but found 0"
  | repeatedVersion => text "found duplicate YAML directive"
  | foreignVersion => text "found incompatible YAML document (version 1.* is required)"
  | undecodable f => text f.message
  | repeatedHandle handle => text "duplicate tag handle " ++ handle.quoted
  | unknownHandle handle => text "found undefined tag handle " ++ handle.quoted
  | unknownAlias name => text "found undefined alias " ++ name.quoted
  | secondOccurrence => text "second occurrence"
  | anotherDocument => text "but found another document"
  | unknownTag tag => text "could not determine a constructor for the tag " ++ tag.quoted
  | unhashableKey => text "found unhashable key"

end Cause

/-- Why a text is refused, or stops its reader. -/
inductive Fault
  | at (activity : Option (Activity × Option Place)) (cause : Cause) (place : Place)
  | unacceptable (c : Char) (index : Nat)
  | broken (b : Breakdown)
deriving DecidableEq, Repr

namespace Fault

/-- The message on a fault of the given text. The place of the activity is left out where it is that
of the cause. -/
def message (source : Text) : Fault → Text
  | .at activity cause place =>
    let lines := match activity with
      | none => []
      | some (a, none) => [a.message]
      | some (a, some p) => if p = place then [a.message] else [a.message, p.shown source]
    Text.join ['\n'] (lines ++ [cause.message, place.shown source])
  | .unacceptable c index =>
    let digits := (Nat.toDigits 16 c.toNat)
    text "unacceptable character #x" ++ List.replicate (4 - digits.length) '0' ++ digits ++
      text ": special characters are not allowed\n  in \"<unicode string>\", position " ++
      text (toString index)
  | .broken b => b.message

end Fault

end SmartQuotes.Yaml
