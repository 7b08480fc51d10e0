import SmartQuotes.Text.Span

/-!
# Fragments

A fragment is a piece of a document that may hold prose, delimiters included. Its kind fixes how
many delimiter characters stand at each end; the mode of the document and the region of the fragment
fix whether it is visited.
-/

namespace SmartQuotes

/-- What a fragment is in the language of its document. -/
inductive Kind
  | literal
  | templateLiteral
  | elementText
  | attributeValue
  | markupText
deriving DecidableEq, Repr, Inhabited

/-- The part of a document that a fragment stands in. -/
inductive Region
  | script
  | template
deriving DecidableEq, Repr, Inhabited

/-- Which kinds are visited: those of a script alone, or those of a markup template as well. -/
inductive Mode
  | script
  | markup
deriving DecidableEq, Repr

namespace Kind

/-- The kinds in the order in which they are listed to users. -/
def all : List Kind := [literal, templateLiteral, elementText, attributeValue, markupText]

def name : Kind → String
  | literal => "Literal"
  | templateLiteral => "TemplateLiteral"
  | elementText => "JSXText"
  | attributeValue => "VLiteral"
  | markupText => "VText"

def ofName? (s : String) : Option Kind := all.find? (·.name == s)

/-- Whether fragments of scripts are of the kind. -/
def isOfScripts : Kind → Bool
  | literal | templateLiteral | elementText => true
  | attributeValue | markupText => false

/-- The kinds of those fragments of scripts in which nothing is embedded. -/
def IsPlain (k : Kind) : Prop := k = literal ∨ k = elementText

theorem isPlain_literal : IsPlain literal := Or.inl rfl

theorem isPlain_elementText : IsPlain elementText := Or.inr rfl

theorem IsPlain.ne {k : Kind} (h : k.IsPlain) : k ≠ templateLiteral := by
  rcases h with rfl | rfl
  · exact nofun
  · exact nofun

theorem IsPlain.isOfScripts {k : Kind} (h : k.IsPlain) : k.isOfScripts = true := by
  rcases h with rfl | rfl
  · rfl
  · rfl

/-- The number of delimiter characters at each end of the text. -/
def trimWidth : Kind → Nat
  | literal | templateLiteral | attributeValue => 1
  | elementText | markupText => 0

end Kind

namespace Region

def name : Region → String
  | script => "script"
  | template => "template"

def ofName? (s : String) : Option Region := [script, template].find? (·.name == s)

end Region

namespace Mode

/-- Documents whose parser exposes markup templates are visited in `markup` mode. -/
def ofDocument (templateAware : Bool) : Mode := if templateAware then markup else script

/-- Whether a fragment of this kind and region is visited. -/
def visits : Mode → Region → Kind → Bool
  | _, .script, .literal | _, .script, .templateLiteral | _, .script, .elementText => true
  | markup, .template, .elementText => false
  | markup, .template, _ => true
  | _, _, _ => false

end Mode

/-- A piece of a document that may hold prose. The interpolations are the spans of the embedded
expressions of a template literal, relative to the text; `none` when nothing is known of them. -/
structure Fragment where
  kind : Kind
  start : Int
  stop : Int
  text : Text
  region : Region
  interpolations : Option (List Span)
deriving DecidableEq, Repr

namespace Fragment

/-- The order by start, then by stop. -/
def le (a b : Fragment) : Bool :=
  a.start < b.start || (a.start == b.start && a.stop ≤ b.stop)

def isVisited (mode : Mode) (f : Fragment) : Bool := mode.visits f.region f.kind

end Fragment

end SmartQuotes
