import SmartQuotes.Path

/-!
# Languages

The languages of documents and the file suffixes that stand for them, in either case of letters.
-/

namespace SmartQuotes

inductive Language
  | script
  | component
deriving DecidableEq, Repr

namespace Language

def name : Language → String
  | script => "script"
  | component => "vue"

def ofName? (s : String) : Option Language := [script, component].find? (·.name == s)

/-- The suffixes of scripts. -/
def scriptSuffixes : List Text := [".js", ".jsx", ".mjs", ".cjs"].map text

/-- The suffixes of components. -/
def componentSuffixes : List Text := [".vue"].map text

/-- The language of a file, if its suffix stands for one. -/
def ofPath? (p : Path) : Option Language :=
  let suffix := p.suffix.lower
  if scriptSuffixes.contains suffix then some script
  else if componentSuffixes.contains suffix then some component
  else none

end Language

end SmartQuotes
