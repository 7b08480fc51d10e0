import SmartQuotes.Language
import SmartQuotes.Markup.Component

/-!
# Documents

The fragments of a document in one of the supported languages.
-/

namespace SmartQuotes

namespace Language

/-- Whether documents of the language expose markup templates. -/
def isTemplateAware : Language → Bool
  | script => false
  | component => true

/-- The fragments of a document. -/
def extract (l : Language) (document : Text) : Outcome (List Fragment) :=
  match l with
  | script => .ofExcept (Script.extract document 0 document.length .script)
  | component => Markup.extractComponent document

end Language

end SmartQuotes
