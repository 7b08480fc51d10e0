import SmartQuotes.Script.Token

/-!
# Forms of expressions and patterns

What the grammar has to remember of a parsed expression or pattern: enough to tell whether it may
be assigned to, which names it binds when an arrow turns it into parameters, whether a string that
stands alone is a directive, and which key a string in brackets is. Of the literals strings have a
value.
-/

namespace SmartQuotes.Script

inductive Form
  | identifier (name : Token)
  | literal (value : Option String)
  | unary
  | sequence (members : List Form)
  | array (members : List Form)
  | object (values : List Form)
  | spread (argument : Form)
  | assignment (target value : Form)
  | initialized (target value : Form)
  | yielding (hasArgument : Bool)
  | parameters (members : List Form) (isAsync : Bool)
  | importCall
  | other

namespace Form

mutual

/-- The names that a form binds when it is read as a pattern. -/
def names : Form → List Token
  | identifier t => [t]
  | spread f => names f
  | assignment f _ => names f
  | initialized f _ => names f
  | array fs => namesOfAll fs
  | object fs => namesOfAll fs
  | _ => []

def namesOfAll : List Form → List Token
  | [] => []
  | f :: fs => names f ++ namesOfAll fs

end

/-- The token of an identifier. -/
def identifier? : Form → Option Token
  | identifier t => some t
  | _ => none

/-- The name of an identifier. -/
def name? (f : Form) : Option String := f.identifier?.map Token.value

def isIdentifier (f : Form) : Bool := f.name?.isSome

def isUnary : Form → Bool
  | unary => true
  | _ => false

def isLiteral : Form → Bool
  | literal _ => true
  | _ => false

def isSpread : Form → Bool
  | spread _ => true
  | _ => false

/-- Whether the form is a list or an object, as a pattern that needs an initial value. -/
def isDestructuring : Form → Bool
  | array _ => true
  | object _ => true
  | _ => false

def isAssignment : Form → Bool
  | assignment _ _ => true
  | _ => false

end Form

end SmartQuotes.Script
