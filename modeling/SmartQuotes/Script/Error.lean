import SmartQuotes.Breakdown

/-!
# Syntax errors of scripts

Why a script is refused, and where: the offset of the character and the number of its line. The
wording of every cause is in `Cause.message`. A parse may also stop for a `Breakdown`.
-/

namespace SmartQuotes.Script

/-- Why a script is refused. -/
inductive Cause
  | unexpectedEnd
  | unexpectedIdentifier
  | unexpectedNumber
  | unexpectedString
  | unexpectedReserved
  | unexpectedQuasi (value : String)
  | unexpectedToken (value : String)
  | illegalCharacter
  | misplaced
  | strictReserved
  | escapedKeyword
  | hexEscape
  | templateOctal
  | regularExpression
  | unterminatedRegularExpression
  | assignmentTarget
  | forInTarget
  | forOfTarget
  | loopInitializer (loop : String)
  | missingInitializer (declaration : String)
  | restDefault
  | restNotLast
  | duplicateBinding (name : String)
  | duplicateProto
  | duplicateConstructor
  | constructorAccessor
  | constructorAsync
  | staticPrototype
  | getterArity
  | setterArity
  | setterRest
  | labelRedeclared (name : String)
  | labelUndefined (name : String)
  | breakOutside
  | continueOutside
  | returnOutside
  | throwNewline
  | noCatchOrFinally
  | secondDefault
  | letBinding
  | generatorLabel
  | strictDirective
  | strictCatch
  | strictDelete
  | strictFunction
  | strictFunctionName
  | strictAssignment
  | strictPostfix
  | strictPrefix
  | strictWith
  | strictOctal
  | strictDuplicateParameter
  | strictParameterName
  | strictVariableName
  | emptyAttribute
  | closingTag (name : String)
deriving DecidableEq, Repr

namespace Cause

/-- What is said of the cause. -/
def message : Cause → String
  | unexpectedEnd => "Unexpected end of input"
  | unexpectedIdentifier => "Unexpected identifier"
  | unexpectedNumber => "Unexpected number"
  | unexpectedString => "Unexpected string"
  | unexpectedReserved => "Unexpected reserved word"
  | unexpectedQuasi value => "Unexpected quasi " ++ value
  | unexpectedToken value => "Unexpected token " ++ value
  | illegalCharacter => "Unexpected token ILLEGAL"
  | misplaced => "Unexpected token"
  | strictReserved => "Use of future reserved word in strict mode"
  | escapedKeyword => "Keyword must not contain escaped characters"
  | hexEscape => "Invalid hexadecimal escape sequence"
  | templateOctal => "Octal literals are not allowed in template strings."
  | regularExpression => "Invalid regular expression"
  | unterminatedRegularExpression => "Invalid regular expression: missing /"
  | assignmentTarget => "Invalid left-hand side in assignment"
  | forInTarget => "Invalid left-hand side in for-in"
  | forOfTarget => "Invalid left-hand side in for-loop"
  | loopInitializer loop => loop ++ " loop variable declaration may not have an initializer"
  | missingInitializer declaration => "Missing initializer in " ++ declaration ++ " declaration"
  | restDefault => "Unexpected token ="
  | restNotLast => "Rest parameter must be last formal parameter"
  | duplicateBinding name => "Duplicate binding " ++ name
  | duplicateProto => "Duplicate __proto__ fields are not allowed in object literals"
  | duplicateConstructor => "A class may only have one constructor"
  | constructorAccessor => "Class constructor may not be an accessor"
  | constructorAsync => "Class constructor may not be an async method"
  | staticPrototype => "Classes may not have static property named prototype"
  | getterArity => "Getter must not have any formal parameters"
  | setterArity => "Setter must have exactly one formal parameter"
  | setterRest => "Setter function argument must not be a rest parameter"
  | labelRedeclared name => "Label '" ++ name ++ "' has already been declared"
  | labelUndefined name => "Undefined label '" ++ name ++ "'"
  | breakOutside => "Illegal break statement"
  | continueOutside => "Illegal continue statement"
  | returnOutside => "Illegal return statement"
  | throwNewline => "Illegal newline after throw"
  | noCatchOrFinally => "Missing catch or finally after try"
  | secondDefault => "More than one default clause in switch statement"
  | letBinding => "let is disallowed as a lexically bound name"
  | generatorLabel => "Generator declarations are not allowed in legacy contexts"
  | strictDirective =>
    "Illegal 'use strict' directive in function with non-simple parameter list"
  | strictCatch => "Catch variable may not be eval or arguments in strict mode"
  | strictDelete => "Delete of an unqualified identifier in strict mode."
  | strictFunction =>
    "In strict mode code, functions can only be declared at top level or inside a block"
  | strictFunctionName => "Function name may not be eval or arguments in strict mode"
  | strictAssignment => "Assignment to eval or arguments is not allowed in strict mode"
  | strictPostfix =>
    "Postfix increment/decrement may not have eval or arguments operand in strict mode"
  | strictPrefix =>
    "Prefix increment/decrement may not have eval or arguments operand in strict mode"
  | strictWith => "Strict mode code may not include a with statement"
  | strictOctal => "Octal literals are not allowed in strict mode."
  | strictDuplicateParameter => "Strict mode function may not have duplicate parameter names"
  | strictParameterName => "Parameter name eval or arguments is not allowed in strict mode"
  | strictVariableName => "Variable name may not be eval or arguments in strict mode"
  | emptyAttribute => "JSX attributes must only be assigned a non-empty expression"
  | closingTag name => "Expected corresponding JSX closing tag for " ++ name

end Cause

/-- A cause with its place in the parsed text. -/
structure SyntaxError where
  offset : Nat
  line : Nat
  cause : Cause
deriving DecidableEq, Repr

namespace SyntaxError

/-- The cause behind the number of its line. -/
def message (e : SyntaxError) : String := s!"Line {e.line}: {e.cause.message}"

end SyntaxError

/-- Why a parse ends early: the script is refused, or its reader breaks down. -/
inductive Halt
  | refused (e : SyntaxError)
  | broken (b : Breakdown)
deriving DecidableEq, Repr

end SmartQuotes.Script
