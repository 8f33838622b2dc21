import ClientGen.Text.Quoted

/-! What a parser of scripts objects to: a cause, and the place where it was noticed. Its verdict says what came of
that. -/

set_option autoImplicit false

namespace ClientGen.Script

inductive Cause where
  | illegal
  | token (text : String)
  | quasi (text : String)
  | endOfInput
  | name
  | number
  | string
  | reservedWord
  | strictWord
  | misplaced
  | constWithoutValue
  | restWithDefault
  | restNotLast
  | bindingTwice (name : String)
  | constructorTwice
  | asyncConstructor
  | specialConstructor
  | staticPrototype
  | prototypeTwice
  | getterParameters
  | setterParameters
  | setterRest
  | loopInitializer
  | generatorLabel
  | strayBreak
  | strayContinue
  | strayReturn
  | lateDirective
  | escapedKeyword
  | hexEscape
  | assignmentTarget
  | forInTarget
  | forOfTarget
  | lexicalLet
  | defaultTwice
  | throwBreak
  | tryAlone
  | labelTwice (name : String)
  | labelUnknown (name : String)
  | strictCatch
  | strictDelete
  | strictFunction
  | strictFunctionName
  | strictAssignment
  | strictPostfix
  | strictPrefix
  | strictWith
  | strictOctal
  | strictParameterTwice
  | strictParameter
  | strictVariable
  | templateOctal
  | openPattern
  | tooDeep
  deriving DecidableEq, Repr

def Cause.text : Cause → String
  | illegal => "Unexpected token ILLEGAL"
  | token text => "Unexpected token " ++ text
  | quasi text => "Unexpected quasi " ++ text
  | endOfInput => "Unexpected end of input"
  | name => "Unexpected identifier"
  | number => "Unexpected number"
  | string => "Unexpected string"
  | reservedWord => "Unexpected reserved word"
  | strictWord => "Use of future reserved word in strict mode"
  | misplaced => "Unexpected token"
  | constWithoutValue => "Missing initializer in const declaration"
  | restWithDefault => "Unexpected token ="
  | restNotLast => "Rest parameter must be last formal parameter"
  | bindingTwice bound => "Duplicate binding " ++ bound
  | constructorTwice => "A class may only have one constructor"
  | asyncConstructor => "Class constructor may not be an async method"
  | specialConstructor => "Class constructor may not be an accessor"
  | staticPrototype => "Classes may not have static property named prototype"
  | prototypeTwice => "Duplicate __proto__ fields are not allowed in object literals"
  | getterParameters => "Getter must not have any formal parameters"
  | setterParameters => "Setter must have exactly one formal parameter"
  | setterRest => "Setter function argument must not be a rest parameter"
  | loopInitializer => "for-in loop variable declaration may not have an initializer"
  | generatorLabel => "Generator declarations are not allowed in legacy contexts"
  | strayBreak => "Illegal break statement"
  | strayContinue => "Illegal continue statement"
  | strayReturn => "Illegal return statement"
  | lateDirective => "Illegal 'use strict' directive in function with non-simple parameter list"
  | escapedKeyword => "Keyword must not contain escaped characters"
  | hexEscape => "Invalid hexadecimal escape sequence"
  | assignmentTarget => "Invalid left-hand side in assignment"
  | forInTarget => "Invalid left-hand side in for-in"
  | forOfTarget => "Invalid left-hand side in for-loop"
  | lexicalLet => "let is disallowed as a lexically bound name"
  | defaultTwice => "More than one default clause in switch statement"
  | throwBreak => "Illegal newline after throw"
  | tryAlone => "Missing catch or finally after try"
  | labelTwice label => "Label '" ++ label ++ "' has already been declared"
  | labelUnknown label => "Undefined label '" ++ label ++ "'"
  | strictCatch => "Catch variable may not be eval or arguments in strict mode"
  | strictDelete => "Delete of an unqualified identifier in strict mode."
  | strictFunction => "In strict mode code, functions can only be declared at top level or inside a block"
  | strictFunctionName => "Function name may not be eval or arguments in strict mode"
  | strictAssignment => "Assignment to eval or arguments is not allowed in strict mode"
  | strictPostfix => "Postfix increment/decrement may not have eval or arguments operand in strict mode"
  | strictPrefix => "Prefix increment/decrement may not have eval or arguments operand in strict mode"
  | strictWith => "Strict mode code may not include a with statement"
  | strictOctal => "Octal literals are not allowed in strict mode."
  | strictParameterTwice => "Strict mode function may not have duplicate parameter names"
  | strictParameter => "Parameter name eval or arguments is not allowed in strict mode"
  | strictVariable => "Variable name may not be eval or arguments in strict mode"
  | templateOctal => "Octal literals are not allowed in template strings."
  | openPattern => "Invalid regular expression: missing /"
  | tooDeep => "Nested too deeply"

/-- Characters are counted from zero, lines and columns from one. A column is counted from the start of the line
last read, which may come after the token that the problem is about. -/
structure Problem where
  index : Nat
  line : Nat
  column : Int
  cause : Cause
  deriving DecidableEq, Repr

namespace Problem

def reason (problem : Problem) : String :=
  "Line " ++ toString problem.line ++ ": " ++ problem.cause.text

def remark (problem : Problem) : String :=
  "\x7b'message': " ++ Text.quoted ("Error: " ++ problem.reason) ++
    ", 'index': " ++ toString problem.index ++ ", 'lineNumber': " ++ toString problem.line ++
    ", 'column': " ++ toString problem.column ++ "\x7d"

end Problem

/-- What is tolerated, and the line that it is told of; line 0 is no line of the script. -/
structure Remark where
  line : Nat := 0
  reason : String
  deriving DecidableEq, Repr

/-- A script is rejected with the line and the reason of its first error, or accepted, perhaps with remarks
on what is tolerated. -/
inductive Verdict where
  | rejected (line : Nat) (reason : String)
  | accepted (remarks : List Remark)
  deriving DecidableEq, Repr

abbrev Judge := Bool → String → Verdict

end ClientGen.Script
