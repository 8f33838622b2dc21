import ClientGen.Script.Shape

/-! The rules of the grammar that others come back to, and the smallest rules over them. A rule is written
against a record of the rules one level deeper, so the depth of a script bounds every recursion. -/

set_option autoImplicit false

namespace ClientGen.Script

structure Rules where
  assignment : Parse Shape
  unary : Parse Shape
  power : Parse Shape
  callee : Parse Shape
  leftHand : Parse Shape
  pattern : Declaration → Parse Bound
  statement : Parse Unit
  item : Parse Unit

namespace Grammar

open Parse

def expression (rules : Rules) : Parse Shape := do
  let first ← isolated rules.assignment
  if ← isPunctuator "," then
    repeatWith () fun _ => do
      if ← accept "," then
        discard (isolated rules.assignment)
        return (true, ())
      return (false, ())
    return .plain
  return first

def anyName : Parse Token := do
  let token ← advance
  match token.kind with
  | .name | .keyword | .boolean | .null => return token
  | _ => unexpected token

def bindingName (declaration : Declaration) : Parse Pattern := do
  let token ← advance
  let c ← context
  if token.kind = .keyword && token.value = "yield" then
    if c.isStrict then tolerateAt (.token token) .strictWord
    else unless c.allowsYield do unexpected token
  else if token.kind ≠ .name then
    if c.isStrict && token.kind = .keyword && Token.isStrictlyReserved token.value then
      tolerateAt (.token token) .strictWord
    else if c.isStrict || token.value ≠ "let" || declaration ≠ .variable then unexpected token
  else if ((← get).scanner.isModule || c.allowsAwait) && token.value = "await" then tolerateToken token
  return .name token.value

def checkOctal (token : Token) : Parse Unit := do
  if (← context).isStrict && token.isOctal then tolerateAt (.token token) .strictOctal

def startsKey (token : Token) : Bool :=
  match token.kind with
  | .name | .string | .boolean | .null | .number | .keyword => true
  | .punctuator => token.value = "["
  | _ => false

def propertyKey (rules : Rules) : Parse PropertyKey := do
  let token ← advance
  match token.kind with
  | .string =>
    checkOctal token
    return .string token.value
  | .number =>
    checkOctal token
    return .other
  | .name | .boolean | .null | .keyword => return .name token.value
  | .punctuator =>
    if token.value = "[" then
      discard (isolated rules.assignment)
      expect "]"
      return .other
    else unexpected token
  | _ => unexpected token

end Grammar

end ClientGen.Script
