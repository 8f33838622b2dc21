import ClientGen.Script.Grammar.Rules

/-! Patterns that bind names: in declarations, parameters and catch clauses. -/

set_option autoImplicit false

namespace ClientGen.Script.Grammar

open Parse

def patternWithDefault (rules : Rules) (declaration : Declaration) : Parse Bound := do
  let bound ← rules.pattern declaration
  if ← accept "=" then
    within (fun c => { c with allowsYield := true })
      (fun before now => { now with allowsYield := before.allowsYield })
      (discard (isolated rules.assignment))
    return { bound with pattern := .withDefault bound.pattern none }
  return bound

/-- The rest of the values; in an array it ends the pattern. -/
def restOf (rules : Rules) (declaration : Declaration) : Parse Bound := do
  expect "..."
  let bound ← rules.pattern declaration
  return { bound with pattern := .rest bound.pattern }

private def arrayPattern (rules : Rules) (declaration : Declaration) : Parse (List Bound) := do
  expect "["
  let bounds ← repeatWith [] fun bounds => do
    if ← isPunctuator "]" then return (false, bounds)
    if ← accept "," then return (true, bounds)
    if ← isPunctuator "..." then return (false, (← restOf rules declaration) :: bounds)
    let bound ← patternWithDefault rules declaration
    unless ← isPunctuator "]" do expect ","
    return (true, bound :: bounds)
  expect "]"
  return bounds.reverse

private def restProperty (rules : Rules) : Parse Bound := do
  let bound ← restOf rules .free
  if ← isPunctuator "=" then refuse .restWithDefault
  unless ← isPunctuator "\x7d" do refuse .misplaced
  return bound

private def propertyPattern (rules : Rules) (declaration : Declaration) : Parse Bound := do
  let token ← next
  if token.kind = .name then
    let name ← bindingName .free
    if ← accept "=" then
      discard rules.assignment
      return ⟨.withDefault name none, [token]⟩
    else if ← isPunctuator ":" then
      expect ":"
      patternWithDefault rules declaration
    else return ⟨name, [token]⟩
  else
    discard (propertyKey rules)
    expect ":"
    patternWithDefault rules declaration

private def objectPattern (rules : Rules) (declaration : Declaration) : Parse (List Bound) := do
  expect "\x7b"
  let bounds ← untilTest (isPunctuator "\x7d") do
    let bound ←
      if ← isPunctuator "..." then restProperty rules else propertyPattern rules declaration
    unless ← isPunctuator "\x7d" do expect ","
    return bound
  expect "\x7d"
  return bounds

def pattern (rules : Rules) (declaration : Declaration) : Parse Bound := do
  if ← isPunctuator "[" then
    let bounds ← arrayPattern rules declaration
    return ⟨.array (bounds.map Bound.pattern), bounds.flatMap Bound.names⟩
  else if ← isPunctuator "\x7b" then
    let bounds ← objectPattern rules declaration
    return ⟨.object (bounds.map Bound.pattern), bounds.flatMap Bound.names⟩
  else
    let token ← next
    if (← isKeyword "let") && (declaration = .constant || declaration = .lexical) then
      tolerateAt (.token token) .lexicalLet
    return ⟨← bindingName declaration, [token]⟩

def checkBound (pattern : Pattern) (cause : Cause) : Parse Unit := do
  match pattern with
  | .name text => if (← context).isStrict && Token.isRestricted text then tolerate cause
  | _ => return

end ClientGen.Script.Grammar
