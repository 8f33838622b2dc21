import ClientGen.Script.Grammar.Binding

/-! Functions, methods and classes. -/

set_option autoImplicit false

namespace ClientGen.Script.Grammar

open Parse

def restParameter (rules : Rules) : Parse Bound := do
  let bound ← restOf rules .free
  if ← isPunctuator "=" then refuse .restWithDefault
  unless ← isPunctuator ")" do refuse .restNotLast
  return bound

private def parameter (rules : Rules) (params : Parameters) : Parse Parameters := do
  let bound ←
    if ← isPunctuator "..." then restParameter rules else patternWithDefault rules .free
  let isStrict := (← context).isStrict
  let params := bound.names.foldl (fun params token => params.add isStrict (.token token) token.value) params
  return { params with
    patterns := params.patterns ++ [bound.pattern]
    isSimple := params.isSimple && bound.pattern.isName }

def parameters (rules : Rules) (restricted : Option Site) : Parse Parameters := do
  expect "("
  let params : Parameters := { restricted }
  let params ←
    if ← isPunctuator ")" then pure params
    else repeatWith params fun params => do
      if ← isEnd then return (false, params)
      let params ← parameter rules params
      if ← isPunctuator ")" then return (false, params)
      expect ","
      return (!(← isPunctuator ")"), params)
  expect ")"
  return params

/-- Directives before all else; one of them makes the script strict. -/
def directives (rules : Rules) : Parse Unit := do
  discard <| repeatWith (none : Option Token) fun octal => do
    let token ← next
    if token.kind ≠ .string then return (false, octal)
    let shape ← expression rules
    endStatement
    let directive := (token.raw.drop 1).dropLast
    match shape, directive with
    | .literal, _ :: _ =>
      if String.ofList directive = "use strict" then
        setContext fun c => { c with isStrict := true }
        if let some earlier := octal then tolerateAt (.token earlier) .strictOctal
        unless (← context).allowsDirective do tolerateAt (.token token) .lateDirective
        return (true, octal)
      else return (true, octal <|> if token.isOctal then some token else none)
    | _, _ => return (false, octal)

/-- The body of a function. Labels, loops and switches around it do not count inside. -/
def functionBody (rules : Rules) : Parse Unit := do
  expect "\x7b"
  directives rules
  within
    (fun c => { c with
      labels := []
      inLoop := false
      inSwitch := false
      inFunction := true })
    (fun before now => { now with
      labels := before.labels
      inLoop := before.inLoop
      inSwitch := before.inSwitch
      inFunction := before.inFunction })
    do
      discard <| untilTest (do return (← isEnd) || (← isPunctuator "\x7d")) rules.item
      expect "\x7d"

def withStrictness {α : Type} (allowsDirective : Bool) (part : Parse α) : Parse α :=
  within (fun c => { c with allowsDirective })
    (fun before now => { now with
      isStrict := before.isStrict
      allowsDirective := before.allowsDirective })
    part

private def methodBody (rules : Rules) (params : Parameters) : Parse Unit := do
  valueOnly
  withStrictness params.isSimple do
    isolated (functionBody rules)
    if (← context).isStrict then
      let cause := params.cause.getD .illegal
      if let some site := params.restricted then tolerateAt site cause
      if let some site := params.fault then tolerateAt site cause

inductive MethodKind where
  | plain | async | generator | getter | setter
  deriving DecidableEq

def method (rules : Rules) (kind : MethodKind) : Parse Unit :=
  within
    (fun c => { c with
      allowsYield := kind ≠ .async
      allowsAwait := kind = .async || c.allowsAwait })
    (fun before now => { now with
      allowsYield := before.allowsYield
      allowsAwait := before.allowsAwait })
    do
      let params ← parameters rules none
      match kind, params.patterns with
      | .getter, _ :: _ => tolerate .getterParameters
      | .setter, [pattern] => if pattern.isRest then tolerate .setterRest
      | .setter, _ => tolerate .setterParameters
      | _, _ => pure ()
      if kind = .generator then setContext fun c => { c with allowsYield := false }
      methodBody rules params

def isAsyncFunction : Parse Bool := do
  if ← isWord "async" then
    let line := (← get).scanner.line
    let token ← glance
    return line = token.line && token.kind = .keyword && token.value = "function"
  else return false

/-- A name that a strict function may not have; found out only after its body if the script is not strict yet. -/
private def checkFunctionName (token : Token) : Parse (Option (Site × Cause)) := do
  if (← context).isStrict then
    if Token.isRestricted token.value then tolerateAt (.token token) .strictFunctionName
    return none
  else if Token.isRestricted token.value then return some (.token token, .strictFunctionName)
  else if Token.isStrictlyReserved token.value then return some (.token token, .strictWord)
  else return none

private def functionRest (rules : Rules) (named : Option (Site × Cause)) : Parse Unit := do
  let params ← parameters rules (named.map Prod.fst)
  let cause := (params.cause <|> named.map Prod.snd).getD .illegal
  withStrictness params.isSimple do
    functionBody rules
    if (← context).isStrict then
      if let some site := params.restricted then refuseAt site cause
      if let some site := params.fault then tolerateAt site cause

private def withFunction {α : Type} (isAsync isGenerator : Bool) (part : Parse α) : Parse α :=
  within
    (fun c => { c with
      allowsAwait := isAsync
      allowsYield := !isGenerator })
    (fun before now => { now with
      allowsAwait := before.allowsAwait
      allowsYield := before.allowsYield })
    part

private def functionHead : Parse (Bool × Bool) := do
  let isAsync ← isWord "async"
  if isAsync then discard advance
  expectKeyword "function"
  return (isAsync, !isAsync && (← accept "*"))

def functionDeclaration (rules : Rules) (nameless : Bool) : Parse Bool := do
  let (isAsync, isGenerator) ← functionHead
  let named ←
    if nameless && (← isPunctuator "(") then pure none
    else do
      let token ← next
      discard (bindingName .free)
      checkFunctionName token
  withFunction isAsync isGenerator (functionRest rules named)
  return isGenerator

def functionExpression (rules : Rules) : Parse Unit := do
  let (isAsync, isGenerator) ← functionHead
  withFunction isAsync isGenerator do
    let named ←
      if ← isPunctuator "(" then pure none
      else do
        let token ← next
        if !(← context).isStrict && !isGenerator && (← isKeyword "yield") then discard anyName
        else discard (bindingName .free)
        checkFunctionName token
    functionRest rules named

private inductive Member where
  | accessor | method | generator
  deriving DecidableEq

/-- A member of a class; the flag says whether the class has a constructor by now. -/
private def classMember (rules : Rules) (hasConstructor : Bool) : Parse Bool := do
  let mut token ← next
  let mut key : Option PropertyKey := none
  let mut computed := false
  let mut isStatic := false
  let mut isAsync := false
  if ← isPunctuator "*" then discard advance
  else
    computed ← isPunctuator "["
    key := some (← propertyKey rules)
    if key = some (.name "static") && (startsKey (← next) || (← isPunctuator "*")) then
      token ← next
      isStatic := true
      computed ← isPunctuator "["
      if ← isPunctuator "*" then discard advance
      else key := some (← propertyKey rules)
    if token.kind = .name && !(← get).afterBreak && token.value = "async" then
      if !([":", "(", "*"].contains (← next).value) then
        isAsync := true
        token ← next
        key := some (← propertyKey rules)
        if token.kind = .name && token.value = "constructor" then
          tolerateAt (.token token) .asyncConstructor
  let keyFollows := startsKey (← next)
  let mut member : Option Member := none
  if token.kind = .name then
    if (token.value = "get" || token.value = "set") && keyFollows then
      computed ← isPunctuator "["
      key := some (← propertyKey rules)
      if token.value = "get" then
        setContext fun c => { c with allowsYield := false }
        method rules .getter
      else method rules .setter
      member := some .accessor
  else if token.kind = .punctuator && token.value = "*" && keyFollows then
    computed ← isPunctuator "["
    key := some (← propertyKey rules)
    method rules .generator
    member := some .generator
  if member.isNone && key.isSome && (← isPunctuator "(") then
    method rules (if isAsync then .async else .plain)
    member := some .method
  match member, key with
  | some found, some name =>
    if !computed && isStatic && name.is "prototype" then refuseAt (.token token) .staticPrototype
    if !computed && !isStatic && name.is "constructor" then
      if found ≠ .method then refuseAt (.token token) .specialConstructor
      if hasConstructor then refuseAt (.token token) .constructorTwice
      return true
    return hasConstructor
  | _, _ => unexpected (← next)

private def classBody (rules : Rules) : Parse Unit := do
  expect "\x7b"
  discard <| repeatWith false fun hasConstructor => do
    if ← isPunctuator "\x7d" then return (false, hasConstructor)
    if ← accept ";" then return (true, hasConstructor)
    return (true, ← classMember rules hasConstructor)
  expect "\x7d"

/-- A class, which is strict; its name may be left out where another token may stand in its place. -/
def classDefinition (rules : Rules) (nameless : Bool) : Parse Unit :=
  within (fun c => { c with isStrict := true })
    (fun before now => { now with isStrict := before.isStrict })
    do
      expectKeyword "class"
      unless nameless && (← next).kind ≠ .name do discard (bindingName .free)
      if ← isKeyword "extends" then
        discard advance
        discard (isolated rules.leftHand)
      classBody rules

end ClientGen.Script.Grammar
