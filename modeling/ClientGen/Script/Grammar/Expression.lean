import ClientGen.Script.Grammar.Function

/-! Expressions. Parameters of arrow functions are read as expressions first, and what was read is taken for
patterns when the arrow comes. -/

set_option autoImplicit false

namespace ClientGen.Script.Grammar

open Parse

private def spread (rules : Rules) : Parse Pattern := do
  expect "..."
  return .rest (← inherited rules.assignment).toPattern

def arrayLiteral (rules : Rules) : Parse Shape := do
  expect "["
  let elements ← repeatWith [] fun elements => do
    if ← isPunctuator "]" then return (false, elements)
    if ← accept "," then return (true, elements)
    if ← isPunctuator "..." then
      let element ← spread rules
      unless ← isPunctuator "]" do
        valueOnly
        expect ","
      return (true, element :: elements)
    let element ← inherited rules.assignment
    unless ← isPunctuator "]" do expect ","
    return (true, element.toPattern :: elements)
  expect "]"
  return .other (.array elements.reverse)

/-- A property whose key is read; the flag says whether a prototype was given by now. -/
private def plainProperty (rules : Rules) (first : Token) (key : Option PropertyKey) (computed isAsync : Bool)
    (hasPrototype : Bool) : Parse (Bool × Pattern) := do
  let some key := key | unexpected (← next)
  if !isAsync && (← isPunctuator ":") then
    let isPrototype := !computed && key.is "__proto__"
    if isPrototype && hasPrototype then tolerate .prototypeTwice
    discard advance
    return (hasPrototype || isPrototype, (← inherited rules.assignment).toPattern)
  else if ← isPunctuator "(" then
    method rules (if isAsync then .async else .plain)
    return (hasPrototype, .other)
  else if first.kind = .name then
    let sign ← next
    if ← isPunctuator "=" then
      setContext fun c => { c with cover := some sign }
      discard advance
      let value ← isolated rules.assignment
      return (hasPrototype, .withDefault (.name first.value) value.yields?)
    else return (hasPrototype, .name first.value)
  else unexpected (← advance)

private def property (rules : Rules) (hasPrototype : Bool) : Parse (Bool × Pattern) := do
  let first ← next
  let mut key : Option PropertyKey := none
  let mut computed := false
  let mut isAsync := false
  if first.kind = .name then
    discard advance
    computed ← isPunctuator "["
    let following ← next
    isAsync := !(← get).afterBreak && first.value = "async" &&
      !(following.kind = .punctuator && [":", "(", "*", ","].contains following.value)
    key := some (← if isAsync then propertyKey rules else pure (.name first.value))
  else if ← isPunctuator "*" then discard advance
  else
    computed ← isPunctuator "["
    key := some (← propertyKey rules)
  let keyFollows := startsKey (← next)
  if keyFollows && first.kind = .name && !isAsync && (first.value = "get" || first.value = "set") then
    discard (propertyKey rules)
    if first.value = "get" then
      setContext fun c => { c with allowsYield := false }
      method rules .getter
    else method rules .setter
    return (hasPrototype, .other)
  else if keyFollows && first.kind = .punctuator && first.value = "*" then
    discard (propertyKey rules)
    method rules .generator
    return (hasPrototype, .other)
  else plainProperty rules first key computed isAsync hasPrototype

def objectLiteral (rules : Rules) : Parse Shape := do
  expect "\x7b"
  let (_, properties) ← repeatWith (false, []) fun (hasPrototype, properties) => do
    if ← isPunctuator "\x7d" then return (false, hasPrototype, properties)
    let (hasPrototype, value) ←
      if ← isPunctuator "..." then pure (hasPrototype, ← spread rules) else property rules hasPrototype
    unless ← isPunctuator "\x7d" do expectComma
    return (true, hasPrototype, value :: properties)
  expect "\x7d"
  return .other (.object properties.reverse)

private def template (rules : Rules) : Parse Unit := do
  let head ← advance
  discard <| repeatWith head.closesTemplate fun closed => do
    if closed then return (false, closed)
    discard (expression rules)
    unless (← next).kind = .template do refuse .illegal
    return (true, (← advance).closesTemplate)

private def requireArrow : Parse Unit := do
  unless ← isPunctuator "=>" do expect "=>"

/-- Expressions in brackets after the first one, and whether an arrow has to follow. -/
private def groupRest (rules : Rules) (first : Pattern) : Parse (List Pattern × Bool) := do
  setContext fun c => { c with isTarget := false }
  let (patterns, arrow) ← repeatWith ([first], false) fun (patterns, arrow) => do
    if arrow || (← isEnd) then return (false, patterns, arrow)
    unless ← accept "," do return (false, patterns, arrow)
    if ← accept ")" then return (false, patterns, true)
    if ← isPunctuator "..." then
      unless (← context).isBinding do unexpected (← next)
      let rest ← restParameter rules
      expect ")"
      requireArrow
      setContext fun c => { c with isBinding := false }
      return (false, rest.pattern :: patterns, true)
    return (true, (← inherited rules.assignment).toPattern :: patterns, false)
  return (patterns.reverse, arrow)

private def group (rules : Rules) : Parse Shape := do
  expect "("
  if ← accept ")" then
    requireArrow
    return .parameters [] false
  if ← isPunctuator "..." then
    let rest ← restParameter rules
    expect ")"
    requireArrow
    return .parameters [rest.pattern] false
  setContext fun c => { c with isBinding := true }
  let first ← inherited rules.assignment
  let isSequence ← isPunctuator ","
  let (patterns, arrow) ←
    if isSequence then groupRest rules first.toPattern else pure ([first.toPattern], false)
  if arrow then return .parameters patterns false
  expect ")"
  let shape ←
    if ← isPunctuator "=>" then do
      let isYield := !isSequence && (match first with | .name text => text = "yield" | _ => false)
      unless isYield || (← context).isBinding do unexpected (← next)
      pure (.parameters patterns false)
    else pure (if isSequence then .plain else first)
  setContext fun c => { c with isBinding := false }
  return shape

def isImportCall : Parse Bool := do
  if ← isKeyword "import" then
    let token ← glance
    return token.kind = .punctuator && token.value = "("
  else return false

private def keywordPrimary (rules : Rules) : Parse Shape := do
  let c ← context
  let token ← next
  if !c.isStrict && c.allowsYield && token.value = "yield" then return .name (← anyName).value
  if !c.isStrict && token.value = "let" then return .name (← advance).value
  valueOnly
  if token.value = "function" then
    functionExpression rules
    return .plain
  else if token.value = "this" then
    discard advance
    return .plain
  else if token.value = "class" then
    classDefinition rules true
    return .plain
  else if ← isImportCall then
    expectKeyword "import"
    return .importer
  else unexpected (← advance)

def primary (rules : Rules) : Parse Shape := do
  let token ← next
  match token.kind with
  | .name =>
    if ((← get).scanner.isModule || (← context).allowsAwait) && token.value = "await" then
      tolerateToken token
    if ← isAsyncFunction then
      functionExpression rules
      return .plain
    else return .name (← advance).value
  | .number | .string =>
    checkOctal token
    valueOnly
    discard advance
    return .literal
  | .boolean | .null =>
    valueOnly
    discard advance
    return .literal
  | .template =>
    template rules
    return .plain
  | .punctuator =>
    if token.value = "(" then
      setContext fun c => { c with isBinding := false }
      inherited (group rules)
    else if token.value = "[" then inherited (arrayLiteral rules)
    else if token.value = "\x7b" then inherited (objectLiteral rules)
    else if token.value = "/" || token.value = "/=" then
      valueOnly
      Parse.pattern
      return .plain
    else unexpected (← advance)
  | .keyword => keywordPrimary rules
  | _ => unexpected (← advance)

/-- Arguments in brackets; those of what may turn out to be an asynchronous arrow function are patterns as far
as defaults of shorthand properties go. -/
private def arguments (rules : Rules) (asPatterns : Bool) : Parse (List Pattern) := do
  expect "("
  let values ←
    if ← isPunctuator ")" then pure []
    else repeatWith [] fun values => do
      let value ←
        if ← isPunctuator "..." then spread rules
        else do
          let shape ← isolated do
            let shape ← rules.assignment
            if asPatterns then setContext fun c => { c with cover := none }
            return shape
          pure shape.toPattern
      if ← isPunctuator ")" then return (false, value :: values)
      expectComma
      return (!(← isPunctuator ")"), value :: values)
  expect ")"
  return values.reverse

private def newExpression (rules : Rules) : Parse Shape := do
  discard anyName
  if ← accept "." then
    let token ← next
    unless token.kind = .name && (← context).inFunction && token.value = "target" do unexpected token
    discard anyName
    return .plain
  else if ← isKeyword "import" then unexpected (← next)
  else
    discard (isolated rules.callee)
    if ← isPunctuator "(" then discard (arguments rules false)
    valueOnly
    return .plain

private def head (rules : Rules) : Parse Shape := do
  if ← isKeyword "new" then inherited (newExpression rules) else inherited (primary rules)

private def access (rules : Rules) : Parse Bool := do
  let token ← next
  if ← isPunctuator "." then
    targetOnly
    expect "."
    discard anyName
    return true
  else if ← isPunctuator "[" then
    targetOnly
    expect "["
    discard (isolated (expression rules))
    expect "]"
    return true
  else if token.kind = .template && token.opensTemplate then
    template rules
    return true
  else return false

def callOrMember (rules : Rules) : Parse Shape := do
  let first ← next
  let maybeAsync ← isWord "async"
  within (fun c => { c with allowsIn := true })
    (fun before now => { now with allowsIn := before.allowsIn })
    do
      let start ←
        if (← isKeyword "super") && (← context).inFunction then do
          discard advance
          unless (← isPunctuator "(") || (← isPunctuator ".") || (← isPunctuator "[") do
            unexpected (← next)
          pure .plain
        else head rules
      repeatWith start fun shape => do
        if ← isPunctuator "(" then
          let asyncArrow := maybeAsync && first.line = (← next).line
          valueOnly
          let values ← arguments rules asyncArrow
          if let .importer := shape then
            unless values.length = 1 do tolerate .misplaced
          if asyncArrow && (← isPunctuator "=>") then return (true, .parameters values true)
          return (true, .plain)
        else if ← access rules then return (true, .plain)
        else return (false, shape)

def callee (rules : Rules) : Parse Shape := do
  let start ←
    if (← isKeyword "super") && (← context).inFunction then do
      expectKeyword "super"
      unless (← isPunctuator "[") || (← isPunctuator ".") do unexpected (← next)
      pure .plain
    else head rules
  repeatWith start fun shape => do
    if ← access rules then return (true, .plain) else return (false, shape)

private def isStep : Parse Bool := return (← isPunctuator "++") || (← isPunctuator "--")

private def checkStep (shape : Shape) (cause : Cause) : Parse Unit := do
  if (← context).isStrict && shape.isRestricted then tolerate cause
  unless (← context).isTarget do tolerate .assignmentTarget
  valueOnly

private def update (rules : Rules) : Parse Shape := do
  if ← isStep then
    discard advance
    let shape ← inherited rules.unary
    checkStep shape .strictPrefix
    return .plain
  else
    let shape ← inherited (callOrMember rules)
    if !(← get).afterBreak && (← isStep) then
      checkStep shape .strictPostfix
      discard advance
      return .plain
    return shape

def unary (rules : Rules) : Parse Shape := do
  let token ← next
  let isOperator :=
    (token.kind = .punctuator && ["+", "-", "~", "!"].contains token.value) ||
      (token.kind = .keyword && ["delete", "void", "typeof"].contains token.value)
  if isOperator then
    discard advance
    let shape ← inherited rules.unary
    if (← context).isStrict && token.value = "delete" && shape.isName then tolerate .strictDelete
    valueOnly
    return .unary
  else if (← context).allowsAwait && (← isWord "await") then
    discard advance
    discard rules.unary
    return .plain
  else update rules

def power (rules : Rules) : Parse Shape := do
  let shape ← inherited (unary rules)
  match shape with
  | .unary => return shape
  | _ =>
    if ← accept "**" then
      valueOnly
      discard (isolated rules.power)
      return .plain
    else return shape

def binaryOperators : List String := [
  "||", "&&", "|", "^", "&", "==", "!=", "===", "!==", "<", ">", "<=", ">=", "<<", ">>", ">>>", "+", "-",
  "*", "/", "%"]

private def isBinary : Parse Bool := do
  let token ← next
  match token.kind with
  | .punctuator => return binaryOperators.contains token.value
  | .keyword => return token.value = "instanceof" || (token.value = "in" && (← context).allowsIn)
  | _ => return false

/-- Values with operators between them; how they group makes no difference to what is allowed. -/
private def binary (rules : Rules) : Parse Shape := do
  let first ← inherited (power rules)
  if ← isBinary then
    discard advance
    valueOnly
    discard (isolated (power rules))
    repeatWith () fun _ => do
      if ← isBinary then
        discard advance
        discard (isolated (power rules))
        return (true, ())
      return (false, ())
    return .plain
  return first

private def conditional (rules : Rules) : Parse Shape := do
  let first ← inherited (binary rules)
  if ← accept "?" then
    within (fun c => { c with allowsIn := true })
      (fun before now => { now with allowsIn := before.allowsIn })
      (discard (isolated rules.assignment))
    expect ":"
    discard (isolated rules.assignment)
    valueOnly
    return .plain
  return first

private def startsValue : Parse Bool := do
  let token ← next
  match token.kind with
  | .punctuator =>
    return ["[", "(", "\x7b", "+", "-", "!", "~", "++", "--", "/", "/="].contains token.value
  | .keyword =>
    return ["class", "delete", "function", "let", "new", "super", "this", "typeof", "void",
      "yield"].contains token.value
  | _ => return true

private def yieldExpression (rules : Rules) : Parse Shape := do
  expectKeyword "yield"
  if (← get).afterBreak then return .yielded false
  within (fun c => { c with allowsYield := false })
    (fun before now => { now with allowsYield := before.allowsYield })
    do
      if ← accept "*" then
        discard rules.assignment
        return .yielded true
      else if ← startsValue then
        discard rules.assignment
        return .yielded true
      else return .yielded false

private def arrowParameters (shape : Shape) : Parse (Option Parameters) := do
  let (patterns, isAsync) ← match shape with
    | .name text => pure ([Pattern.name text], false)
    | .parameters patterns isAsync => pure (patterns, isAsync)
    | _ => return none
  let isStrict := (← context).isStrict
  let token ← next
  let mut params : Parameters := { patterns }
  for pattern in patterns do
    match pattern with
    | .withDefault _ (some true) => unexpected token
    | .name "await" => if isAsync then unexpected token
    | _ => pure ()
    params := params.addPattern isStrict pattern
  if isStrict || !(← context).allowsYield then
    for pattern in patterns do
      if let .yielded := pattern then unexpected token
  if params.cause = some .strictParameterTwice then
    match if isStrict then params.fault else params.restricted with
    | some site => refuseAt site .strictParameterTwice
    | none => refuse .strictParameterTwice
  return some params

private def arrowFunction (rules : Rules) (params : Parameters) (isAsync : Bool) : Parse Unit := do
  if (← get).afterBreak then tolerateToken (← next)
  setContext fun c => { c with cover := none }
  withStrictness params.isSimple do
    within
      (fun c => { c with
        allowsYield := true
        allowsAwait := isAsync })
      (fun before now => { now with
        allowsYield := before.allowsYield
        allowsAwait := before.allowsAwait })
      do
        expect "=>"
        if ← isPunctuator "\x7b" then
          within (fun c => { c with allowsIn := true })
            (fun before now => { now with allowsIn := before.allowsIn })
            (functionBody rules)
        else discard (isolated rules.assignment)
        if (← context).isStrict then
          let cause := params.cause.getD .illegal
          if let some site := params.restricted then refuseAt site cause
          if let some site := params.fault then tolerateAt site cause

def assignmentOperators : List String :=
  ["=", "*=", "**=", "/=", "%=", "+=", "-=", "<<=", ">>=", ">>>=", "&=", "^=", "|="]

/-- An assignment whose target is read, if an operator follows; the token is the one the target starts with. -/
private def assigned (rules : Rules) (first : Token) (shape : Shape) : Parse Shape := do
  let operator ← next
  unless operator.kind = .punctuator && assignmentOperators.contains operator.value do return shape
  let c ← context
  unless c.isTarget do tolerate .assignmentTarget
  if c.isStrict then
    if let .name text := shape then
      if Token.isRestricted text then tolerateAt (.token first) .strictAssignment
      if Token.isStrictlyReserved text then tolerateAt (.token first) .strictWord
  unless operator.value = "=" do valueOnly
  discard advance
  let value ← isolated rules.assignment
  setContext fun c => { c with cover := none }
  return .assignment shape.toPattern value.yields?

def assignment (rules : Rules) : Parse Shape := do
  if !(← context).allowsYield && (← isKeyword "yield") then yieldExpression rules
  else
    let first ← next
    let mut shape ← conditional rules
    let following ← next
    if first.kind = .name && first.value = "async" && first.line = following.line &&
        (following.kind = .name || (following.kind = .keyword && following.value = "yield")) then
      shape := .parameters [(← primary rules).toPattern] true
    let isAsync := match shape with
      | .parameters _ isAsync => some isAsync
      | _ => none
    if isAsync.isSome || (← isPunctuator "=>") then
      valueOnly
      match ← arrowParameters shape with
      | some params =>
        arrowFunction rules params (isAsync.getD false)
        return .plain
      | none => return shape
    else assigned rules first shape

end ClientGen.Script.Grammar
