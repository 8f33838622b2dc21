import ClientGen.Script.Grammar.Expression

/-! Statements and declarations. -/

set_option autoImplicit false

namespace ClientGen.Script.Grammar

open Parse

private def block (rules : Rules) : Parse Unit := do
  expect "\x7b"
  discard <| untilTest (isPunctuator "\x7d") rules.item
  expect "\x7d"

private def expressionStatement (rules : Rules) : Parse Unit := do
  discard (expression rules)
  endStatement

structure Declarator where
  pattern : Pattern
  hasValue : Bool

private def isPlainName (declarator : Declarator) : Bool := declarator.pattern.isName

private def variableDeclarator (rules : Rules) (inLoop : Bool) : Parse Declarator := do
  let bound ← rules.pattern .variable
  checkBound bound.pattern .strictVariable
  if ← accept "=" then
    discard (isolated rules.assignment)
    return ⟨bound.pattern, true⟩
  unless bound.pattern.isName || inLoop do expect "="
  return ⟨bound.pattern, false⟩

private def lexicalDeclarator (rules : Rules) (isConst inLoop : Bool) : Parse Declarator := do
  let bound ← rules.pattern (if isConst then .constant else .lexical)
  checkBound bound.pattern .strictVariable
  if isConst then
    if (← isKeyword "in") || (← isWord "of") then return ⟨bound.pattern, false⟩
    unless ← isPunctuator "=" do refuse .constWithoutValue
    discard advance
    discard (isolated rules.assignment)
    return ⟨bound.pattern, true⟩
  else if (!inLoop && !bound.pattern.isName) || (← isPunctuator "=") then
    expect "="
    discard (isolated rules.assignment)
    return ⟨bound.pattern, true⟩
  else return ⟨bound.pattern, false⟩

private def variableStatement (rules : Rules) : Parse Unit := do
  expectKeyword "var"
  discard (sepByComma (variableDeclarator rules false))
  endStatement

def lexicalDeclaration (rules : Rules) : Parse Unit := do
  let isConst := (← advance).value = "const"
  discard (sepByComma (lexicalDeclarator rules isConst false))
  endStatement

def startsLexical : Parse Bool := do
  let token ← glance
  match token.kind with
  | .name => return true
  | .punctuator => return token.value = "[" || token.value = "\x7b"
  | .keyword => return token.value = "let" || token.value = "yield"
  | _ => return false

/-- The closing bracket of a condition, and what it guards; without the bracket the next token is passed over
and nothing is guarded. -/
private def guarded (body : Parse Unit) : Parse Unit := do
  if ← accept ")" then body else tolerateToken (← advance)

private def looped (rules : Rules) : Parse Unit :=
  within (fun c => { c with inLoop := true })
    (fun before now => { now with inLoop := before.inLoop })
    rules.statement

private def ifStatement (rules : Rules) : Parse Unit := do
  let clause : Parse Unit := do
    if (← context).isStrict && (← isKeyword "function") then tolerate .strictFunction
    rules.statement
  expectKeyword "if"
  expect "("
  discard (expression rules)
  guarded do
    clause
    if ← isKeyword "else" then
      discard advance
      clause

private def doStatement (rules : Rules) : Parse Unit := do
  expectKeyword "do"
  looped rules
  expectKeyword "while"
  expect "("
  discard (expression rules)
  guarded (discard (accept ";"))

private def whileStatement (rules : Rules) : Parse Unit := do
  expectKeyword "while"
  expect "("
  discard (expression rules)
  guarded (looped rules)

private def withoutIn {α : Type} (part : Parse α) : Parse α :=
  within (fun c => { c with allowsIn := false })
    (fun before now => { now with allowsIn := before.allowsIn })
    part

private def loopOverVariables (rules : Rules) : Parse Bool := do
  discard advance
  let declarators ← withoutIn (sepByComma (variableDeclarator rules true))
  match declarators, ← isKeyword "in", ← isWord "of" with
  | [declarator], true, _ =>
    if declarator.hasValue && ((← context).isStrict || !isPlainName declarator) then
      tolerate .loopInitializer
    discard advance
    discard (expression rules)
    return true
  | [⟨_, false⟩], _, true =>
    discard advance
    discard rules.assignment
    return true
  | _, _, _ =>
    expect ";"
    return false

private def loopOverLexical (rules : Rules) : Parse Bool := do
  let isConst := (← advance).value = "const"
  if !(← context).isStrict && (← next).value = "in" then
    discard advance
    discard (expression rules)
    return true
  let declarators ← withoutIn (sepByComma (lexicalDeclarator rules isConst true))
  match declarators, ← isKeyword "in", ← isWord "of" with
  | [⟨_, false⟩], true, _ =>
    discard advance
    discard (expression rules)
    return true
  | [⟨_, false⟩], _, true =>
    discard advance
    discard rules.assignment
    return true
  | _, _, _ =>
    endStatement
    return false

private def loopOverTarget (rules : Rules) : Parse Bool := do
  let shape ← withoutIn (inherited rules.assignment)
  let isTarget := (← context).isTarget && (match shape with | .assignment _ _ => false | _ => true)
  if ← isKeyword "in" then
    unless isTarget do tolerate .forInTarget
    discard advance
    discard (expression rules)
    return true
  else if ← isWord "of" then
    unless isTarget do tolerate .forOfTarget
    discard advance
    discard rules.assignment
    return true
  else
    repeatWith () fun _ => do
      if ← accept "," then
        discard (isolated rules.assignment)
        return (true, ())
      return (false, ())
    expect ";"
    return false

private def forStatement (rules : Rules) : Parse Unit := do
  expectKeyword "for"
  expect "("
  let runsOver ←
    if ← accept ";" then pure false
    else if ← isKeyword "var" then loopOverVariables rules
    else if (← isKeyword "const") || (← isKeyword "let") then loopOverLexical rules
    else loopOverTarget rules
  unless runsOver do
    unless ← isPunctuator ";" do discard (isolated (expression rules))
    expect ";"
    unless ← isPunctuator ")" do discard (isolated (expression rules))
  guarded do
    within (fun c => { c with inLoop := true })
      (fun before now => { now with inLoop := before.inLoop })
      (isolated rules.statement)

private def jumpLabel : Parse Bool := do
  let s ← get
  if s.next.kind = .name && !s.afterBreak then
    discard (bindingName .free)
    unless (← context).labels.contains s.next.value do refuse (.labelUnknown s.next.value)
    return true
  else return false

private def continueStatement : Parse Unit := do
  expectKeyword "continue"
  let labelled ← jumpLabel
  endStatement
  unless labelled || (← context).inLoop do refuse .strayContinue

private def breakStatement : Parse Unit := do
  expectKeyword "break"
  let labelled ← jumpLabel
  endStatement
  let c ← context
  unless labelled || c.inLoop || c.inSwitch do refuse .strayBreak

private def returnStatement (rules : Rules) : Parse Unit := do
  unless (← context).inFunction do tolerate .strayReturn
  expectKeyword "return"
  let s ← get
  let ends := (← isPunctuator ";") || (← isPunctuator "\x7d") || s.afterBreak || (← isEnd)
  if !ends || s.next.kind = .string || s.next.kind = .template then discard (expression rules)
  endStatement

private def withStatement (rules : Rules) : Parse Unit := do
  if (← context).isStrict then tolerate .strictWith
  expectKeyword "with"
  expect "("
  discard (expression rules)
  guarded rules.statement

private def switchCase (rules : Rules) : Parse Bool := do
  let isDefault ← isKeyword "default"
  if isDefault then discard advance
  else
    expectKeyword "case"
    discard (expression rules)
  expect ":"
  discard <| untilTest
    (do return (← isPunctuator "\x7d") || (← isKeyword "default") || (← isKeyword "case")) rules.item
  return isDefault

private def switchStatement (rules : Rules) : Parse Unit := do
  expectKeyword "switch"
  expect "("
  discard (expression rules)
  expect ")"
  within (fun c => { c with inSwitch := true })
    (fun before now => { now with inSwitch := before.inSwitch })
    do
      expect "\x7b"
      discard <| repeatWith false fun hasDefault => do
        if ← isPunctuator "\x7d" then return (false, hasDefault)
        let isDefault ← switchCase rules
        if isDefault && hasDefault then refuse .defaultTwice
        return (true, hasDefault || isDefault)
      expect "\x7d"

/-- A statement that starts with a name: it may be a label. -/
private def labelledStatement (rules : Rules) : Parse Unit := do
  match ← expression rules with
  | .name label =>
    if ← accept ":" then
      if (← context).labels.contains label then refuse (.labelTwice label)
      setContext fun c => { c with labels := label :: c.labels }
      let token ← next
      if ← isKeyword "class" then
        tolerateToken token
        classDefinition rules false
      else if ← isKeyword "function" then
        let isGenerator ← functionDeclaration rules false
        if (← context).isStrict then tolerateAt (.token token) .strictFunction
        else if isGenerator then tolerateAt (.token token) .generatorLabel
      else rules.statement
      setContext fun c => { c with labels := c.labels.erase label }
    else endStatement
  | _ => endStatement

private def throwStatement (rules : Rules) : Parse Unit := do
  expectKeyword "throw"
  if (← get).afterBreak then refuse .throwBreak
  discard (expression rules)
  endStatement

private def catchClause (rules : Rules) : Parse Unit := do
  expectKeyword "catch"
  expect "("
  if ← isPunctuator ")" then unexpected (← next)
  let bound ← rules.pattern .free
  let mut known : List String := []
  for token in bound.names do
    if known.contains token.value then tolerate (.bindingTwice token.value)
    known := token.value :: known
  checkBound bound.pattern .strictCatch
  expect ")"
  block rules

private def tryStatement (rules : Rules) : Parse Unit := do
  expectKeyword "try"
  block rules
  let caught ← isKeyword "catch"
  if caught then catchClause rules
  let finished ← isKeyword "finally"
  if finished then
    expectKeyword "finally"
    block rules
  unless caught || finished do refuse .tryAlone

private def keywordStatement (rules : Rules) (keyword : String) : Parse Unit :=
  match keyword with
  | "break" => breakStatement
  | "continue" => continueStatement
  | "debugger" => do
    discard advance
    endStatement
  | "do" => doStatement rules
  | "for" => forStatement rules
  | "function" => discard (functionDeclaration rules false)
  | "if" => ifStatement rules
  | "return" => returnStatement rules
  | "switch" => switchStatement rules
  | "throw" => throwStatement rules
  | "try" => tryStatement rules
  | "var" => variableStatement rules
  | "while" => whileStatement rules
  | "with" => withStatement rules
  | _ => expressionStatement rules

def statement (rules : Rules) : Parse Unit := do
  let token ← next
  match token.kind with
  | .endOfInput => unexpected token
  | .punctuator =>
    if token.value = "\x7b" then block rules
    else if token.value = ";" then expect ";"
    else expressionStatement rules
  | .name =>
    if ← isAsyncFunction then discard (functionDeclaration rules false) else labelledStatement rules
  | .keyword => keywordStatement rules token.value
  | _ => expressionStatement rules

end ClientGen.Script.Grammar
