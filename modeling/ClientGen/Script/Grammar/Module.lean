import ClientGen.Script.Grammar.Statement

/-! Imports, exports and the items of a script. -/

set_option autoImplicit false

namespace ClientGen.Script.Grammar

open Parse

private def moduleName : Parse Unit := do
  unless (← next).kind = .string do refuse .misplaced
  discard advance

private def expectFrom : Parse Unit := do
  unless ← isWord "from" do
    let token ← next
    refuse (if token.value = "" || (token.kind = .number && token.value = "0") then .misplaced
      else .token token.value)
  discard advance

private def importedName : Parse Unit := do
  let isName := (← next).kind = .name
  if isName then discard (bindingName .free) else discard anyName
  if ← isWord "as" then
    discard advance
    discard (bindingName .free)
  else unless isName do unexpected (← advance)

private def namedImports : Parse Unit := do
  expect "\x7b"
  discard <| untilTest (isPunctuator "\x7d") do
    importedName
    unless ← isPunctuator "\x7d" do expect ","
  expect "\x7d"

private def wholeImport : Parse Unit := do
  expect "*"
  unless ← isWord "as" do refuse .misplaced
  discard advance
  discard anyName

private def importClause : Parse Unit := do
  let token ← next
  if ← isPunctuator "\x7b" then namedImports
  else if ← isPunctuator "*" then wholeImport
  else
    let isName := match token.kind with
      | .name | .boolean | .null => true
      | .keyword => token.value ≠ "default"
      | _ => false
    unless isName do unexpected (← advance)
    discard anyName
    if ← accept "," then
      if ← isPunctuator "*" then wholeImport
      else if ← isPunctuator "\x7b" then namedImports
      else unexpected (← next)

private def importDeclaration : Parse Unit := do
  if (← context).inFunction then refuse .misplaced
  expectKeyword "import"
  if (← next).kind = .string then moduleName
  else
    importClause
    expectFrom
    moduleName
  endStatement

private def exportDefault (rules : Rules) : Parse Unit := do
  discard advance
  if ← isKeyword "function" then discard (functionDeclaration rules true)
  else if ← isKeyword "class" then classDefinition rules true
  else if ← isWord "async" then
    if ← isAsyncFunction then discard (functionDeclaration rules true) else discard rules.assignment
  else
    if ← isWord "from" then refuse (.token "from")
    if ← isPunctuator "\x7b" then discard (objectLiteral rules)
    else if ← isPunctuator "[" then discard (arrayLiteral rules)
    else discard rules.assignment
    endStatement

private def exportedName : Parse Unit := do
  discard anyName
  if ← isWord "as" then
    discard advance
    discard anyName

private def namedExports : Parse Unit := do
  expect "\x7b"
  let needsModule ← repeatWith false fun needsModule => do
    if ← isPunctuator "\x7d" then return (false, needsModule)
    let needsModule := needsModule || (← isKeyword "default")
    exportedName
    unless ← isPunctuator "\x7d" do expect ","
    return (true, needsModule)
  expect "\x7d"
  if needsModule || (← isWord "from") then
    expectFrom
    moduleName
  endStatement

private def exportDeclaration (rules : Rules) : Parse Unit := do
  if (← context).inFunction then refuse .misplaced
  expectKeyword "export"
  let token ← next
  if ← isKeyword "default" then exportDefault rules
  else if ← accept "*" then
    expectFrom
    moduleName
    endStatement
  else if token.kind = .keyword then
    if token.value = "let" || token.value = "const" then lexicalDeclaration rules
    else if ["var", "class", "function"].contains token.value then rules.item
    else unexpected token
  else if ← isAsyncFunction then discard (functionDeclaration rules false)
  else namedExports

/-- A statement, or a declaration that may stand only where statements follow each other. Outside modules
imports and exports are tolerated. -/
def item (rules : Rules) : Parse Unit := do
  setContext fun c => { c with
    isTarget := true
    isBinding := true }
  let token ← next
  let isModule := (← get).scanner.isModule
  if token.kind ≠ .keyword then statement rules
  else match token.value with
    | "export" =>
      unless isModule do tolerateAt (.token token) .misplaced
      exportDeclaration rules
    | "import" =>
      if ← isImportCall then statement rules
      else
        unless isModule do tolerateAt (.token token) .misplaced
        importDeclaration
    | "const" => lexicalDeclaration rules
    | "function" => discard (functionDeclaration rules false)
    | "class" => classDefinition rules false
    | "let" => if ← startsLexical then lexicalDeclaration rules else statement rules
    | _ => statement rules

def rules : Nat → Rules
  | 0 => {
    assignment := refuse .tooDeep
    unary := refuse .tooDeep
    power := refuse .tooDeep
    callee := refuse .tooDeep
    leftHand := refuse .tooDeep
    pattern := fun _ => refuse .tooDeep
    statement := refuse .tooDeep
    item := refuse .tooDeep }
  | depth + 1 => {
    assignment := fun s => assignment (rules depth) s
    unary := fun s => unary (rules depth) s
    power := fun s => power (rules depth) s
    callee := fun s => callee (rules depth) s
    leftHand := fun s => callOrMember (rules depth) s
    pattern := fun declaration s => pattern (rules depth) declaration s
    statement := fun s => statement (rules depth) s
    item := fun s => item (rules depth) s }

def program (isModule : Bool) (rules : Rules) : Parse Unit := do
  if isModule then
    setContext fun c => { c with isStrict := true }
    modify fun s => { s with scanner := { s.scanner with isModule } }
  directives rules
  discard <| untilTest isEnd rules.item

end ClientGen.Script.Grammar
