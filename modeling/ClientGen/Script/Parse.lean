import ClientGen.Script.Token

/-! Reading a script token by token, with one token ahead: the state, the context that decides what is allowed,
and the ways to object. -/

set_option autoImplicit false

namespace ClientGen.Script

structure Marker where
  index : Nat
  line : Nat
  column : Int

def Scanner.marker (s : Scanner) : Marker := ⟨s.index, s.line, s.column⟩

/-- What is allowed at a place of the script, and what is known of the expression just read. -/
structure Context where
  isStrict : Bool := false
  allowsAwait : Bool := false
  allowsYield : Bool := true
  allowsIn : Bool := true
  allowsDirective : Bool := true
  inFunction : Bool := false
  inLoop : Bool := false
  inSwitch : Bool := false
  labels : List String := []
  /-- Whether the expression may be assigned to. -/
  isTarget : Bool := false
  /-- Whether the expression may be read as parameters. -/
  isBinding : Bool := false
  /-- The equals sign of a shorthand property with a default, which only a pattern may have. -/
  cover : Option Token := none

structure State where
  scanner : Scanner
  next : Token
  afterBreak : Bool := false
  startMark : Marker
  lastMark : Marker
  context : Context := {}

abbrev Parse := StateT State (Except Problem)

/-- What a problem is about: a token, or the place reached. -/
inductive Site where
  | token (token : Token)
  | here

namespace Parse

def context : Parse Context := return (← get).context

def next : Parse Token := return (← get).next

def setContext (change : Context → Context) : Parse Unit :=
  modify fun s => { s with context := change s.context }

/-- Runs a part in a changed context; afterwards some of the context from before holds again. -/
def within {α : Type} (enter : Context → Context) (leave : Context → Context → Context) (part : Parse α) :
    Parse α := do
  let before ← context
  setContext enter
  let result ← part
  setContext (leave before)
  return result

def causeFor (isStrict : Bool) (token : Token) : Cause :=
  match token.kind with
  | .endOfInput => .endOfInput
  | .name => .name
  | .number => .number
  | .string => .string
  | .template => .quasi token.value
  | .keyword =>
    if Token.isReserved token.value then .reservedWord
    else if isStrict && Token.isStrictlyReserved token.value then .strictWord
    else .token token.value
  | _ => .token token.value

/-- A problem with a token is placed at its start, and its column is counted from the line of the token before. -/
def problemAt (site : Site) (cause : Option Cause) : Parse Problem := do
  let s ← get
  match site with
  | .token token =>
    let column := (token.start : Int) - ((s.lastMark.index : Int) - s.lastMark.column) + 1
    return ⟨token.start, token.line, column, cause.getD (causeFor s.context.isStrict token)⟩
  | .here =>
    return ⟨s.lastMark.index, s.lastMark.line, s.lastMark.column + 1, cause.getD .illegal⟩

def unexpected {α : Type} (token : Token) : Parse α := do throw (← problemAt (.token token) none)

def refuseAt {α : Type} (site : Site) (cause : Cause) : Parse α := do throw (← problemAt site (some cause))

def refuse {α : Type} (cause : Cause) : Parse α := refuseAt .here cause

def note (problem : Problem) : Parse Unit :=
  modify fun s => { s with scanner := s.scanner.note problem }

def tolerateAt (site : Site) (cause : Cause) : Parse Unit := do note (← problemAt site (some cause))

def tolerateToken (token : Token) : Parse Unit := do note (← problemAt (.token token) none)

/-- A tolerated problem at the place reached is counted to the line of the token that is next. -/
def tolerate (cause : Cause) : Parse Unit := do
  let s ← get
  note ⟨s.lastMark.index, s.scanner.line, s.lastMark.column + 1, cause⟩

def scan {α : Type} (part : Scan α) : Parse α := do
  let s ← get
  match part.run s.scanner with
  | .ok (result, scanner) =>
    set { s with scanner }
    return result
  | .error problem => throw problem

/-- Takes the next token and reads the one after it. In a strict script the words it reserves are keywords. -/
def advance : Parse Token := do
  let s ← get
  let gap := s.scanner.skipGap
  set { s with
    scanner := gap
    lastMark := s.scanner.marker
    startMark := if gap.index = s.startMark.index then s.startMark else gap.marker }
  let token ← scan Scan.token
  let token :=
    if s.context.isStrict && token.kind = .name && Token.isStrictlyReserved token.value then
      { token with kind := .keyword }
    else token
  modify fun now => { now with
    next := token
    afterBreak := s.next.line ≠ token.line }
  return s.next

def pattern : Parse Unit := do
  modify fun s => { s with scanner := { s.scanner with
    rest := s.next.onward
    index := s.startMark.index } }
  let token ← scan Scan.pattern
  modify fun s => { s with next := token }
  discard advance

def glance : Parse Token := do
  let s ← get
  let token ← scan do
    modify Scanner.skipGap
    Scan.token
  modify fun now => { now with scanner := { s.scanner with remarks := now.scanner.remarks } }
  return token

def isPunctuator (text : String) : Parse Bool := do
  let token ← next
  return token.kind = .punctuator && token.value = text

def isKeyword (text : String) : Parse Bool := do
  let token ← next
  return token.kind = .keyword && token.value = text

def isWord (text : String) : Parse Bool := do
  let token ← next
  return token.kind = .name && token.value = text

def isEnd : Parse Bool := return (← next).kind = .endOfInput

def expect (text : String) : Parse Unit := do
  let token ← advance
  unless token.kind = .punctuator && token.value = text do unexpected token

def expectKeyword (text : String) : Parse Unit := do
  let token ← advance
  unless token.kind = .keyword && token.value = text do unexpected token

def accept (text : String) : Parse Bool := do
  if ← isPunctuator text then
    discard advance
    return true
  else return false

/-- A comma between two parts of a list; a semicolon in its place, or nothing, is tolerated. -/
def expectComma : Parse Unit := do
  if ← accept "," then return
  let token ← next
  if ← accept ";" then tolerateToken token
  else tolerateAt (.token token) (.token token.value)

/-- The end of a statement: a semicolon, or a place where one may be left out. -/
def endStatement : Parse Unit := do
  if ← accept ";" then return
  let s ← get
  if s.afterBreak then return
  unless s.next.kind = .endOfInput || (← isPunctuator "\x7d") do unexpected s.next
  modify fun s => { s with lastMark := s.startMark }

/-- An expression on its own: it has to make sense as one, and says nothing of what is around it. -/
def isolated {α : Type} (part : Parse α) : Parse α :=
  within
    (fun c => { c with
      isTarget := true
      isBinding := true
      cover := none })
    (fun before now => { now with
      isTarget := before.isTarget
      isBinding := before.isBinding
      cover := before.cover })
    do
      let result ← part
      if let some token := (← context).cover then unexpected token
      return result

/-- A part of an expression, which decides together with the other parts whether the whole may be assigned to. -/
def inherited {α : Type} (part : Parse α) : Parse α :=
  within
    (fun c => { c with
      isTarget := true
      isBinding := true
      cover := none })
    (fun before now => { now with
      isTarget := now.isTarget && before.isTarget
      isBinding := now.isBinding && before.isBinding
      cover := before.cover <|> now.cover })
    part

def valueOnly : Parse Unit :=
  setContext fun c => { c with
    isTarget := false
    isBinding := false }

def targetOnly : Parse Unit :=
  setContext fun c => { c with
    isTarget := true
    isBinding := false }

def repeatStep {σ : Type} (step : σ → Parse (Bool × σ)) : Nat → σ → Parse σ
  | 0, state => return state
  | bound + 1, state => do
    let (more, state) ← step state
    if more then repeatStep step bound state else return state

def repeatWith {σ : Type} (state : σ) (step : σ → Parse (Bool × σ)) : Parse σ := do
  repeatStep step ((← get).scanner.rest.length + 2) state

def untilTest {α : Type} (test : Parse Bool) (part : Parse α) : Parse (List α) := do
  let parts ← repeatWith [] fun parts => do
    if ← test then return (false, parts)
    return (true, (← part) :: parts)
  return parts.reverse

def sepByComma {α : Type} (part : Parse α) : Parse (List α) := do
  let parts ← repeatWith [← part] fun parts => do
    if ← accept "," then return (true, (← part) :: parts)
    return (false, parts)
  return parts.reverse

def start (text : List Char) : Except Problem State := do
  let scanner := Scanner.start text
  let token : Token := {
    kind := .endOfInput
    value := ""
    start := 0
    size := 0
    line := scanner.line
    onward := text }
  let mark : Marker := ⟨0, scanner.line, 0⟩
  let (_, s) ← advance.run {
    scanner
    next := token
    startMark := mark
    lastMark := mark }
  return { s with lastMark := s.scanner.marker }

end Parse

end ClientGen.Script
