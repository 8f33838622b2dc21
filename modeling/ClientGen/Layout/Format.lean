import ClientGen.Layout.Comment

/-! Laying out a script: where its lines end, how they are indented, and where blanks stand between its tokens.
Each token is written by a rule for its kind. -/

set_option autoImplicit false

namespace ClientGen.Layout

namespace Print

private def startsProperty : Print Bool := do
  let p ← get
  let f := p.frame
  return p.parent.mode = .object && f.mode = .statement &&
    ((f.last.text = ":" && f.ternaries = 0) || f.last.isReservedIn ["get", "set"])

private def startsStatement (p : Printer) (t : Token) : Bool :=
  let f := p.frame
  let last := f.last
  let closed := p.previousFrame.mode
  (last.isReservedIn ["var", "let", "const"] && t.kind = .word) ||
  last.isReservedIn ["do"] ||
  -- After such a word a line end would end the statement.
  (!(p.parent.mode = .object && f.mode = .statement) && last.isReservedIn Token.restrictedWords &&
    t.gap.newlines = 0) ||
  (last.isReservedIn ["else"] && !(t.isReservedIn ["if"] && t.comments.isEmpty)) ||
  -- The body of a loop or a condition without braces.
  (last.kind = .closing && (closed = .forHead || closed = .condition)) ||
  (last.kind = .word && f.mode = .block && !f.inCase && t.text ≠ "--" && t.text ≠ "++" &&
    p.lastButOne ≠ "function" && t.kind ≠ .word && t.kind ≠ .reserved) ||
  (f.mode = .object && ((last.text = ":" && f.ternaries = 0) || last.isReservedIn ["get", "set"]))

private def openStatement (t : Token) : Print Bool := do
  if startsStatement (← get) t then
    openFrame .statement
    indent
    between t true
    unless ← startsProperty do keepBreak t (t.isReservedIn ["do", "for", "if", "while"])
    return true
  else return false

private def openBracket (t : Token) (mode : Mode) : Print Unit := do
  token t
  openFrame mode
  indent

/-- What an opening round bracket makes of the blank and the line end before it, and the mode of its frame. -/
private def roundBracket (t : Token) : Print Mode := do
  let f ← frame
  let last := f.last
  let lastButOne := (← get).lastButOne
  let mode ←
    if last.kind = .reserved then
      if last.text = "for" then do
        space true
        pure .forHead
      else if ["if", "while", "switch"].contains last.text then do
        space true
        pure .condition
      else do
        if f.lastWord = "await" || f.lastWord = "async" then space true
        else if last.text = "import" && t.gap.blanks.isEmpty then space false
        else if Token.lineStarters.contains last.text || last.text = "catch" then space true
        pure .expression
    else do
      if last.kind = .equals || last.kind = .operator then
        unless ← startsProperty do keepBreak t false
      else if last.kind = .word then space false
      else keepBreak t false
      pure .expression
  if (last.kind = .reserved && (f.lastWord = "function" || f.lastWord = "typeof")) ||
      (last.text = "*" && (["function", "yield"].contains lastButOne ||
        (f.mode = .object && ["\x7b", ","].contains lastButOne))) then
    space false
  return mode

private def listBracket : Print Unit := do
  let f ← frame
  let last := f.last
  if f.mode = .array &&
      (last.text = "[" || (last.text = "," && ["]", "\x7d"].contains (← get).lastButOne)) then
    newline false false
  unless [.opening, .closing, .word, .operator, .dot].contains last.kind do space true

private def opening (t : Token) : Print Unit := do
  unless ← openStatement t do between t false
  let last ← last
  if t.text = "[" && (last.kind = .word || last.text = ")") then openBracket t .expression
  else
    let mode ←
      if t.text = "[" then do
        listBracket
        pure .array
      else roundBracket t
    let last ← Print.last
    if last.text = ";" || last.kind = .blockStart then newline false false
    else if [.closing, .opening, .blockEnd, .comma].contains last.kind || last.text = "." then
      keepBreak t (t.gap.newlines ≠ 0)
    openBracket t mode

private def closing (t : Token) : Print Unit := do
  closeStatements
  between t false
  let f ← frame
  if f.isMultiline then keepBreak t (t.text = "]" && f.mode = .array)
  deindent
  token t
  closeFrame
  modify fun p => p.dropIndent p.previousFrame
  let p ← get
  -- The condition of a loop that stands after its body is none that a statement follows.
  if p.frame.afterDoWhile && p.previousFrame.mode = .condition then
    set { p with
      frame := { p.frame with
        afterDo := false
        afterDoWhile := false }
      previous := .closed { p.previousFrame with mode := .expression } }

/-- The mode of a block by what is before and after its opening brace; names or strings with a colon or a comma
after them are properties. -/
private def blockMode (p : Printer) : Mode :=
  let f := p.frame
  let last := f.last
  match p.rest with
  | next :: second :: _ =>
    let named (t : Token) : Bool := t.kind = .word || t.kind = .reserved
    let separated := second.text = ":" || second.text = ","
    if f.lastWord = "switch" && last.kind = .closing then .block
    else if f.inCaseBody then .block
    else if (separated && (next.kind = .string || named next)) ||
        (["get", "set", "..."].contains next.text && named second) then
      if ["class", "interface"].contains p.lastButOne && !separated then .block else .object
    else byLast last
  | _ => if (f.lastWord = "switch" && last.kind = .closing) || f.inCaseBody then .block else byLast last
where
  byLast (last : Token) : Mode :=
    if last.kind = .operator && last.text = "=>" then .block
    else if [.equals, .opening, .comma, .operator].contains last.kind ||
        last.isReservedIn ["return", "throw", "import", "default"] then .object
    else .block

private def blockStart (t : Token) : Print Unit := do
  between t false
  let p ← get
  let f := p.frame
  let last := f.last
  openFrame (blockMode p)
  if f.lastWord = "switch" && last.kind = .closing then setFrame fun f => { f with inSwitch := true }
  let next ← following
  let isEmpty := next.text = "\x7d" && next.comments.isEmpty
  if p.frame.mode = .array && last.kind = .comma then
    space true
    keepBreak t false
    modify fun p =>
      match p.outer with
      | around :: outer => { p with
        frame := { p.frame with isMultiline := false }
        outer := { around with isMultiline := around.isMultiline || p.frame.isMultiline } :: outer }
      | [] => p
  if last.kind ≠ .operator && last.kind ≠ .opening then
    if last.kind = .blockStart || last.kind = .semicolon then newline false false else space true
  token t
  indent
  unless isEmpty do newline false false

private def blockEnd (t : Token) : Print Unit := do
  between t false
  closeStatements
  if (← last).kind ≠ .blockStart then newline false false
  closeFrame
  token t

private def settle (t : Token) : Print Token := do
  let f ← frame
  let next := (← following).text
  let isPlain :=
    if t.kind ≠ .reserved then false
    else if (t.text = "set" || t.text = "get") && f.mode ≠ .object then true
    else if t.text = "import" && (next = "(" || next = ".") then true
    else if (t.text = "as" || t.text = "from") && !f.inImport then true
    else f.mode = .object && next = ":"
  return if isPlain then { t with kind := .word } else t

/-- The word of a function: it starts a line, with an empty one before it, unless it is part of an expression. -/
private def functionWord (t : Token) : Print Unit := do
  let p ← get
  let last := p.frame.last
  let partOf := ["(", "[", "\x7b", ":", "=", ","].contains last.text || last.kind = .operator
  if last.text = "\x7d" || last.text = ";" || (p.output.atLineStart && !partOf) then
    if !p.output.afterBlankLine && t.comments.isEmpty then
      newline false false
      newline true false
  let p ← get
  let f := p.frame
  let last := f.last
  if last.kind = .reserved || last.kind = .word then
    if last.isReservedIn ["get", "set", "new", "export"] || last.isReservedIn Token.restrictedWords ||
        (last.isReservedIn ["default"] && p.lastButOne = "export") || last.text = "declare" then
      space true
    else newline false false
  else if last.kind = .operator || last.text = "=" then space true
  else unless !f.isMultiline && (f.mode.isExpression || f.mode = .array) do newline false false
  token t
  setFrame fun f => { f with lastWord := t.text }

inductive Lead where
  | none | space | newline
  deriving DecidableEq

private def lead (p : Printer) (t : Token) : Lead :=
  let f := p.frame
  let last := f.last
  if t.isReservedIn Token.lineStarters && last.text ≠ ")" then
    if last.text = "export" then .space else .newline
  else match last.kind with
    | .blockEnd => if t.isReservedIn ["else", "catch", "finally", "from"] then .space else .newline
    | .semicolon => if f.mode = .block then .newline else if f.mode.isExpression then .space else .none
    | .string | .blockStart | .closing => .newline
    | .reserved | .word => .space
    | _ =>
      if last.text = "*" && (["function", "yield"].contains p.lastButOne ||
          (f.mode = .object && ["\x7b", ","].contains p.lastButOne)) then .space
      else .none

private def continuingWord : Print Unit := do
  let p ← get
  if p.frame.last.kind = .blockEnd && p.previousFrame.mode = .block then
    modify fun p => { p with output := p.output.trim }
    -- After trimming, the brace may turn out to be followed by a comment.
    if (← get).output.current.items.head? ≠ some "\x7d" then newline false false
    space true
  else newline false false

private def leadNewline (t : Token) : Print Unit := do
  let p ← get
  let last := p.frame.last
  if last.isReservedIn Token.bindingWords then space true
  else if last.text = "declare" && t.isReservedIn ["var", "let", "const"] then space true
  else if last.kind ≠ .closing then
    if (last.kind ≠ .opening || !t.isReservedIn ["var", "let", "const"]) && last.text ≠ ":" then
      if t.isReservedIn ["if"] && p.before.isReservedIn ["else"] then space true else newline false false
  else if t.isReservedIn Token.lineStarters && last.text ≠ ")" then newline false false

private def plainWord (t : Token) : Print Unit := do
  let p ← get
  let f := p.frame
  let last := f.last
  let lead := lead p t
  if last.kind = .closing || (last.kind = .blockEnd && t.isReservedIn ["else", "catch", "finally", "from"]) then
    space true
  if t.isReservedIn ["else", "catch", "finally"] then continuingWord
  else if lead = .newline then leadNewline t
  else if f.isMultiline && f.mode = .array && last.text = "," && p.lastButOne = "\x7d" then newline false false
  else if lead = .space then space true
  if p.before.kind = .word || p.before.kind = .reserved then space true
  token t
  setFrame fun f => { f with lastWord := t.text }
  if t.kind = .reserved then
    match t.text with
    | "do" => setFrame fun f => { f with afterDo := true }
    | "if" => setFrame fun f => { f with afterIf := true }
    | "import" => setFrame fun f => { f with inImport := true }
    | "from" => setFrame fun f => { f with inImport := false }
    | _ => return

/-- What comes before a word by the statement that it starts or goes on with. -/
private def openWord (t : Token) : Print Unit := do
  if ← openStatement t then
    let declares := (← last).isReservedIn ["var", "let", "const"] && t.kind = .word
    if declares then setFrame fun f => { f with declares := true }
  else
    let f ← frame
    let last := f.last
    let startsLine := t.gap.newlines ≠ 0 && !f.mode.isExpression &&
      (last.kind ≠ .operator || last.text = "--" || last.text = "++") && last.kind ≠ .equals
    between t false
    if startsLine then newline false false

/-- An `else` goes on with the condition before it; any other word ends the statements that wait for one. -/
private def settleCondition (t : Token) : Print Unit := do
  let f ← frame
  if f.afterIf then
    if !f.afterElse && t.isReservedIn ["else"] then setFrame fun f => { f with afterElse := true }
    else
      closeStatements
      setFrame fun f => { f with afterIf := false }

private def caseWord (t : Token) : Print Unit := do
  newline false false
  let f ← frame
  if !f.inCaseBlock && f.inCaseBody then deindent
  setFrame fun f => { f with inCaseBody := false }
  token t
  setFrame fun f => { f with inCase := true }

private def word (t : Token) : Print Unit := do
  openWord t
  let f ← frame
  if f.afterDo && !f.afterDoWhile && t.isReservedIn ["while"] then
    space true
    token t
    space true
    setFrame fun f => { f with afterDoWhile := true }
  else
    if f.afterDo && !f.afterDoWhile then
      newline false false
      setFrame fun f => { f with afterDo := false }
    settleCondition t
    if (← frame).inSwitch && t.isReservedIn ["case", "default"] then caseWord t
    else
      let p ← get
      let last := p.frame.last
      if [.comma, .opening, .equals, .operator].contains last.kind then
        let signed := ["+", "-"].contains last.text && p.lastButOne = ":" && p.parent.mode = .object
        unless (← startsProperty) || signed do keepBreak t false
      if t.isReservedIn ["function"] then functionWord t else plainWord t

private def semicolon (t : Token) : Print Unit := do
  if ← openStatement t then space false else between t false
  endStatements
  setFrame fun f => { f with inImport := false }
  token t

private def string (t : Token) : Print Unit := do
  let p ← get
  let last := p.frame.last
  let isTemplate := t.text.startsWith "`"
  let touches := isTemplate && t.gap.newlines = 0 && t.gap.blanks.isEmpty &&
    (p.before.text = ")" || last.kind = .word)
  unless touches do
    if ← openStatement t then space true
    else
      between t false
      let last ← Print.last
      if last.kind = .reserved || last.kind = .word then space true
      else if [.comma, .opening, .equals, .operator].contains last.kind then
        unless ← startsProperty do keepBreak t false
      else if isTemplate && last.kind = .closing && (p.before.text = "]" || p.before.text = ")") &&
          t.gap.newlines = 0 then
        space true
      else newline false false
  token t

private def equals (t : Token) : Print Unit := do
  unless ← openStatement t do between t false
  setFrame fun f => { f with assignsDeclared := f.assignsDeclared || f.declares }
  space true
  token t
  space true

/-- A comma ends a line after a declared name with a value, and after a property. -/
private def comma (t : Token) : Print Unit := do
  between t true
  token t
  space true
  let p ← get
  if p.frame.declares then
    if p.frame.assignsDeclared then
      setFrame fun f => { f with assignsDeclared := false }
      unless p.parent.mode.isExpression do newline false true
  else if p.frame.mode = .object then newline false false
  else if p.frame.mode = .statement && p.parent.mode = .object then
    closeFrame
    newline false false

private def caseColon (t : Token) : Print Unit := do
  token t
  setFrame fun f => { f with
    inCase := false
    inCaseBody := true }
  if (← following).kind ≠ .blockStart then
    indent
    newline false false
    setFrame fun f => { f with inCaseBlock := false }
  else
    space true
    setFrame fun f => { f with inCaseBlock := true }

private def breakingOperator (t : Token) (ternaryColon : Bool) : Print Unit := do
  space (t.text ≠ ":" || ternaryColon)
  token t
  if t.text ≠ ":" || ternaryColon then keepBreak t false
  space true

private def unaryOperator (t : Token) : Print Unit := do
  let p ← get
  let f := p.frame
  let last := f.last
  let steps := ["--", "++"]
  let signs := ["--", "-", "++", "+"]
  if last.kind = .comma || last.kind = .opening then keepBreak t false
  if t.gap.newlines ≠ 0 && (steps.contains t.text || t.text = "~") then
    let needed := last.isReservedIn Token.bindingWords
    -- A step on a line of its own begins a statement.
    if needed && (p.previousFrame.afterIf || p.previousFrame.afterElse) then closeFrame
    newline needed true
  let f ← frame
  let last := f.last
  let before :=
    if last.kind = .reserved then true
    else if last.kind = .closing then !(last.text = "]" && steps.contains t.text)
    else if last.kind = .operator then signs.contains t.text && signs.contains last.text
    else last.text = ";" && f.mode.isExpression
  let after := last.kind = .operator && ["-", "+"].contains t.text && steps.contains last.text
  if (f.mode = .block || f.mode = .statement) && ["\x7b", ";"].contains last.text then newline false false
  let due := (← get).output.space
  space (due || before)
  token t
  space after

private def generatorStar (t : Token) : Print Unit := do
  keepBreak t false
  let next ← following
  token t
  space (next.kind = .word || next.kind = .reserved)

private def spacedOperator (t : Token) (before : Bool) : Print Unit := do
  let due := (← get).output.space
  space (due || before)
  token t

private def operator (t : Token) : Print Unit := do
  let last ← last
  let isStar := t.text = "*" && (last.isReservedIn ["function", "yield"] ||
    [.blockStart, .comma, .blockEnd, .semicolon].contains last.kind)
  let isSign := ["+", "-"].contains t.text &&
    ([.blockStart, .opening, .equals, .operator].contains last.kind ||
      Token.lineStarters.contains last.text || last.text = ",")
  unless ← openStatement t do between t (!isStar)
  let last ← Print.last
  if last.isReservedIn Token.bindingWords && t.gap.newlines = 0 then
    space true
    token t
  else if (t.text = "*" && last.kind = .dot) || t.text = "::" ||
      (["-", "+"].contains t.text && (← startsProperty)) then
    token t
  else
    if last.kind = .operator then keepBreak t false
    let f ← frame
    if t.text = ":" && f.inCase then caseColon t
    else
      let ternaryColon := t.text = ":" && f.ternaries ≠ 0
      if ternaryColon then setFrame fun f => { f with ternaries := f.ternaries - 1 }
      else if t.text = "?" then setFrame fun f => { f with ternaries := f.ternaries + 1 }
      if !isSign && !isStar && t.isBreaking then breakingOperator t ternaryColon
      else if isStar then generatorStar t
      else if t.text = "..." then
        keepBreak t false
        spacedOperator t ((← Print.last).kind = .blockStart)
        space false
      else if ["--", "++", "!", "~"].contains t.text || isSign then unaryOperator t
      else
        spacedOperator t true
        space true

private def dot (t : Token) : Print Unit := do
  unless ← openStatement t do between t true
  let last ← last
  let digits := last.text.toList
  -- Without the blank the point would belong to the number.
  if !digits.isEmpty && digits.all Char.isDigit then space true
  if last.isReservedIn Token.bindingWords then space false else keepBreak t false
  token t

private def dispatch (t : Token) : Print Unit :=
  match t.kind with
  | .opening => opening t
  | .closing => closing t
  | .blockStart => blockStart t
  | .blockEnd => blockEnd t
  | .word | .reserved => word t
  | .string => string t
  | .semicolon => semicolon t
  | .comma => comma t
  | .dot => dot t
  | .equals => equals t
  | .operator => operator t
  | .start | .endOfInput => do
    closeStatements
    between t false

def next (t : Token) : Print Unit := do
  modify fun p => { p with rest := p.rest.drop 1 }
  let t ← if t.kind = .reserved then settle t else pure t
  dispatch t
  modify fun p => { p with
    lastButOne := p.frame.last.text
    frame := { p.frame with last := t }
    before := t }

end Print

def lineEnd (text : List Char) : String :=
  match text.dropWhile fun c => !Script.isLineEnd c with
  | '\r' :: '\n' :: _ => "\r\n"
  | c :: _ => String.singleton c
  | [] => "\n"

def margin (text : List Char) : String := String.ofList (text.takeWhile fun c => c = ' ' || c = '\t')

def format (source : String) : String :=
  let text := source.toList
  let tokens := tokens text
  let (_, printer) := (tokens.forM Print.next).run (Printer.start tokens)
  let result := printer.output.text (margin text)
  let ending := lineEnd text
  if ending = "\n" then result else ending.intercalate (result.splitOn "\n")

end ClientGen.Layout
