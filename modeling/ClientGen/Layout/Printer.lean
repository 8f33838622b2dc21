import ClientGen.Layout.Output
import ClientGen.Layout.Token

/-! The state of the layout: a stack of frames, one for each statement, block and bracket that is open, and the
text written so far. A frame remembers the token that came last while it was the innermost one. -/

set_option autoImplicit false

namespace ClientGen.Layout

inductive Mode where
  | block | statement | object | array | forHead | condition | expression
  deriving DecidableEq, Repr

namespace Mode

def isExpression : Mode → Bool
  | expression | forHead | condition => true
  | _ => false

end Mode

structure Frame where
  mode : Mode
  last : Token := { kind := .blockStart, text := "" }
  lastWord : String := ""
  declares : Bool := false
  assignsDeclared : Bool := false
  isMultiline : Bool := false
  afterIf : Bool := false
  afterElse : Bool := false
  afterDo : Bool := false
  afterDoWhile : Bool := false
  inImport : Bool := false
  inSwitch : Bool := false
  inCase : Bool := false
  inCaseBody : Bool := false
  inCaseBlock : Bool := false
  level : Nat := 0
  alignment : Nat := 0
  /-- The indentation of the line that it last started. -/
  lineLevel : Nat := 0
  startLine : Nat := 0
  /-- The number of question marks whose colon is still to come. -/
  ternaries : Nat := 0

/-- The frame that was innermost before the last change of the stack: the one around the current one, or one that
is closed. -/
inductive Previous where
  | around
  | closed (frame : Frame)

structure Printer where
  output : Output := {}
  frame : Frame := { mode := .block }
  outer : List Frame := []
  previous : Previous := .around
  lastButOne : String := ""
  before : Token := { kind := .start, text := "" }
  rest : List Token := []

abbrev Print := StateM Printer

namespace Printer

def start (tokens : List Token) : Printer := {
  output := {
    current := { indent := some 0 }
    indent := some 0 }
  frame := {
    mode := .block
    startLine := 1 }
  rest := tokens }

def parent (p : Printer) : Frame := p.outer.headD { mode := .block }

def previousFrame (p : Printer) : Frame :=
  match p.previous with
  | .around => p.parent
  | .closed frame => frame

def setIndent (p : Printer) : Printer :=
  { p with output := (p.output.setIndent p.frame.level p.frame.alignment).1 }

def openFrame (p : Printer) (mode : Mode) : Printer :=
  let base := p.frame
  setIndent { p with
    frame := {
      mode
      last := base.last
      lastWord := base.lastWord
      level := if p.output.atLineStart then base.level else max base.level base.lineLevel
      startLine := p.output.lineCount }
    outer := base :: p.outer
    previous := .around }

def dropIndent (p : Printer) (closed : Frame) : Printer :=
  if closed.isMultiline || closed.mode = .forHead || closed.mode = .condition then p
  else { p with output := p.output.outdentFrom closed.startLine }

def closeFrame (p : Printer) : Printer :=
  match p.outer with
  | [] => p.setIndent
  | frame :: outer =>
    let closed := p.frame
    let p := { p with
      frame
      outer
      previous := .closed closed }
    setIndent (if closed.mode = .statement then p.dropIndent closed else p)

/-- Closes statements as long as a test allows it, so many at most. -/
private def closeStatementsUpTo (mayClose : Frame → Bool) : Nat → Printer → Printer
  | 0, p => p
  | bound + 1, p =>
    if p.frame.mode = .statement && mayClose p.frame then closeStatementsUpTo mayClose bound p.closeFrame
    else p

def closeStatementsIf (p : Printer) (mayClose : Frame → Bool) : Printer :=
  closeStatementsUpTo mayClose (p.outer.length + 1) p

def indent (p : Printer) : Printer := setIndent { p with frame := { p.frame with level := p.frame.level + 1 } }

def deindent (p : Printer) : Printer :=
  let level := p.frame.level
  let level := if p.parent.level < level then level - 1 else level
  setIndent { p with frame := { p.frame with level } }

end Printer

namespace Print

def frame : Print Frame := return (← get).frame

def last : Print Token := return (← get).frame.last

def setFrame (change : Frame → Frame) : Print Unit := modify fun p => { p with frame := change p.frame }

def space (due : Bool) : Print Unit := modify fun p => { p with output := { p.output with space := due } }

def openFrame (mode : Mode) : Print Unit := modify (·.openFrame mode)

def closeFrame : Print Unit := modify Printer.closeFrame

def closeStatements : Print Unit := modify (·.closeStatementsIf fun _ => true)

def indent : Print Unit := modify Printer.indent

def deindent : Print Unit := modify Printer.deindent

def following : Print Token := return (← get).rest.headD { kind := .endOfInput, text := "" }

/-- Closes the statements that end here: not one whose condition an `else` goes on with, nor one that waits for
its condition. -/
def endStatements : Print Unit := do
  let isElse := (← following).isReservedIn ["else"]
  modify (·.closeStatementsIf fun f => !(f.afterIf && isElse) && !f.afterDo)

/-- Ends the line, and the statements with it unless they are kept or go on. -/
def newline (force keep : Bool) : Print Unit := do
  unless keep do
    let last ← last
    let goesOn := [";", ",", "="].contains last.text ||
      (last.kind = .operator && last.text ≠ "--" && last.text ≠ "++")
    unless goesOn do endStatements
  let (output, done) := (← get).output.newline force
  modify fun p => { p with output }
  if done then setFrame fun f => { f with isMultiline := true }

def startLine : Print Unit := do
  let p ← get
  if p.output.atLineStart then
    let (output, isLater) := p.output.setIndent p.frame.level p.frame.alignment
    set { p with
      output
      frame := if isLater then { p.frame with lineLevel := p.frame.level } else p.frame }

def write (text : String) : Print Unit := do
  startLine
  modify fun p => { p with output := p.output.add text }

def token (t : Token) : Print Unit := write t.text

def keepBreak (t : Token) (force : Bool) : Print Unit := do
  let p ← get
  if !p.output.atLineStart && (t.gap.newlines ≠ 0 || force) then newline false true

/-- Keeps one empty line at most out of those before a piece. -/
def emptyLine (gap : Gap) (keep : Bool) : Print Unit := do
  if gap.newlines > 1 then
    newline false keep
    newline true keep

end Print

end ClientGen.Layout
