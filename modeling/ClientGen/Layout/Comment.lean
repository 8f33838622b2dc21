import ClientGen.Layout.Printer
import ClientGen.Text.Class

/-! Writing the comments before a token, and the empty line that separates it from what is above. -/

set_option autoImplicit false

namespace ClientGen.Layout.Print

private def splitLines (text : List Char) : List (List Char) := text.splitOn '\n'

private def trimLeft (line : List Char) : List Char := line.dropWhile Text.isBlank

private def isStarred (lines : List (List Char)) : Bool :=
  lines.all fun line => line.isEmpty || (trimLeft line).head? = some '*'

private def isIndented (margin : List Char) (lines : List (List Char)) : Bool :=
  lines.all fun line => margin.isPrefixOf line || (trimLeft line).isEmpty

private def addLine (line : List Char) : Print Unit :=
  modify fun p => { p with output := p.output.add (String.ofList line) }

/-- A comment of several lines. Lines that start with stars are aligned; lines that share the margin of the first
one are indented like it; other lines stay as they are. -/
private def blockLines (comment : Comment) (keep : Bool) : Print Unit := do
  let lines := splitLines comment.text
  newline false keep
  startLine
  addLine (lines.headD [])
  newline false keep
  let lines := lines.drop 1
  let margin := comment.gap.blanks
  let starred := isStarred lines
  let indented := isIndented margin lines
  if starred && !lines.isEmpty then setFrame fun f => { f with alignment := 1 }
  for line in lines do
    if starred then
      startLine
      addLine (trimLeft line)
    else if indented && !line.isEmpty then
      startLine
      addLine (line.drop margin.length)
    else
      modify fun p => { p with output := p.output.setRaw }
      addLine line
    newline false keep
  unless lines.isEmpty do setFrame fun f => { f with alignment := 0 }

private def comment (comment : Comment) (keep : Bool) : Print Unit := do
  emptyLine comment.gap keep
  let startsLine := comment.gap.newlines ≠ 0
  match comment.kind with
  | .block =>
    if startsLine || comment.text.contains '\n' then blockLines comment keep
    else
      space true
      write (String.ofList comment.text)
      space true
  | .line =>
    if startsLine then newline false keep
    else modify fun p => { p with output := p.output.trim }
    space true
    write (String.ofList comment.text)
    newline false keep
  | .stray =>
    write (String.ofList comment.text)
    if comment.text.getLast? = some '\n' then newline false keep

def between (t : Token) (keep : Bool) : Print Unit := do
  for c in t.comments do comment c keep
  emptyLine t.gap keep

end ClientGen.Layout.Print
