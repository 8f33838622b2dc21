/-! The lines of a laid out script. A line keeps its indentation apart from what stands on it, so that it can
be indented less later on. -/

set_option autoImplicit false

namespace ClientGen.Layout

structure Line where
  /-- The pieces on it, the last one first. -/
  items : List String := []
  indent : Option Nat := none
  /-- Blanks after the indentation. -/
  alignment : Nat := 0

namespace Line

def isEmpty (line : Line) : Bool := line.items.isEmpty

def setIndent (line : Line) (indent : Option Nat) (alignment : Nat) : Line :=
  if line.isEmpty then { line with
    indent
    alignment }
  else line

def outdent (line : Line) : Line := { line with indent := line.indent.map (· - 1) }

def trim (line : Line) : Line := { line with items := line.items.dropWhile (· = " ") }

/-- Its text; a step of indentation has four blanks, and what all lines start with comes before it. -/
def text (base : String) (line : Line) : String :=
  if line.isEmpty then ""
  else
    let blanks (count : Nat) : String := String.ofList (List.replicate count ' ')
    let margin := match line.indent with
      | some steps => base ++ blanks (4 * steps + line.alignment)
      | none => blanks line.alignment
    margin ++ String.join line.items.reverse

end Line

structure Output where
  current : Line := {}
  above : List Line := []
  indent : Option Nat := none
  alignment : Nat := 0
  space : Bool := false

namespace Output

def lineCount (o : Output) : Nat := o.above.length + 1

def atLineStart (o : Output) : Bool := o.current.isEmpty

def isEmpty (o : Output) : Bool := o.above.isEmpty && o.atLineStart

def afterBlankLine (o : Output) : Bool :=
  o.atLineStart && match o.above with
    | [] => true
    | line :: _ => line.isEmpty

/-- Ends the line, and says whether it did. The first line is not left empty, and no other line either unless
that is forced. -/
def newline (o : Output) (force : Bool) : Output × Bool :=
  if o.isEmpty || (!force && o.atLineStart) then (o, false)
  else ({ o with
    above := o.current :: o.above
    current := {
      indent := o.indent
      alignment := o.alignment } }, true)

/-- Sets the indentation of the lines to come, and of the current one if it is empty. The first line is never
indented; the flag says whether the current line is another one. -/
def setIndent (o : Output) (indent alignment : Nat) : Output × Bool :=
  let isLater := !o.above.isEmpty
  ({ o with
    indent := some indent
    alignment
    current :=
      if isLater then o.current.setIndent (some indent) alignment else o.current.setIndent (some 0) 0 },
    isLater)

def setRaw (o : Output) : Output := { o with current := o.current.setIndent none 0 }

/-- Adds a piece, after the blank that is due; no line starts with that one. -/
def add (o : Output) (piece : String) : Output :=
  let items := if o.space && !o.atLineStart then " " :: o.current.items else o.current.items
  { o with
    current := { o.current with items := piece :: items }
    space := false }

/-- The lines from a number on get one step less of indentation. -/
def outdentFrom (o : Output) (index : Nat) : Output :=
  let count := o.lineCount - index
  if count = 0 then o
  else { o with
    current := o.current.outdent
    above := (o.above.take (count - 1)).map Line.outdent ++ o.above.drop (count - 1) }

private def trimLines : Line → List Line → Line × List Line
  | current, [] => (current.trim, [])
  | current, line :: above =>
    if current.trim.isEmpty then trimLines line above else (current.trim, line :: above)

def trim (o : Output) : Output :=
  let (current, above) := trimLines o.current o.above
  { o with
    current
    above }

private def closeItem (item : String) : String :=
  String.ofList (item.toList.reverse.dropWhile (· = '\n')).reverse

def text (o : Output) (base : String) : String :=
  let o := o.trim
  let last := match o.current.items with
    | item :: items => { o.current with items := closeItem item :: items }
    | [] => o.current
  "\n".intercalate ((last :: o.above).reverse.map (Line.text base))

end Output

end ClientGen.Layout
