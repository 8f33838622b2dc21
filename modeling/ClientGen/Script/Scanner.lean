import ClientGen.Script.Letter
import ClientGen.Script.Problem

/-! A place in the text of a script: what is still to be read, how far it is, and the braces that are open.
Moving past white space and comments. -/

set_option autoImplicit false

namespace ClientGen.Script

structure Scanner where
  rest : List Char
  index : Nat := 0
  line : Nat := 1
  lineStart : Nat := 0
  /-- For each open brace, innermost first, whether it opens a substitution of a template. -/
  braces : List Bool := []
  isModule : Bool := false
  remarks : List Problem := []

abbrev Scan := StateT Scanner (Except Problem)

namespace Scanner

/-- A text without characters has no first line. -/
def start (text : List Char) : Scanner := { rest := text, line := if text.isEmpty then 0 else 1 }

/-- The character that many places ahead, and NUL beyond the end. -/
def ahead (s : Scanner) (count : Nat) : Char := s.rest.getD count '\x00'

def skip (s : Scanner) (count : Nat) : Scanner :=
  { s with rest := s.rest.drop count, index := s.index + count }

def startsWith (s : Scanner) (text : String) : Bool := text.toList.isPrefixOf s.rest

def skipWhile (s : Scanner) (inside : Char → Bool) : Scanner :=
  let (before, after) := s.rest.span inside
  { s with
    rest := after
    index := s.index + before.length }

/-- Past a line end, which a carriage return and a line feed make together. -/
def skipBreak (s : Scanner) : Scanner :=
  let past := s.skip (if s.startsWith "\r\n" then 2 else 1)
  { past with
    line := s.line + 1
    lineStart := past.index }

def skipLine (s : Scanner) : Scanner :=
  let past := s.skipWhile fun c => !isLineEnd c
  if past.rest.isEmpty then past else past.skipBreak

def column (s : Scanner) : Int := (s.index : Int) - s.lineStart

def problem (s : Scanner) (cause : Cause) : Problem := ⟨s.index, s.line, s.column + 1, cause⟩

def note (s : Scanner) (problem : Problem) : Scanner := { s with remarks := problem :: s.remarks }

def skipBlockIn (s : Scanner) : List Char → Scanner × Bool
  | '*' :: '/' :: rest =>
    ({ s with
      rest
      index := s.index + 2 }, true)
  | '\r' :: '\n' :: rest =>
    skipBlockIn { s with
      index := s.index + 2
      line := s.line + 1
      lineStart := s.index + 2 } rest
  | c :: rest =>
    if isLineEnd c then
      skipBlockIn { s with
        index := s.index + 1
        line := s.line + 1
        lineStart := s.index + 1 } rest
    else skipBlockIn { s with index := s.index + 1 } rest
  | [] => ({ s with rest := [] }, false)

/-- Past a block comment; one that the text ends in is tolerated. -/
def skipBlock (s : Scanner) : Scanner :=
  match skipBlockIn s s.rest with
  | (past, true) => past
  | (past, false) => past.note (past.problem .illegal)

/-- Past white space and comments, so many at most. An arrow of two dashes starts a comment where the line
holds nothing before it, and the opening of a markup comment does so outside modules. -/
def skipGaps : Nat → Bool → Scanner → Scanner
  | 0, _, s => s
  | bound + 1, fresh, s =>
    match s.rest with
    | [] => s
    | c :: _ =>
      if isBlank c then skipGaps bound fresh (s.skip 1)
      else if isLineEnd c then skipGaps bound true s.skipBreak
      else if s.startsWith "//" then skipGaps bound true (s.skip 2).skipLine
      else if s.startsWith "/*" then skipGaps bound fresh (s.skip 2).skipBlock
      else if fresh && s.startsWith "-->" then skipGaps bound fresh (s.skip 3).skipLine
      else if !s.isModule && s.startsWith "<!--" then skipGaps bound fresh (s.skip 4).skipLine
      else s

def skipGap (s : Scanner) : Scanner := skipGaps s.rest.length (s.index = 0) s

end Scanner

namespace Scan

def refuse {α : Type} (cause : Cause) : Scan α := fun s => .error (s.problem cause)

def tolerate (cause : Cause) : Scan Unit := modify fun s => s.note (s.problem cause)

def skip (count : Nat) : Scan Unit := modify (·.skip count)

def peek : Scan Char := return (← get).ahead 0

def atEnd : Scan Bool := return (← get).rest.isEmpty

def takeWhile (inside : Char → Bool) : Scan (List Char) := do
  let taken := (← get).rest.takeWhile inside
  modify (·.skip taken.length)
  return taken

end Scan

end ClientGen.Script
