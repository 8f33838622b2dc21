import ClientGen.Failure
import ClientGen.Script.Problem
import ClientGen.Text.Lines

/-! Checking a script. What its parser rejects is an error; what the parser remarks on, blanks at the ends of
lines and a missing strict mode are warnings. -/

set_option autoImplicit false

namespace ClientGen.Lint

structure Options where
  esnext : Bool := false
  strict : Bool := true
  trailing : Bool := true
  maxFindings : Int := 999

def evidence (lines : List (List Char)) (line : Nat) : String :=
  if line = 0 then "" else ((lines[line - 1]?).map fun l => String.ofList (Text.trimBlanks l)).getD ""

def ofVerdict (lines : List (List Char)) : Script.Verdict → List Finding
  | .rejected line reason => [⟨"E001", reason, evidence lines line, line⟩]
  | .accepted remarks => remarks.map fun remark =>
    ⟨"W001", remark.reason, evidence lines remark.line, remark.line⟩

def blankWarning (number : Nat) (line : List Char) : Finding :=
  ⟨"W004", "Trailing whitespace.", String.ofList (Text.trimBlanks line), number⟩

/-- A warning for each line that ends in blanks; the first line has the given number. -/
def trailingBlanks (number : Nat) : List (List Char) → List Finding
  | [] => []
  | line :: rest =>
    let more := trailingBlanks (number + 1) rest
    if Text.trimRightBlanks line == line then more
    else blankWarning number line :: more

/-- What follows each end of a block comment in a text. -/
def afterCommentEnds : List Char → List (List Char)
  | '*' :: '/' :: rest => rest :: afterCommentEnds ('/' :: rest)
  | _ :: rest => afterCommentEnds rest
  | [] => []

def isQuote (c : Char) : Bool := c = '\'' || c = '"'

def startsWithDirective : List Char → Bool
  | c :: rest =>
    isQuote c && "use strict".toList.isPrefixOf rest &&
      match rest.drop 10 with
      | d :: _ => isQuote d
      | [] => false
  | [] => false

/-- Whether the directive stands before all code: after blanks and comments, a block comment being allowed
to reach up to any of the ends after it. -/
def isStrict (bound : Nat) (text : List Char) : Bool :=
  match bound with
  | 0 => false
  -- Each round leaves a comment behind, so the length of the text is bound enough.
  | bound + 1 =>
    let text := text.dropWhile Text.isBlank
    match text with
    | '/' :: '*' :: rest => (afterCommentEnds rest).any (isStrict bound)
    | '/' :: '/' :: rest =>
      match rest.dropWhile (· ≠ '\n') with
      | _ :: after => isStrict bound after
      | [] => false
    | text => startsWithDirective text

/-- All but so many findings from the end, when the number is negative. -/
def limit (count : Int) (findings : List Finding) : List Finding :=
  if 0 ≤ count then findings.take count.toNat
  else findings.take (findings.length - (-count).toNat)

def blankWarnings (options : Options) (lines : List (List Char)) : List Finding :=
  if options.trailing then trailingBlanks 1 lines else []

def strictWarnings (options : Options) (lines : List (List Char)) (text : List Char) : List Finding :=
  if options.strict && !options.esnext && !isStrict (text.length + 1) text then
    [⟨"W097", "Missing \"use strict\" statement.", evidence lines 1, 1⟩]
  else []

def allFindings (judge : Script.Judge) (options : Options) (source : String) : List Finding :=
  let lines := Text.lines source.toList
  ofVerdict lines (judge options.esnext source) ++ blankWarnings options lines ++
    strictWarnings options lines source.toList

def findings (judge : Script.Judge) (options : Options) (source : String) : List Finding :=
  limit options.maxFindings (allFindings judge options source)

def check (judge : Script.Judge) (options : Options) (source : String) : Except Failure Unit :=
  match (findings judge options source).find? Finding.isError with
  | some finding => .error (.rejected finding)
  | none => .ok ()

end ClientGen.Lint
