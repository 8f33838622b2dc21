import ClientGen.Number.Shortest
import ClientGen.Script.Scanner

/-! The tokens of a script, and reading the next one. -/

set_option autoImplicit false

namespace ClientGen.Script

inductive Kind where
  | boolean | endOfInput | keyword | name | null | number | pattern | punctuator | string | template
  deriving DecidableEq, Repr

structure Token where
  kind : Kind
  value : String
  start : Nat
  size : Nat
  /-- The line on which it ends. -/
  line : Nat
  /-- The text from its start on. -/
  onward : List Char
  isOctal : Bool := false
  /-- Whether a piece of a template is the first one, and the last one. -/
  opensTemplate : Bool := false
  closesTemplate : Bool := false

namespace Token

def raw (t : Token) : List Char := t.onward.take t.size

def keywords : List String := [
  "if", "in", "do", "var", "for", "new", "try", "let", "this", "else", "case", "void", "with", "enum",
  "while", "break", "catch", "throw", "const", "yield", "class", "super", "return", "typeof", "delete",
  "switch", "export", "import", "default", "finally", "extends", "function", "continue", "debugger",
  "instanceof"]

def isReserved (word : String) : Bool := ["enum", "export", "import", "super"].contains word

def isStrictlyReserved (word : String) : Bool :=
  ["implements", "interface", "package", "private", "protected", "public", "static", "yield", "let"].contains word

def isRestricted (name : String) : Bool := name = "eval" || name = "arguments"

/-- The longest ones come first. -/
def punctuators : List String := [
  ">>>=", "...", "===", "!==", ">>>", "<<=", ">>=", "**=", "&&", "||", "==", "!=", "+=", "-=", "*=", "/=",
  "++", "--", "<<", ">>", "&=", "|=", "^=", "%=", "<=", ">=", "=>", "**", "(", ")", "\x7b", "\x7d", "[", "]",
  ";", ",", ":", "?", "~", ".", "<", ">", "=", "!", "+", "-", "*", "%", "&", "|", "^", "/"]

/-- A single letter is no keyword. -/
def kindOfWord (word : List Char) : Kind :=
  let text := String.ofList word
  if word.length = 1 then .name
  else if keywords.contains text then .keyword
  else if text = "null" then .null
  else if text = "true" || text = "false" then .boolean
  else .name

end Token

namespace Scan

def hexDigits (count : Nat) : Scan (Option Char) := do
  let digits := ((← get).rest.take count).takeWhile fun c => (Text.hexValue? c).isSome
  skip digits.length
  return if digits.length = count then (Text.readHex? digits).map Char.ofNat else none

def braced : Scan Char := do
  if (← peek) = '\x7d' then refuse .illegal
  let digits ← takeWhile fun c => (Text.hexValue? c).isSome
  let closed := (← peek) = '\x7d'
  unless ← atEnd do skip 1
  let code := (Text.readHex? digits).getD 0
  if code > 0x10FFFF || !closed then refuse .illegal
  return Char.ofNat code

def nameEscape (allowed : Char → Bool) : Scan Char := do
  if (← peek) ≠ 'u' then refuse .illegal
  skip 1
  if (← peek) = '\x7b' then
    skip 1
    braced
  else
    match ← hexDigits 4 with
    | some c => if c = '\\' || !allowed c then refuse .illegal else return c
    | none => refuse .illegal

def nameRest : Nat → Scan (List Char)
  | 0 => return []
  | bound + 1 => do
    let c ← peek
    if (← atEnd) || !isNamePart c then return []
    skip 1
    let c ← if c = '\\' then nameEscape isNamePart else pure c
    return c :: (← nameRest bound)

/-- A name and its kind; a keyword with an escape in it is tolerated. -/
def word : Scan (Kind × String) := do
  let start ← get
  let plain := start.rest.takeWhile isNamePart
  if plain.contains '\\' then
    let c ← peek
    skip 1
    let c ← if c = '\\' then nameEscape isNameStart else pure c
    let name := c :: (← nameRest start.rest.length)
    let kind := Token.kindOfWord name
    if kind ≠ .name && start.index + name.length ≠ (← get).index then
      modify fun s => s.note (start.problem .escapedKeyword)
    return (kind, String.ofList name)
  else
    skip plain.length
    return (Token.kindOfWord plain, String.ofList plain)

def digitsIn (base : Nat) (digits : List Char) : Nat :=
  digits.foldl (fun n c => base * n + (Text.hexValue? c).getD 0) 0

/-- A number is followed neither by a letter nor, where digits of a smaller base end, by a digit. -/
def endNumber (digitsToo : Bool) : Scan Unit := do
  let c ← peek
  if isNameStart c || (digitsToo && c.isDigit) then refuse .illegal

def wholeNumber (base : Nat) (inside : Char → Bool) : Scan String := do
  let digits ← takeWhile inside
  if digits.isEmpty then refuse .illegal
  endNumber (base ≠ 16)
  return toString (digitsIn base digits)

def numberText (x : Binary64) : String :=
  if !x.isFinite then "inf"
  else
    let whole :=
      if 0 ≤ x.exponent then x.mantissa * twoTo x.exponent.toNat else x.mantissa / twoTo (-x.exponent).toNat
    if x.equalsInt whole then toString whole else x.write

def decimal : Scan String := do
  let whole ← if (← peek) = '.' then pure [] else takeWhile Char.isDigit
  let fraction ←
    if (← peek) = '.' then do
      skip 1
      takeWhile Char.isDigit
    else pure []
  let power : Int ←
    if (← peek) = 'e' || (← peek) = 'E' then do
      skip 1
      let sign ← peek
      if sign = '+' || sign = '-' then skip 1
      let digits ← takeWhile Char.isDigit
      if digits.isEmpty then refuse .illegal
      let power : Int := digitsIn 10 digits
      pure (if sign = '-' then -power else power)
    else pure 0
  endNumber false
  return numberText (Binary64.ofDecimal false (digitsIn 10 (whole ++ fraction)) (power - fraction.length))

/-- A leading zero announces another base. With a digit after it the number is octal unless its digits hold an
eight or a nine before they end. -/
def number : Scan (String × Bool) := do
  let s ← get
  let second := s.ahead 1
  if s.ahead 0 ≠ '0' then return (← decimal, false)
  else if second = 'x' || second = 'X' then
    skip 2
    return (← wholeNumber 16 fun c => (Text.hexValue? c).isSome, false)
  else if second = 'b' || second = 'B' then
    skip 2
    return (← wholeNumber 2 fun c => c = '0' || c = '1', false)
  else if second = 'o' || second = 'O' then
    skip 2
    return (← wholeNumber 8 isOctal, false)
  else if isOctal second then
    match (s.rest.drop 2).dropWhile isOctal with
    | '8' :: _ | '9' :: _ => return (← decimal, false)
    | _ =>
      skip 1
      return (← wholeNumber 8 isOctal, true)
  else return (← decimal, false)

/-- The character of an octal escape whose first digit is behind, and whether it is more than a plain zero. -/
def octalEscape (first : Char) : Scan (Char × Bool) := do
  let s ← get
  let room := if first ≤ '3' then 2 else 1
  let more := (s.rest.take room).takeWhile isOctal
  skip more.length
  return (Char.ofNat (digitsIn 8 (first :: more)), first ≠ '0' || !more.isEmpty)

def letterEscape (c : Char) : Char :=
  match c with
  | 'n' => '\n'
  | 'r' => '\r'
  | 't' => '\t'
  | 'b' => Char.ofNat 8
  | 'f' => Char.ofNat 12
  | 'v' => Char.ofNat 11
  | c => c

def shortHex : Scan Char := do
  match ← hexDigits 2 with
  | some c => return c
  | none => refuse .hexEscape

/-- The character that an escape stands for, the backslash and the character after it being behind, and whether it is
an octal escape. -/
def charEscape (c : Char) : Scan (Char × Bool) := do
  if c = 'u' then
    if (← peek) = '\x7b' then
      skip 1
      return (← braced, false)
    match ← hexDigits 4 with
    | some c => return (c, false)
    | none => refuse .illegal
  else if c = 'x' then return (← shortHex, false)
  else if c = '8' || c = '9' then
    tolerate .illegal
    return (c, false)
  else if isOctal c then octalEscape c
  else return (letterEscape c, false)

/-- What follows a backslash in a string: its characters, and whether it is an octal escape. A line end stands for
nothing. -/
def stringEscape : Scan (List Char × Bool) := do
  let s ← get
  let c := s.ahead 0
  if isLineEnd c then
    set s.skipBreak
    return ([], false)
  skip 1
  let (made, octal) ← charEscape c
  return ([made], octal)

/-- The content of a string up to its closing quote, and whether it holds an octal escape; none if the line or
the text ends before the quote. -/
def stringRest (quote : Char) : Nat → Scan (Option (List Char × Bool))
  | 0 => return none
  | bound + 1 => do
    if ← atEnd then return none
    let c ← peek
    skip 1
    if c = quote then return some ([], false)
    if c ≠ '\\' && isLineEnd c then return none
    let (here, octal) ← if c = '\\' then stringEscape else pure ([c], false)
    return (← stringRest quote bound).map fun (rest, later) => (here ++ rest, octal || later)

def string : Scan (String × Bool) := do
  let start ← get
  skip 1
  match ← stringRest (start.ahead 0) start.rest.length with
  | some (content, octal) => return (String.ofList content, octal)
  | none =>
    modify fun s => { s with
      rest := start.rest
      index := start.index }
    refuse .illegal

def templateEscape : Scan Unit := do
  let s ← get
  let c := s.ahead 0
  if isLineEnd c then set s.skipBreak
  else
    skip 1
    if c = 'u' then
      if (← peek) = '\x7b' then
        skip 1
        discard braced
      else
        let before ← get
        if (← hexDigits 4).isNone then set before
    else if c = 'x' then discard shortHex
    else if c = '0' then
      if (← peek).isDigit then refuse .templateOctal
    else if isOctal c then refuse .templateOctal

def templateRest : Nat → Scan Bool
  | 0 => refuse .illegal
  | bound + 1 => do
    if ← atEnd then refuse .illegal
    let s ← get
    let c := s.ahead 0
    if isLineEnd c then
      set s.skipBreak
      templateRest bound
    else
      skip 1
      if c = '\x60' then return true
      else if c = '$' && (← peek) = '\x7b' then
        skip 1
        return false
      else
        if c = '\\' then templateEscape
        templateRest bound

/-- The body of a regular expression up to its closing slash, so many characters at most. A slash in a class of
characters does not close it. -/
def patternBody : Nat → Bool → Scan Unit
  | 0, _ => refuse .openPattern
  | bound + 1, inClass => do
    if ← atEnd then refuse .openPattern
    let c ← peek
    skip 1
    if c = '\\' then
      let escaped ← peek
      skip 1
      if isLineEnd escaped then refuse .openPattern
      patternBody bound inClass
    else if isLineEnd c then refuse .openPattern
    else if inClass then patternBody bound (c ≠ ']')
    else if c = '/' then return ()
    else patternBody bound (c = '[')

def patternFlags : Nat → Scan Unit
  | 0 => return ()
  | bound + 1 => do
    let c ← peek
    if (← atEnd) || !isNamePart c then return ()
    skip 1
    if c = '\\' && !(← atEnd) then
      if (← peek) = 'u' then
        skip 1
        let before ← get
        if (← hexDigits 4).isNone then set before
      tolerate .illegal
    patternFlags bound

private def finish (start : Scanner) (kind : Kind) (value : String) : Scan Token := do
  let s ← get
  return {
    kind
    value
    start := start.index
    size := s.index - start.index
    line := s.line
    onward := start.rest }

def pattern : Scan Token := do
  modify Scanner.skipGap
  let start ← get
  skip 1
  patternBody start.rest.length false
  patternFlags start.rest.length
  finish start .pattern ""

private def template (start : Scanner) : Scan Token := do
  let opens := start.ahead 0 = '\x60'
  skip 1
  let closes ← templateRest start.rest.length
  modify fun s =>
    let braces := if closes then s.braces else true :: s.braces
    { s with braces := if opens then braces else braces.drop 1 }
  let token ← finish start .template ""
  let raw := token.raw.drop 1
  return { token with
    value := String.ofList (raw.take (raw.length - if closes then 1 else 2))
    opensTemplate := opens
    closesTemplate := closes }

private def punctuator (start : Scanner) : Scan Token := do
  match Token.punctuators.find? start.startsWith with
  | none => refuse .illegal
  | some text =>
    modify fun s => { s.skip text.length with
      braces :=
        if text = "\x7b" then false :: s.braces
        else if text = "\x7d" then s.braces.drop 1
        else s.braces }
    finish start .punctuator text

/-- The next token; white space and comments before it are behind. A closing brace goes on with a template if
the innermost open brace opens a substitution. -/
def token : Scan Token := do
  let start ← get
  let c := start.ahead 0
  if start.rest.isEmpty then finish start .endOfInput ""
  else if isNameStart c then
    let (kind, value) ← word
    finish start kind value
  else if c = '\'' || c = '"' then
    let (value, octal) ← string
    return { ← finish start .string value with isOctal := octal }
  else if c.isDigit || (c = '.' && (start.ahead 1).isDigit) then
    let (value, octal) ← number
    return { ← finish start .number value with isOctal := octal }
  else if c = '\x60' || (c = '\x7d' && start.braces.head? = some true) then template start
  else punctuator start

end Scan

end ClientGen.Script
