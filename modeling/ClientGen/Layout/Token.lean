import ClientGen.Script.Letter
import ClientGen.Text.Class

/-! The pieces of a script that its layout is made of. Any text can be cut into pieces: what is no part of a
script is a piece of its own. -/

set_option autoImplicit false

namespace ClientGen.Layout

inductive Kind where
  | start | endOfInput
  | opening | closing
  | blockStart | blockEnd
  | word | reserved | string
  | semicolon | comma | dot | equals | operator
  deriving DecidableEq, Repr

inductive CommentKind where
  | block | line
  /-- A character that is no part of a script, or a line meant for another program. -/
  | stray
  deriving DecidableEq, Repr

/-- The white space before a piece: the number of line ends in it, and what follows the last one. -/
structure Gap where
  newlines : Nat := 0
  blanks : List Char := []

structure Comment where
  kind : CommentKind
  text : List Char
  gap : Gap

structure Token where
  kind : Kind
  text : String
  gap : Gap := {}
  comments : List Comment := []

namespace Token

def lineStarters : List String := [
  "continue", "try", "throw", "return", "var", "let", "const", "if", "switch", "case", "default", "for",
  "while", "break", "function", "import", "export"]

def reservedWords : List String :=
  lineStarters ++ ["do", "in", "of", "else", "get", "set", "new", "catch", "finally", "typeof", "yield", "async",
    "await", "from", "as", "class", "extends"]

def bindingWords : List String :=
  ["case", "return", "do", "if", "throw", "else", "await", "break", "continue", "async"]

def restrictedWords : List String := ["async", "break", "continue", "return", "throw", "yield"]

def breakingOperators : List String := [
  ">>>", "===", "!==", "&&=", "??=", "||=", "<<", "&&", ">=", "**", "!=", "==", "<=", ">>", "||", "??", "|>",
  "<", "/", "-", "+", ">", ":", "&", "%", "?", "^", "|", "*"]

def operators : List String := [
  ">>>=", "...", ">>=", "<<=", "===", ">>>", "!==", "**=", "&&=", "??=", "||=", "=>", "^=", "::", "/=", "<<",
  "<=", "==", "&&", "-=", ">=", ">>", "!=", "--", "+=", "**", "||", "??", "++", "%=", "&=", "*=", "|=", "|>",
  "=", "!", "?", ">", "<", ":", "/", "^", "-", "+", "*", "&", "%", "~", "|"]

def isReservedIn (t : Token) (words : List String) : Bool := t.kind = .reserved && words.contains t.text

def isBreaking (t : Token) : Bool := breakingOperators.contains t.text

end Token

namespace Scan

open Script (isLineEnd)

def isGap (c : Char) : Bool := (Script.isBlank c && c.toNat ≠ 0x0B && c.toNat ≠ 0x0C) || isLineEnd c

private def gapFrom (newlines : Nat) (blanks : List Char) : List Char → Gap
  | [] => ⟨newlines, blanks.reverse⟩
  | '\r' :: '\n' :: rest => gapFrom (newlines + 1) [] rest
  | c :: rest => if isLineEnd c then gapFrom (newlines + 1) [] rest else gapFrom newlines (c :: blanks) rest

def gap (text : List Char) : Gap × List Char :=
  let (blanks, rest) := text.span isGap
  (gapFrom 0 [] blanks, rest)

def plainBreaks : List Char → List Char
  | [] => []
  | '\r' :: '\n' :: rest => '\n' :: plainBreaks rest
  | c :: rest => (if isLineEnd c then '\n' else c) :: plainBreaks rest

/-- Names hold letters of the basic plane. A sign may start a private name or a decorator. -/
private def startsName (c : Char) : Bool :=
  c = '#' || c = '@' || (c ≠ '\\' && c.toNat < 0x10000 && Script.isNameStart c)

private def inName (c : Char) : Bool := c ≠ '\\' && c.toNat < 0x10000 && Script.isNamePart c

private def nameEscape? (text : List Char) : Option (List Char × List Char) :=
  match text with
  | '\\' :: 'u' :: '\x7b' :: rest =>
    let (digits, after) := rest.span fun c => (Text.hexValue? c).isSome
    match digits, after with
    | _ :: _, '\x7d' :: after => some ('\\' :: 'u' :: '\x7b' :: digits ++ ['\x7d'], after)
    | _, _ => none
  | _ => none

private def nameRest : Nat → List Char → List Char × List Char
  | 0, text => ([], text)
  | bound + 1, text =>
    let (plain, rest) := text.span inName
    match nameEscape? rest with
    | some (escape, after) =>
      let (more, left) := nameRest bound after
      (plain ++ escape ++ more, left)
    | none => (plain, rest)

def name (text : List Char) : List Char × List Char :=
  match text with
  | c :: rest =>
    if startsName c then
      let (more, left) := nameRest rest.length rest
      (c :: more, left)
    else match nameEscape? text with
      | some (escape, after) =>
        let (more, left) := nameRest after.length after
        (escape ++ more, left)
      | none => ([], text)
  | [] => ([], [])

private def isDigitOrGap (c : Char) : Bool := Text.isDecimalDigit c || c = '_'

private def takeSuffix (read text : List Char) : List Char × List Char :=
  match text with
  | 'n' :: rest => (read ++ ['n'], rest)
  | _ => (read, text)

private def exponent (text : List Char) : List Char × List Char :=
  match text with
  | e :: rest =>
    if e = 'e' || e = 'E' then
      let (sign, rest) := match rest with
        | '+' :: rest => (['+'], rest)
        | '-' :: rest => (['-'], rest)
        | rest => ([], rest)
      match rest.span isDigitOrGap with
      | ([], _) => ([], text)
      | (digits, left) => (e :: sign ++ digits, left)
    else ([], text)
  | [] => ([], text)

private def basedNumber? (text : List Char) : Option (List Char × List Char) :=
  match text with
  | '0' :: b :: rest =>
    let inside? : Option (Char → Bool) :=
      if b = 'x' || b = 'X' then some fun c => (Text.hexValue? c).isSome
      else if b = 'o' || b = 'O' then some Script.isOctal
      else if b = 'b' || b = 'B' then some fun c => c = '0' || c = '1'
      else none
    inside?.map fun inside =>
      let (digits, left) := rest.span fun c => inside c || c = '_'
      takeSuffix ('0' :: b :: digits) left
  | _ => none

def number (text : List Char) : List Char × List Char :=
  match basedNumber? text with
  | some found => found
  | none =>
    match text with
    | '.' :: d :: rest =>
      if Text.isDecimalDigit d then
        let (digits, left) := rest.span isDigitOrGap
        let (power, left) := exponent left
        ('.' :: d :: digits ++ power, left)
      else ([], text)
    | d :: rest =>
      if Text.isDecimalDigit d then
        let (digits, left) := rest.span isDigitOrGap
        match left with
        | 'n' :: left => (d :: digits ++ ['n'], left)
        | '.' :: left =>
          let (fraction, left) := left.span isDigitOrGap
          let (power, left) := exponent left
          (d :: digits ++ '.' :: fraction ++ power, left)
        | left =>
          let (power, left) := exponent left
          (d :: digits ++ power, left)
      else ([], text)
    | [] => ([], text)

private def quoted (quote : Char) : List Char → List Char × List Char
  | [] => ([], [])
  | '\\' :: '\r' :: '\n' :: rest =>
    let (more, left) := quoted quote rest
    ('\\' :: '\n' :: more, left)
  | '\\' :: c :: rest =>
    let (more, left) := quoted quote rest
    ('\\' :: c :: more, left)
  | c :: rest =>
    if c = quote || isLineEnd c then ([], c :: rest)
    else
      let (more, left) := quoted quote rest
      (c :: more, left)

/-- The content of a template, or of a substitution in it, up to what closes it. A substitution ends at the
first closing brace outside the templates it holds. -/
private def templateRest : Nat → Bool → List Char → List Char × List Char
  | 0, _, text => ([], text)
  | _, _, [] => ([], [])
  | bound + 1, inside, c :: rest =>
    if c = (if inside then '\x7d' else '\x60') then ([], c :: rest)
    else
      let (piece, left) :=
        match inside, c, rest with
        | _, '\\', d :: rest => (['\\', d], rest)
        | false, '$', '\x7b' :: rest =>
          let (inner, left) := templateRest bound true rest
          ('$' :: '\x7b' :: inner ++ left.take 1, left.drop 1)
        | true, '\x60', rest =>
          let (inner, left) := templateRest bound false rest
          ('\x60' :: inner ++ left.take 1, left.drop 1)
        | _, c, rest => ([c], rest)
      let (more, left) := templateRest bound inside left
      (piece ++ more, left)

private def string? (text : List Char) : Option (List Char × List Char) :=
  match text with
  | [] => none
  | quote :: rest =>
    if quote = '"' || quote = '\'' || quote = '\x60' then
      let (content, left) :=
        if quote = '\x60' then templateRest rest.length false rest else quoted quote rest
      let closed := left.head? = some quote
      some (quote :: content ++ (if closed then [quote] else []), if closed then left.drop 1 else left)
    else none

private def blockRest : List Char → List Char × List Char
  | [] => ([], [])
  | '*' :: '/' :: rest => (['*', '/'], rest)
  | c :: rest =>
    let (more, left) := blockRest rest
    (c :: more, left)

private def lineRest (text : List Char) : List Char × List Char := text.span fun c => !isLineEnd c

private def patternRest (escaped inClass : Bool) : List Char → List Char × List Char
  | [] => ([], [])
  | c :: rest =>
    if isLineEnd c || (c = '/' && !escaped && !inClass) then ([], c :: rest)
    else
      let inClass := if escaped then inClass else if c = '[' then true else if c = ']' then false else inClass
      let (more, left) := patternRest (!escaped && c = '\\') inClass rest
      (c :: more, left)

private def pattern (rest : List Char) : List Char × List Char :=
  let (body, left) := patternRest false false rest
  match left with
  | '/' :: left =>
    let (flags, left) := name left
    ('/' :: body ++ '/' :: flags, left)
  | left => ('/' :: body, left)

structure Before where
  last : Token := { kind := .start, text := "" }
  /-- The open brackets, innermost first, and for each whether a condition before it closes with it. -/
  opened : List (String × Bool) := []
  /-- Whether the last piece closes the condition of a statement. -/
  closesCondition : Bool := false
  inMarkup : Bool := false

def allowsPattern (before : Before) : Bool :=
  match before.last.kind with
  | .reserved => ["return", "case", "throw", "else", "do", "typeof", "yield"].contains before.last.text
  | .closing => before.last.text = ")" && before.closesCondition
  | .opening | .blockStart | .start | .blockEnd | .operator | .equals | .endOfInput | .semicolon | .comma => true
  | _ => false

/-- The kind of a word. After a dot, or after what introduces an accessor, no word is reserved. -/
private def kindOfWord (last : Token) (text : String) : Kind :=
  if last.kind = .dot || last.isReservedIn ["set", "get"] || !Token.reservedWords.contains text then .word
  else if (text = "in" || text = "of") && (last.kind = .word || last.kind = .string) then .operator
  else .reserved

inductive Piece where
  | token (kind : Kind) (text : List Char)
  | comment (kind : CommentKind) (text : List Char)

/-- A line for another program, and a number of a shared object; both start with a sharp. -/
private def sharp? (isFirst : Bool) (text : List Char) : Option (Piece × List Char) :=
  let line (text : List Char) : Piece × List Char :=
    let (content, left) := lineRest text
    (.comment .stray ((content.reverse.dropWhile Script.isBlank).reverse ++ ['\n']), left)
  match text with
  | '#' :: rest =>
    if (isFirst && rest.head? = some '!') || "include".toList.isPrefixOf rest then some (line text)
    else if (rest.head?.map Text.isDecimalDigit).getD false then
      let (digits, left) := rest.span fun c => c ≠ '#' && c ≠ '='
      let ends := left.head?.getD '#'
      let found := '#' :: digits ++ left.take 1
      let left := left.drop 1
      if ends ≠ '#' && "[]".toList.isPrefixOf left then some (.token .word (found ++ "[]".toList), left.drop 2)
      else if ends ≠ '#' && "\x7b\x7d".toList.isPrefixOf left then
        some (.token .word (found ++ "\x7b\x7d".toList), left.drop 2)
      else some (.token .word found, left)
    else none
  | _ => none

private def markup? (before : Before) (text : List Char) : Option (Piece × List Char) :=
  if before.last.kind = .start && "<!--".toList.isPrefixOf text then
    let (content, left) := lineRest text
    some (.comment .line content, left)
  else if before.inMarkup && "-->".toList.isPrefixOf text then some (.comment .line "-->".toList, text.drop 3)
  else none

private def bracket? (c : Char) (rest : List Char) : Option Kind :=
  match c with
  | '(' | '[' => some .opening
  | ')' | ']' => some .closing
  | '\x7b' => some .blockStart
  | '\x7d' => some .blockEnd
  | ';' => some .semicolon
  | ',' => some .comma
  | '.' => match rest with
    | d :: _ => if d = '.' || Text.isDecimalDigit d then none else some .dot
    | [] => none
  | _ => none

/-- An operator, the longest one that the text starts with. An optional access is a dot. -/
private def operator? (text : List Char) : Option (Piece × List Char) :=
  let access := match text with
    | '?' :: '.' :: d :: _ => !Text.isDecimalDigit d
    | ['?', '.'] => true
    | _ => false
  if access then some (.token .dot "?.".toList, text.drop 2)
  else (Token.operators.find? fun op => op.toList.isPrefixOf text).map fun op =>
    (.token (if op = "=" then .equals else .operator) op.toList, text.drop op.length)

def piece (before : Before) (text : List Char) : Piece × List Char :=
  match text with
  | [] => (.token .endOfInput [], [])
  | c :: rest =>
    match sharp? (before.last.kind = .start) text <|> markup? before text with
    | some found => found
    | none =>
      match string? text with
      | some (content, left) => (.token .string (plainBreaks content), left)
      | none =>
        if "#\x7b".toList.isPrefixOf text then (.token .blockStart "#\x7b".toList, text.drop 2)
        else match name text with
          | (word@(_ :: _), left) => (.token (kindOfWord before.last (String.ofList word)) word, left)
          | ([], _) =>
            match number text with
            | (digits@(_ :: _), left) => (.token .word digits, left)
            | ([], _) =>
              match bracket? c rest, c, rest with
              | some kind, _, _ => (.token kind [c], rest)
              | none, '/', '*' :: more =>
                let (content, left) := blockRest more
                (.comment .block (plainBreaks ('/' :: '*' :: content)), left)
              | none, '/', '/' :: _ =>
                let (content, left) := lineRest text
                (.comment .line content, left)
              | none, '/', _ =>
                if allowsPattern before then
                  let (content, left) := pattern rest
                  (.token .string content, left)
                else (operator? text).getD (.comment .stray [c], rest)
              | none, _, _ => (operator? text).getD (.comment .stray [c], rest)

private def Before.push (before : Before) (token : Token) : Before :=
  let before := { before with closesCondition := false }
  match token.kind, before.opened with
  | .opening, opened | .blockStart, opened => { before with
      last := token
      opened := (token.text, before.last.isReservedIn ["if", "while", "for"]) :: opened }
  | .closing, (opener, condition) :: opened | .blockEnd, (opener, condition) :: opened =>
    if [("(", ")"), ("[", "]"), ("\x7b", "\x7d")].contains (opener, token.text) then { before with
      last := token
      opened
      closesCondition := condition }
    else { before with last := token }
  | _, _ => { before with last := token }

/-- The tokens of a text up to its end, so many pieces at most. -/
private def tokensFrom : Nat → Before → List Comment → List Char → List Token
  | 0, _, _, _ => []
  | bound + 1, before, comments, text =>
    let (gap, text) := gap text
    match piece before text with
    | (.comment kind content, left) =>
      let before := { before with
        inMarkup := "<!--".toList.isPrefixOf content || (before.inMarkup && content ≠ "-->".toList) }
      tokensFrom bound before (⟨kind, content, gap⟩ :: comments) left
    | (.token kind content, left) =>
      let token : Token := {
        kind
        text := String.ofList content
        gap
        comments := comments.reverse }
      if kind = .endOfInput then [token] else token :: tokensFrom bound (before.push token) [] left

end Scan

def tokens (text : List Char) : List Token := Scan.tokensFrom (text.length + 1) {} [] text

end ClientGen.Layout
