import ClientGen.Document.Json.Reader
import ClientGen.Text.Identifier
import ClientGen.Text.Lines

/-! A template's text cut into pieces: plain text, printed expressions and statements, the latter two as
tokens. A statement or comment takes the blanks before it on its line with it, and the line break right after
it; a minus at either end takes all blanks on that side, a plus none. -/

set_option autoImplicit false

namespace ClientGen.Template

inductive Token where
  | name (s : String)
  | literal (v : Value)
  | symbol (s : String)
  deriving Repr, Inhabited

inductive Piece where
  | text (s : List Char)
  | output (tokens : List Token)
  | statement (tokens : List Token)
  deriving Repr, Inhabited

private def readBase (base : Nat) (digits : List Char) : Nat :=
  digits.foldl (fun n c => match Text.hexValue? c with
    | some d => base * n + d
    | none => n) 0

/-- Digits that single underscores may separate, and what follows. -/
private def digitRun (isDigit : Char → Bool) : List Char → List Char × List Char
  | '_' :: c :: rest =>
    if isDigit c then
      let (digits, after) := digitRun isDigit rest
      (c :: digits, after)
    else ([], '_' :: c :: rest)
  | c :: rest =>
    if isDigit c then
      let (digits, after) := digitRun isDigit rest
      (c :: digits, after)
    else ([], c :: rest)
  | [] => ([], [])

private def isBit (c : Char) : Bool := c = '0' || c = '1'

private def isOctal (c : Char) : Bool := '0' ≤ c && c ≤ '7'

private def isHex (c : Char) : Bool := (Text.hexValue? c).isSome

private def exponentOf? : List Char → Option (Int × List Char)
  | e :: rest =>
    if e = 'e' || e = 'E' then
      let (negative, digits) := match rest with
        | '+' :: more => (false, more)
        | '-' :: more => (true, more)
        | more => (false, more)
      match digits with
      | d :: _ =>
        if d.isDigit then
          let (power, after) := digitRun Char.isDigit digits
          let n : Int := Document.Json.readDigits power
          some (if negative then -n else n, after)
        else none
      | [] => none
    else none
  | [] => none

private def readNumber (text : List Char) : Value × List Char :=
  let (whole, rest) := digitRun Char.isDigit text
  let (fraction, rest) := match rest with
    | '.' :: d :: more =>
      if d.isDigit then digitRun Char.isDigit (d :: more) else ([], rest)
    | rest => ([], rest)
  let float (power : Int) : Value :=
    .float (Binary64.ofDecimal false (Document.Json.readDigits (whole ++ fraction))
      (power - (fraction.length : Int)))
  match exponentOf? rest with
  | some (power, after) => (float power, after)
  | none =>
    if !fraction.isEmpty then (float 0, rest)
    else
      let based (isDigit : Char → Bool) (base : Nat) (digits : List Char) : Value × List Char :=
        let (digits, after) := digitRun isDigit digits
        (.int (readBase base digits), after)
      match text with
      | '0' :: 'b' :: d :: more => if isBit d then based isBit 2 (d :: more) else (.int 0, text.drop 1)
      | '0' :: 'o' :: d :: more =>
        if isOctal d then based isOctal 8 (d :: more) else (.int 0, text.drop 1)
      | '0' :: 'x' :: d :: more => if isHex d then based isHex 16 (d :: more) else (.int 0, text.drop 1)
      -- Zeros may be repeated, but no other digit follows a zero.
      | '0' :: _ =>
        let (_, after) := digitRun (· = '0') text
        (.int 0, after)
      | _ => (.int (Document.Json.readDigits whole), rest)

private def quotedRun (quote : Char) : List Char → Option (List Char × List Char)
  | [] => none
  | '\\' :: c :: rest => (quotedRun quote rest).map fun (s, after) => ('\\' :: c :: s, after)
  | c :: rest =>
    if c = quote then some ([], rest)
    else if c = '\\' then none
    else (quotedRun quote rest).map fun (s, after) => (c :: s, after)

private def escapedLetter? : Char → Option Char
  | '\\' => some '\\'
  | '\'' => some '\''
  | '"' => some '"'
  | 'a' => some (Char.ofNat 7)
  | 'b' => some (Char.ofNat 8)
  | 'f' => some (Char.ofNat 12)
  | 'n' => some '\n'
  | 'r' => some '\r'
  | 't' => some '\t'
  | 'v' => some (Char.ofNat 11)
  | _ => none

private def codeChar? (digits : List Char) : Option Char :=
  (Text.readHex? digits).bind fun n =>
    if n < 0xD800 || (0xE000 ≤ n && n < 0x110000) then some (Char.ofNat n) else none

/-- What the characters of a quoted literal stand for; an escape that means nothing stays as it is. -/
private def unescape? : List Char → Option (List Char)
  | [] => some []
  | '\\' :: '\n' :: rest => unescape? rest
  | '\\' :: 'x' :: a :: b :: rest =>
    (codeChar? [a, b]).bind fun c => (unescape? rest).map (c :: ·)
  | '\\' :: 'u' :: a :: b :: c :: d :: rest =>
    (codeChar? [a, b, c, d]).bind fun c => (unescape? rest).map (c :: ·)
  | '\\' :: 'U' :: a :: b :: c :: d :: e :: f :: g :: h :: rest =>
    (codeChar? [a, b, c, d, e, f, g, h]).bind fun c => (unescape? rest).map (c :: ·)
  | '\\' :: c :: rest =>
    if c = 'x' || c = 'u' || c = 'U' || c = 'N' then none
    else match escapedLetter? c with
      | some plain => (unescape? rest).map (plain :: ·)
      | none =>
        if isOctal c then (unescape? rest).map (Char.ofNat (c.toNat - 48) :: ·)
        else (unescape? rest).map ('\\' :: c :: ·)
  | c :: rest => (unescape? rest).map (c :: ·)

private def symbols : List String :=
  ["//", "**", "==", "!=", ">=", "<=", "+", "-", "/", "*", "%", "~", "[", "]", "(", ")", "\x7b", "\x7d",
    ">", "<", "=", ".", ":", "|", ",", ";"]

private def readToken? (text : List Char) : Option (Token × List Char) :=
  match text with
  | [] => none
  | '\'' :: rest | '"' :: rest =>
    let quote := text.headD '"'
    (quotedRun quote rest).bind fun (inner, after) =>
      (unescape? inner).map fun s => (.literal (.text (String.ofList s)), after)
  | c :: _ =>
    if c.isDigit then
      let (v, after) := readNumber text
      some (.literal v, after)
    else if Text.isIdentifierPart c then
      let word := text.takeWhile Text.isIdentifierPart
      if Text.isIdentifier word then
        some (.name (String.ofList word), text.dropWhile Text.isIdentifierPart)
      else none
    else
      (symbols.find? fun s => s.toList.isPrefixOf text).map fun s => (.symbol s, text.drop s.length)

/-- How many brackets stay open after a token; none when it closes one too many. -/
private def depthAfter? (depth : List String) : Token → Option (List String)
  | .symbol "(" => some (")" :: depth)
  | .symbol "[" => some ("]" :: depth)
  | .symbol "\x7b" => some ("\x7d" :: depth)
  | .symbol s =>
    if s = ")" || s = "]" || s = "\x7d" then
      match depth with
      | expected :: outer => if expected = s then some outer else none
      | [] => none
    else some depth
  | _ => some depth

/-- What is left of a text after a tag, and whether a line begins there. -/
private structure Remainder where
  lineStart : Bool
  text : List Char

/-- What follows an end mark at the very beginning of a text, if one stands there, with the blanks it takes:
all after a minus, none after a plus, and otherwise a line break if so asked. -/
private def endMark? (mark : List Char) (takesBreak plusAllowed : Bool) (text : List Char) :
    Option Remainder :=
  let length := mark.length
  if plusAllowed && ('+' :: mark).isPrefixOf text then some ⟨false, text.drop (length + 1)⟩
  else if ('-' :: mark).isPrefixOf text then
    let after := text.drop (length + 1)
    some ⟨(after.takeWhile Text.isBlank).getLast? = some '\n', after.dropWhile Text.isBlank⟩
  else if mark.isPrefixOf text then
    match text.drop length with
    | '\n' :: after => some (if takesBreak then ⟨true, after⟩ else ⟨false, '\n' :: after⟩)
    | after => some ⟨false, after⟩
  else none

private def readTokens? (bound : Nat) (mark : List Char) (takesBreak plusAllowed : Bool)
    (depth : List String) (text : List Char) : Option (List Token × Remainder) :=
  match bound with
  | 0 => none
  | bound + 1 =>
    let text := text.dropWhile Text.isBlank
    match if depth.isEmpty then endMark? mark takesBreak plusAllowed text else none with
    | some after => some ([], after)
    | none =>
      (readToken? text).bind fun (token, rest) =>
        (depthAfter? depth token).bind fun depth =>
          (readTokens? bound mark takesBreak plusAllowed depth rest).map fun (tokens, after) =>
            (token :: tokens, after)

private def upTo? (mark : List Char → Option Remainder) : List Char → Option (List Char × Remainder)
  | [] => none
  | c :: rest =>
    match mark (c :: rest) with
    | some after => some ([], after)
    | none => (upTo? mark rest).map fun (s, after) => (c :: s, after)

/-- What follows the word in a statement of one word, and whether a minus or plus begins it. -/
private def wordStatement? (word : String) (text : List Char) : Option (List Char) :=
  let inner := (match text with
    | '-' :: rest => rest
    | '+' :: rest => rest
    | rest => rest).dropWhile Text.isBlank
  if word.toList.isPrefixOf inner then
    some ((inner.drop word.length).dropWhile Text.isBlank)
  else none

private def rawStart? (text : List Char) : Option Remainder :=
  (wordStatement? "raw" text).bind (endMark? ['%', '\x7d'] false false)

private def rawEnd? : List Char → Option Remainder
  | '\x7b' :: '%' :: text => (wordStatement? "endraw" text).bind (endMark? ['%', '\x7d'] true true)
  | _ => none

/-- The text before a tag without the blanks that the tag takes; a start mark may be followed by a sign. -/
private def trimBefore (lineStart isOutput : Bool) (sign : Option Char) (before : List Char) :
    List Char :=
  if sign = some '-' then Text.trimRightBlanks before
  else if sign = some '+' || isOutput then before
  else
    -- Blanks are taken only where the line has nothing else before the tag.
    let line := (before.reverse.takeWhile (· ≠ '\n')).reverse
    let earlier := before.take (before.length - line.length)
    if (!earlier.isEmpty || lineStart) && line.all Text.isBlank then earlier else before

private def textPiece (s : List Char) : List Piece :=
  if s.isEmpty then [] else [.text s]

private def signOf : List Char → Option Char
  | '-' :: _ => some '-'
  | '+' :: _ => some '+'
  | _ => none

private def afterSign : List Char → List Char
  | '-' :: rest => rest
  | '+' :: rest => rest
  | rest => rest

/-- Cuts a text into pieces; `before` holds the plain text read so far, backwards. The bound is above the length
of the text, and so above the count of its tokens as well. -/
private def cut? (bound : Nat) (lineStart : Bool) (before text : List Char) : Option (List Piece) :=
  match bound with
  | 0 => none
  | bound + 1 =>
    match text with
    | [] => some (textPiece before.reverse)
    | '\x7b' :: '%' :: rest =>
      let head := textPiece (trimBefore lineStart false (signOf rest) before.reverse)
      match rawStart? rest with
      | some ⟨rawStartsLine, inner⟩ =>
        (upTo? rawEnd? inner).bind fun (raw, after) =>
          let tag := inner.drop raw.length
          let raw := trimBefore rawStartsLine false (signOf (tag.drop 2)) raw
          (cut? bound after.lineStart [] after.text).map fun pieces => head ++ textPiece raw ++ pieces
      | none =>
        let inner := afterSign rest
        (readTokens? bound ['%', '\x7d'] true true [] inner).bind fun (tokens, after) =>
          (cut? bound after.lineStart [] after.text).map fun pieces => head ++ .statement tokens :: pieces
    | '\x7b' :: '\x7b' :: rest =>
      let head := textPiece (trimBefore lineStart true (signOf rest) before.reverse)
      let inner := afterSign rest
      (readTokens? bound ['\x7d', '\x7d'] false false [] inner).bind fun (tokens, after) =>
        (cut? bound after.lineStart [] after.text).map fun pieces => head ++ .output tokens :: pieces
    | '\x7b' :: '#' :: rest =>
      let head := textPiece (trimBefore lineStart false (signOf rest) before.reverse)
      let inner := afterSign rest
      (upTo? (endMark? ['#', '\x7d'] true true) inner).bind fun (_, after) =>
        (cut? bound after.lineStart [] after.text).map fun pieces => head ++ pieces
    | c :: rest => cut? bound lineStart (c :: before) rest

def pieces? (text : List Char) : Option (List Piece) :=
  let text := Text.unifyBreaks text
  cut? (text.length + 1) true [] text

end ClientGen.Template
