import ClientGen.Failure
import ClientGen.Text.Hex

/-! The tokens of a YAML text. Block structure is told from columns: a token that begins further to the right
than the block it stands in opens a block, one further to the left closes blocks. A scalar becomes a key only
when a colon follows it on the same line, so its place among the tokens is kept until then. -/

set_option autoImplicit false

namespace ClientGen.Document.Yaml

inductive Token where
  | directive (text : List Char)
  | documentStart
  | documentEnd
  | blockSequence
  | blockMapping
  | blockEnd
  | flowSequence
  | flowSequenceEnd
  | flowMapping
  | flowMappingEnd
  | entry
  | flowEntry
  | key
  | value
  | alias (name : String)
  | anchor (name : String)
  | tag (handle : Option String) (suffix : String)
  | scalar (text : String) (plain : Bool)
  | broken
  deriving DecidableEq, Repr

/-- Where a key may begin: the number of tokens before it and its place in the text. A required one has to
become a key, because it stands where the keys of its block do. -/
structure PossibleKey where
  tokens : Nat
  required : Bool
  index : Nat
  line : Nat
  column : Nat

structure Scanner where
  rest : List Char
  index : Nat := 0
  line : Nat := 0
  column : Nat := 0
  /-- The columns of the open blocks, the innermost first. -/
  indents : List Nat := []
  /-- For each open bracket, and the block outside of them, where a key may begin. -/
  keys : List (Option PossibleKey) := [none]
  keyAllowed : Bool := true
  /-- The tokens read, backwards. -/
  tokens : List Token := []
  count : Nat := 0

namespace Scanner

def isBreak (c : Char) : Bool :=
  c = '\n' || c = '\r' || c = '\u0085' || c = '\u2028' || c = '\u2029'

def atBlank : List Char → Bool
  | [] => true
  | c :: _ => c = ' ' || c = '\t' || isBreak c

def atBreak : List Char → Bool
  | [] => true
  | c :: _ => isBreak c

def inFlow (s : Scanner) : Bool := 1 < s.keys.length

def skip (s : Scanner) (n : Nat) : Scanner :=
  { s with rest := s.rest.drop n, index := s.index + n, column := s.column + n }

def skipWhile (s : Scanner) (p : Char → Bool) : Scanner := s.skip (s.rest.takeWhile p).length

/-- Moves over a line break, and gives the text that it stands for. -/
def lineBreak (s : Scanner) : Option (Char × Scanner) :=
  let next (c : Char) (n : Nat) (rest : List Char) : Option (Char × Scanner) :=
    some (c, { s with rest, index := s.index + n, line := s.line + 1, column := 0 })
  match s.rest with
  | '\r' :: '\n' :: rest => next '\n' 2 rest
  | c :: rest =>
    if c = '\n' || c = '\r' || c = '\u0085' then next '\n' 1 rest
    else if c = '\u2028' || c = '\u2029' then next c 1 rest
    else none
  | [] => none

def atMark (mark : Char) (text : List Char) : Bool :=
  [mark, mark, mark].isPrefixOf text && atBlank (text.drop 3)

def atSeparator (s : Scanner) : Bool :=
  s.column = 0 && (atMark '-' s.rest || atMark '.' s.rest)

def push (s : Scanner) (token : Token) : Scanner :=
  { s with tokens := token :: s.tokens, count := s.count + 1 }

def insertAt (s : Scanner) (position : Nat) (inserted : List Token) : Scanner :=
  let later := s.count - position
  { s with
    tokens := s.tokens.take later ++ inserted.reverse ++ s.tokens.drop later
    count := s.count + inserted.length }

/-- The column of the innermost block, or -1 outside of all blocks. -/
def indent (s : Scanner) : Int := (s.indents.head?.map fun n => (n : Int)).getD (-1)

def openBlock? (s : Scanner) (column : Nat) : Option Scanner :=
  if s.indent < (column : Int) then some { s with indents := column :: s.indents } else none

private def closing (column : Int) : List Nat → Nat × List Nat
  | [] => (0, [])
  | n :: rest =>
    if column < (n : Int) then
      let (closed, left) := closing column rest
      (closed + 1, left)
    else (0, n :: rest)

def closeBlocks (s : Scanner) (column : Int) : Scanner :=
  if s.inFlow then s
  else
    let (closed, left) := closing column s.indents
    { s with
      indents := left
      tokens := List.replicate closed .blockEnd ++ s.tokens
      count := s.count + closed }

def dropKey? (s : Scanner) : Option Scanner :=
  match s.keys with
  | some key :: outer => if key.required then none else some { s with keys := none :: outer }
  | _ => some s

def noteKey? (s : Scanner) : Option Scanner :=
  if s.keyAllowed then
    s.dropKey?.map fun s =>
      -- In a block a token at the column of the block has to be a key.
      let key : PossibleKey :=
        { tokens := s.count
          required := !s.inFlow && s.indent == (s.column : Int)
          index := s.index, line := s.line, column := s.column }
      { s with keys := some key :: s.keys.drop 1 }
  else some s

/-- A key ends on the line where it begins, and soon. -/
def staleKeys? (s : Scanner) : Option Scanner :=
  let isStale (key : PossibleKey) : Bool := key.line != s.line || 1024 < s.index - key.index
  if s.keys.any fun key => key.any fun key => isStale key && key.required then none
  else some { s with keys := s.keys.map (·.filter (!isStale ·)) }

/-! ## Scalars -/

private def toNext (bound : Nat) (s : Scanner) : Scanner :=
  match bound with
  | 0 => s
  | bound + 1 =>
    let s := s.skipWhile (· = ' ')
    let s := if s.rest.head? = some '#' then s.skipWhile (!isBreak ·) else s
    -- On a new line of a block a key may begin again.
    match s.lineBreak with
    | some (_, s) => toNext bound (if s.inFlow then s else { s with keyAllowed := true })
    | none => s

/-- Moves over the line breaks and spaces that follow a line break of a plain scalar; the flag says whether a
separator of documents was met. -/
private def plainBreaks (bound : Nat) (s : Scanner) : List Char × Bool × Scanner :=
  match bound with
  | 0 => ([], false, s)
  | bound + 1 =>
    match s.rest with
    | ' ' :: _ => plainBreaks bound (s.skip 1)
    | _ =>
      match s.lineBreak with
      | none => ([], false, s)
      | some (c, s) =>
        if s.atSeparator then ([], true, s)
        else
          let (more, ended, s) := plainBreaks bound s
          (c :: more, ended, s)

/-- A line break within a scalar is a space, unless more of them follow. -/
private def foldBreak (first : Char) (more : List Char) : List Char :=
  if first ≠ '\n' then first :: more else if more.isEmpty then [' '] else more

/-- What lies between two parts of a plain scalar, and what it stands for; nothing at its end. -/
private def plainSpaces (s : Scanner) : List Char × Scanner :=
  let spaces := s.rest.takeWhile (· = ' ')
  let s := s.skip spaces.length
  match s.lineBreak with
  | none => (spaces, s)
  | some (first, s) =>
    let s := { s with keyAllowed := true }
    if s.atSeparator then ([], s)
    else
      let (more, ended, s) := plainBreaks (s.rest.length + 1) s
      (if ended then [] else foldBreak first more, s)

private def plainRun (flow : Bool) : List Char → List Char
  | [] => []
  | c :: rest =>
    if c = ' ' || c = '\t' || isBreak c then []
    else if c = ':' && (atBlank rest || (flow && (rest.head?.any fun d => ",[]\x7b\x7d".toList.contains d)))
      then []
    else if flow && ",?[]\x7b\x7d".toList.contains c then []
    else c :: plainRun flow rest

private def plain (bound : Nat) (indent : Int) (spaces : List Char) (s : Scanner) :
    List Char × Scanner :=
  match bound with
  | 0 => ([], s)
  | bound + 1 =>
    let run := if s.rest.head? = some '#' then [] else plainRun s.inFlow s.rest
    if run.isEmpty then ([], s)
    else
      let (between, after) := plainSpaces { s.skip run.length with keyAllowed := false }
      -- A comment needs a blank before it, and a line that is indented less is outside.
      let ends := between.isEmpty || after.rest.head? = some '#' ||
        (!s.inFlow && (after.column : Int) < indent)
      if ends then (spaces ++ run, after)
      else
        let (more, after) := plain bound indent between after
        (spaces ++ run ++ more, after)

private def escapeOf? : Char → Option Char
  | '0' => some (Char.ofNat 0)
  | 'a' => some (Char.ofNat 7)
  | 'b' => some (Char.ofNat 8)
  | 't' => some '\t'
  | '\t' => some '\t'
  | 'n' => some '\n'
  | 'v' => some (Char.ofNat 11)
  | 'f' => some (Char.ofNat 12)
  | 'r' => some '\r'
  | 'e' => some (Char.ofNat 27)
  | ' ' => some ' '
  | '"' => some '"'
  | '\\' => some '\\'
  | '/' => some '/'
  | 'N' => some '\u0085'
  | '_' => some '\u00A0'
  | 'L' => some '\u2028'
  | 'P' => some '\u2029'
  | _ => none

private def codeLength? : Char → Option Nat
  | 'x' => some 2
  | 'u' => some 4
  | 'U' => some 8
  | _ => none

private def quotedBreaks (bound : Nat) (s : Scanner) : Option (List Char × Scanner) :=
  match bound with
  | 0 => none
  | bound + 1 =>
    if s.atSeparator then none
    else
      let s := s.skipWhile fun c => c = ' ' || c = '\t'
      match s.lineBreak with
      | none => some ([], s)
      | some (c, s) => (quotedBreaks bound s).map fun (more, s) => (c :: more, s)

private def quoted (bound : Nat) (double : Bool) (s : Scanner) : Option (List Char × Scanner) :=
  match bound with
  | 0 => none
  | bound + 1 =>
    let put (part : List Char) (s : Scanner) : Option (List Char × Scanner) :=
      (quoted bound double s).map fun (more, s) => (part ++ more, s)
    match s.rest with
    | [] => none
    | '\'' :: rest =>
      if double then put ['\''] (s.skip 1)
      else match rest with
        | '\'' :: _ => put ['\''] (s.skip 2)
        | _ => some ([], s.skip 1)
    | '"' :: _ => if double then some ([], s.skip 1) else put ['"'] (s.skip 1)
    | '\\' :: rest =>
      if !double then put ['\\'] (s.skip 1)
      else match rest with
        | [] => none
        | c :: digits =>
          match escapeOf? c, codeLength? c with
          | some plain, _ => put [plain] (s.skip 2)
          | none, some length =>
            if digits.length < length then none
            else (Text.readHex? (digits.take length)).bind fun n =>
              if n.isValidChar then put [Char.ofNat n] (s.skip (2 + length)) else none
          | none, none =>
            -- An escaped line break stands for nothing, not even a space.
            (s.skip 1).lineBreak.bind fun (_, s) =>
              (quotedBreaks bound s).bind fun (breaks, s) => put breaks s
    | c :: _ =>
      if c = ' ' || c = '\t' then
        let spaces := s.rest.takeWhile fun c => c = ' ' || c = '\t'
        let after := s.skip spaces.length
        match after.lineBreak with
        | none => put spaces after
        | some (first, after) =>
          (quotedBreaks bound after).bind fun (more, after) => put (foldBreak first more) after
      else match s.lineBreak with
        | some (first, after) =>
          (quotedBreaks bound after).bind fun (more, after) => put (foldBreak first more) after
        | none =>
          let run := s.rest.takeWhile fun c =>
            c ≠ '\'' && c ≠ '"' && c ≠ '\\' && c ≠ ' ' && c ≠ '\t' && !isBreak c
          put run (s.skip run.length)

/-- What the head of a block scalar asks for: whether line breaks at its end are kept or dropped, and how far
it is indented. -/
private def blockHead (s : Scanner) : Option (Option Bool × Option Nat × Scanner) :=
  let sign : Char → Option Bool
    | '+' => some true
    | '-' => some false
    | _ => none
  let digit (c : Char) : Option Nat :=
    if '0' ≤ c && c ≤ '9' then some (c.toNat - 48) else none
  let found : Option Bool × Option Nat × Nat :=
    match s.rest with
    | c :: d :: _ =>
      match sign c, digit c with
      | some keep, _ => (some keep, digit d, if (digit d).isSome then 2 else 1)
      | none, some n => (sign d, some n, if (sign d).isSome then 2 else 1)
      | none, none => (none, none, 0)
    | [c] => (sign c, digit c, if (sign c).isSome || (digit c).isSome then 1 else 0)
    | [] => (none, none, 0)
  let (keep, increment, length) := found
  let s := s.skip length
  if increment = some 0 || !(atBreak s.rest || s.rest.head? = some ' ') then none
  else
    let s := s.skipWhile (· = ' ')
    let s := if s.rest.head? = some '#' then s.skipWhile (!isBreak ·) else s
    if atBreak s.rest then some (keep, increment, (s.lineBreak.map (·.2)).getD s) else none

private def blockIndent (bound : Nat) (widest : Nat) (s : Scanner) : List Char × Nat × Scanner :=
  match bound with
  | 0 => ([], widest, s)
  | bound + 1 =>
    match s.rest, s.lineBreak with
    | ' ' :: _, _ =>
      let s := s.skip 1
      blockIndent bound (max widest s.column) s
    | _, some (c, s) =>
      let (more, widest, s) := blockIndent bound widest s
      (c :: more, widest, s)
    | _, none => ([], widest, s)

private def blockBreaks (bound indent : Nat) (s : Scanner) : List Char × Scanner :=
  let spaces := s.rest.takeWhile (· = ' ')
  let s := s.skip (min spaces.length (indent - s.column))
  match bound with
  | 0 => ([], s)
  | bound + 1 =>
    match s.lineBreak with
    | none => ([], s)
    | some (c, s) =>
      let (more, s) := blockBreaks bound indent s
      (c :: more, s)

/-- The lines of a block scalar: its text, the line break after its last line and the empty lines after
that. -/
private def blockLines (bound indent : Nat) (folded : Bool) (breaks : List Char) (s : Scanner) :
    List Char × List Char × List Char × Scanner :=
  match bound with
  | 0 => ([], [], breaks, s)
  | bound + 1 =>
    if s.column ≠ indent || s.rest.isEmpty then ([], [], breaks, s)
    else
      let atSpace (s : Scanner) : Bool := s.rest.head?.any fun c => c = ' ' || c = '\t'
      let line := s.rest.takeWhile (!isBreak ·)
      let after := s.skip line.length
      let (ending, after) := match after.lineBreak with
        | some (c, after) => ([c], after)
        | none => ([], after)
      let (next, after) := blockBreaks (after.rest.length + 1) indent after
      if after.column = indent && !after.rest.isEmpty then
        let joint :=
          if folded && ending = ['\n'] && !atSpace s && !atSpace after then
            if next.isEmpty then [' '] else []
          else ending
        let (more, last, rest, after) := blockLines bound indent folded next after
        (breaks ++ line ++ joint ++ more, last, rest, after)
      else (breaks ++ line, ending, next, after)

private def block (folded : Bool) (s : Scanner) : Option (List Char × Scanner) :=
  (blockHead s).map fun (keep, increment, s) =>
    let least := (max (s.indent + 1) 1).toNat
    let bound := s.rest.length + 1
    let (breaks, indent, s) := match increment with
      | some n =>
        let indent := least + n - 1
        let (breaks, s) := blockBreaks bound indent s
        (breaks, indent, s)
      | none =>
        let (breaks, widest, s) := blockIndent bound 0 s
        (breaks, max least widest, s)
    let (text, last, rest, s) := blockLines bound indent folded breaks s
    let text := match keep with
      | some false => text
      | some true => text ++ last ++ rest
      | none => text ++ last
    (text, s)

/-! ## Tokens -/

private def isNameChar (c : Char) : Bool := c.isAlphanum || c = '-' || c = '_'

private def name? (s : Scanner) : Option (String × Scanner) :=
  let name := s.rest.takeWhile isNameChar
  let after := s.skip name.length
  if name.isEmpty then none
  else if atBlank after.rest || (after.rest.head?.any fun c => "?:,]\x7d%@`".toList.contains c) then
    some (String.ofList name, after)
  else none

private def isUriChar (c : Char) : Bool :=
  c.isAlphanum || "-;/?:@&=+$,_.!~*'()[]%".toList.contains c

private def tag? (s : Scanner) : Option (Token × Scanner) :=
  let result : Option (Token × Scanner) :=
    match s.rest with
    | '!' :: '<' :: _ =>
      let after := s.skip 2
      let uri := after.rest.takeWhile isUriChar
      let after := after.skip uri.length
      match uri, after.rest with
      | _ :: _, '>' :: _ => some (.tag none (String.ofList uri), after.skip 1)
      | _, _ => none
    | '!' :: rest =>
      if atBlank rest then some (.tag none "!", s.skip 1)
      else
        let word := rest.takeWhile fun c => c ≠ ' ' && !isBreak c
        let name := rest.takeWhile isNameChar
        let named := (rest.drop name.length).head? = some '!'
        let (handle, after) :=
          if named then (String.ofList ('!' :: name ++ ['!']), s.skip (name.length + 2))
          else ("!", s.skip 1)
        let suffix := after.rest.takeWhile isUriChar
        if suffix.isEmpty || (word.contains '!' && !named) then none
        else some (.tag (some handle) (String.ofList suffix), after.skip suffix.length)
    | _ => none
  result.bind fun (token, after) =>
    if atBreak after.rest || after.rest.head? = some ' ' then some (token, after) else none

private def mark? (s : Scanner) (length : Nat) (token : Token) (keyAllowed : Bool) : Option Scanner :=
  s.dropKey?.map fun s => { (s.skip length).push token with keyAllowed }

private def inBlock? (s : Scanner) (token : Token) : Option Scanner :=
  if s.inFlow then some s
  else if !s.keyAllowed then none
  else some (((s.openBlock? s.column).map (·.push token)).getD s)

private def flowStart? (s : Scanner) (token : Token) : Option Scanner :=
  s.noteKey?.map fun s =>
    let s := (s.skip 1).push token
    { s with keys := none :: s.keys, keyAllowed := true }

private def flowEnd? (s : Scanner) (token : Token) : Option Scanner :=
  s.dropKey?.map fun s =>
    let s := (s.skip 1).push token
    { s with keys := if s.inFlow then s.keys.drop 1 else s.keys, keyAllowed := false }

private def value? (s : Scanner) : Option Scanner :=
  match s.keys with
  | some key :: outer =>
    let s := { s with keys := none :: outer }
    let inserted (s : Scanner) (tokens : List Token) : Scanner := s.insertAt key.tokens tokens
    let s :=
      if s.inFlow then inserted s [.key]
      else match s.openBlock? key.column with
        | some s => inserted s [.blockMapping, .key]
        | none => inserted s [.key]
    some { (s.skip 1).push .value with keyAllowed := false }
  | _ => (inBlock? s .blockMapping).bind fun s => mark? s 1 .value !s.inFlow

private def startsPlain (flow : Bool) : List Char → Bool
  | [] => false
  | c :: rest =>
    if "-?:,[]\x7b\x7d#&*!|>'\"%@`".toList.contains c then
      !atBlank rest && (c = '-' || (!flow && (c = '?' || c = ':')))
    else c ≠ '\t'

private def scalarToken (plain : Bool) (result : List Char × Scanner) : Scanner :=
  result.2.push (.scalar (String.ofList result.1) plain)

private def next? (s : Scanner) : Option Scanner :=
  let withKey (read : Scanner → Option Scanner) : Option Scanner :=
    s.noteKey?.bind fun s => read { s with keyAllowed := false }
  let bound := s.rest.length + 1
  let otherwise : Option Scanner :=
    if startsPlain s.inFlow s.rest then
      withKey fun s => some (scalarToken true (plain bound (s.indent + 1) [] s))
    else none
  match s.rest with
  | [] => none
  | c :: rest =>
    if s.column = 0 && c = '%' then
      (s.closeBlocks (-1)).dropKey?.map fun s =>
        let line := s.rest.takeWhile (!isBreak ·)
        { (s.skip line.length).push (.directive line) with keyAllowed := false }
    else if s.column = 0 && atMark '-' s.rest then mark? (s.closeBlocks (-1)) 3 .documentStart false
    else if s.column = 0 && atMark '.' s.rest then mark? (s.closeBlocks (-1)) 3 .documentEnd false
    else match c with
      | '[' => flowStart? s .flowSequence
      | '\x7b' => flowStart? s .flowMapping
      | ']' => flowEnd? s .flowSequenceEnd
      | '\x7d' => flowEnd? s .flowMappingEnd
      | ',' => mark? s 1 .flowEntry true
      | '-' =>
        if atBlank rest then (inBlock? s .blockSequence).bind fun s => mark? s 1 .entry true
        else otherwise
      | '?' =>
        if s.inFlow || atBlank rest then
          (inBlock? s .blockMapping).bind fun s => mark? s 1 .key !s.inFlow
        else otherwise
      | ':' => if s.inFlow || atBlank rest then value? s else otherwise
      | '*' => withKey fun s => (name? (s.skip 1)).map fun (name, s) => s.push (.alias name)
      | '&' => withKey fun s => (name? (s.skip 1)).map fun (name, s) => s.push (.anchor name)
      | '!' => withKey fun s => (tag? s).map fun (token, s) => s.push token
      | '\'' => withKey fun s => (quoted bound false (s.skip 1)).map (scalarToken false)
      | '"' => withKey fun s => (quoted bound true (s.skip 1)).map (scalarToken false)
      | '|' | '>' =>
        if s.inFlow then none
        else s.dropKey?.bind fun s =>
          (block (c = '>') { s.skip 1 with keyAllowed := true }).map (scalarToken false)
      | _ => otherwise

private def scan (bound : Nat) (s : Scanner) : List Token :=
  match bound with
  | 0 => (s.push .broken).tokens.reverse
  | bound + 1 =>
    match (toNext (s.rest.length + 1) s).staleKeys? with
    | none => (s.push .broken).tokens.reverse
    | some s =>
      if s.rest.isEmpty then
        let s := s.closeBlocks (-1)
        match s.dropKey? with
        | some s => s.tokens.reverse
        | none => (s.push .broken).tokens.reverse
      else
        let s := s.closeBlocks s.column
        match next? s with
        | some s => scan bound s
        | none => (s.push .broken).tokens.reverse

end Scanner

/-- The tokens of a text; a byte order mark at its beginning says nothing. -/
def tokens (text : List Char) : List Token :=
  let text := if text.head? = some '\uFEFF' then text.drop 1 else text
  Scanner.scan (text.length + 1) { rest := text }

end ClientGen.Document.Yaml
