import ClientGen.Document.Json
import ClientGen.Outcome

/-! Reading JSON. A repeated key keeps its first place and takes its last value; whole numbers have any
size, and a number with a point or an exponent is a floating-point one. A string with half of a character of two code
units is no text and is refused. -/

set_option autoImplicit false

namespace ClientGen.Document.Json

private def skipBlanks : List Char → List Char :=
  List.dropWhile fun c => c = ' ' || c = '\t' || c = '\n' || c = '\r'

def readDigits (digits : List Char) : Nat :=
  digits.foldl (fun n c => 10 * n + (c.toNat - 48)) 0

private def readExponent? : List Char → Option (Int × List Char)
  | e :: rest =>
    if e = 'e' || e = 'E' then
      let (negative, digits) := match rest with
        | '+' :: more => (false, more)
        | '-' :: more => (true, more)
        | more => (false, more)
      let (power, after) := digits.span Char.isDigit
      if power.isEmpty then none
      else some ((if negative then -1 else 1) * (readDigits power : Int), after)
    else none
  | [] => none

private def readNumber? (negative : Bool) (text : List Char) : Option (Value × List Char) :=
  let (whole, rest) := match text with
    | '0' :: rest => (['0'], rest)
    | text => text.span Char.isDigit
  if whole.isEmpty then none
  else
    let (fraction, rest) := match rest with
      | '.' :: more =>
        let (digits, after) := more.span Char.isDigit
        if digits.isEmpty then ([], rest) else (digits, after)
      | rest => ([], rest)
    let float (power : Int) : Value :=
      .float (Binary64.ofDecimal negative (readDigits (whole ++ fraction))
        (power - (fraction.length : Int)))
    match readExponent? rest with
    | some (power, after) => some (float power, after)
    | none =>
      if fraction.isEmpty then
        let n : Int := readDigits whole
        some (.int (if negative then -n else n), rest)
      else some (float 0, rest)

private def word? (word : String) (v : Value) (text : List Char) : Option (Value × List Char) :=
  if word.toList.isPrefixOf text then some (v, text.drop word.length) else none

private def readString (text : List Char) : Except Failure (String × List Char) :=
  match Text.readUnits text with
  | none => .error .json
  | some (units, after) =>
    match Text.joinUnits units with
    | none => .error .unencodable
    | some chars => .ok (String.ofList chars, after)

private def orRefuse {α : Type} : Option α → Except Failure α
  | some a => .ok a
  | none => .error .json

mutual

/-- Reads a value; the bound limits the number of nested and following parts. -/
private def readValue (bound : Nat) (text : List Char) : Except Failure (Value × List Char) :=
  match bound with
  | 0 => .error .json
  | bound + 1 =>
    match text with
    | '"' :: rest => (readString rest).map fun (s, after) => (.text s, after)
    | '[' :: rest =>
      match skipBlanks rest with
      | ']' :: after => .ok (.list [], after)
      | more => (readItems bound more).map fun (items, after) => (.list items, after)
    | '\x7b' :: rest =>
      match skipBlanks rest with
      | '\x7d' :: after => .ok (.object [], after)
      | more => (readEntries bound [] more).map fun (entries, after) => (.object entries, after)
    | 'n' :: _ => orRefuse (word? "null" .null text)
    | 't' :: _ => orRefuse (word? "true" (.bool true) text)
    | 'f' :: _ => orRefuse (word? "false" (.bool false) text)
    | 'N' :: _ => orRefuse (word? "NaN" (.float Binary64.nan) text)
    | 'I' :: _ => orRefuse (word? "Infinity" (.float (Binary64.infinity false)) text)
    | '-' :: 'I' :: _ => orRefuse (word? "-Infinity" (.float (Binary64.infinity true)) text)
    | '-' :: rest => orRefuse (readNumber? true rest)
    | text => orRefuse (readNumber? false text)

private def readItems (bound : Nat) (text : List Char) : Except Failure (List Value × List Char) :=
  match bound with
  | 0 => .error .json
  | bound + 1 => do
    let (v, rest) ← readValue bound text
    match skipBlanks rest with
    | ']' :: after => return ([v], after)
    | ',' :: more =>
      let (items, after) ← readItems bound (skipBlanks more)
      return (v :: items, after)
    | _ => throw .json

private def readEntries (bound : Nat) (sofar : List (Key × Value)) (text : List Char) :
    Except Failure (List (Key × Value) × List Char) :=
  match bound, text with
  | bound + 1, '"' :: rest => do
    let (name, rest) ← readString rest
    match skipBlanks rest with
    | ':' :: more =>
      let (v, rest) ← readValue bound (skipBlanks more)
      let entries := (Key.text name).put v sofar
      match skipBlanks rest with
      | '\x7d' :: after => return (entries, after)
      | ',' :: more => readEntries bound entries (skipBlanks more)
      | _ => throw .json
    | _ => throw .json
  | _, _ => .error .json

end

def read (text : String) : Except Failure Value := do
  let chars := text.toList
  let (v, rest) ← readValue (chars.length + 1) (skipBlanks chars)
  if (skipBlanks rest).isEmpty then return v else throw .json

private theorem readValue_quote (bound : Nat) (rest : List Char) :
    readValue (bound + 1) ('"' :: rest) = (readString rest).map fun (s, after) => (.text s, after) := by
  rw [readValue]

theorem read_literal {text s : String} {rest : List Char} {units : List Nat} (quoted : text.toList = '"' :: rest)
    (literal : Text.readUnits rest = some (units, [])) (whole : Text.joinUnits units = some s.toList) :
    read text = .ok (.text s) := by
  have string : readString rest = .ok (s, []) := by
    rw [readString, literal]
    simp only [whole, String.ofList_toList]
  have noBlanks : skipBlanks ('"' :: rest) = '"' :: rest := rfl
  rw [read, quoted, noBlanks, readValue_quote, string]
  rfl

end ClientGen.Document.Json
