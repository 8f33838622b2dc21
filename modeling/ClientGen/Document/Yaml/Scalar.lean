import ClientGen.Document.Json.Reader

/-! What a plain scalar denotes: a truth value, a number, null, a date, or its own text. -/

set_option autoImplicit false

namespace ClientGen.Document.Yaml

inductive ScalarKind where
  | bool
  | float
  | int
  | merge
  | null
  | timestamp
  /-- The sign that stands for a default value. -/
  | default
  | text
  deriving DecidableEq, Repr

namespace Scalar

private def truths : List String := ["yes", "Yes", "YES", "true", "True", "TRUE", "on", "On", "ON"]

private def falsehoods : List String :=
  ["no", "No", "NO", "false", "False", "FALSE", "off", "Off", "OFF"]

private def unsigned : List Char → List Char
  | '+' :: rest => rest
  | '-' :: rest => rest
  | text => text

private def isDigitOr (c : Char) : Bool := c.isDigit || c = '_'

private def isSixtieth (part : List Char) : Bool :=
  match part with
  | [c] => c.isDigit
  | [c, d] => '0' ≤ c && c ≤ '5' && d.isDigit
  | _ => false

private def colonParts (text : List Char) : List (List Char) :=
  match text with
  | [] => [[]]
  | c :: rest =>
    if c = ':' then [] :: colonParts rest
    else match colonParts rest with
      | part :: parts => (c :: part) :: parts
      | [] => [[c]]

private def isSignedExponent : List Char → Bool
  | [] => true
  | e :: sign :: d :: rest =>
    (e = 'e' || e = 'E') && (sign = '+' || sign = '-') && d.isDigit && rest.all Char.isDigit
  | _ => false

private def startsWithDigit : List Char → Bool
  | c :: _ => c.isDigit
  | [] => false

private def isFloat (text : List Char) : Bool :=
  let body := unsigned text
  let pointed : Bool :=
    startsWithDigit body &&
      match body.dropWhile isDigitOr with
      | '.' :: rest => isSignedExponent (rest.dropWhile isDigitOr)
      | _ => false
  let bare : Bool :=
    match text with
    | '.' :: rest => startsWithDigit rest && isSignedExponent (rest.dropWhile isDigitOr)
    | _ => false
  let sexagesimal : Bool :=
    match body.reverse.dropWhile isDigitOr with
    | '.' :: whole =>
      match colonParts whole.reverse with
      | first :: second :: more =>
        startsWithDigit first && first.all isDigitOr && (second :: more).all isSixtieth
      | _ => false
    | _ => false
  pointed || bare || sexagesimal ||
    [".inf", ".Inf", ".INF"].contains (String.ofList body) ||
    [".nan", ".NaN", ".NAN"].contains (String.ofList text)

private def isInt (text : List Char) : Bool :=
  let all (p : Char → Bool) (digits : List Char) : Bool := !digits.isEmpty && digits.all p
  match unsigned text with
  | '0' :: 'b' :: digits => all (fun c => c = '0' || c = '1' || c = '_') digits
  | '0' :: 'x' :: digits => all (fun c => (Text.hexValue? c).isSome || c = '_') digits
  | '0' :: digits => digits.all fun c => ('0' ≤ c && c ≤ '7') || c = '_'
  | body =>
    startsWithDigit body &&
      match colonParts body with
      | first :: more => first.all isDigitOr && more.all isSixtieth
      | [] => false

private def daysIn (year month : Nat) : Nat :=
  if month = 2 then if year % 4 = 0 && (year % 100 ≠ 0 || year % 400 = 0) then 29 else 28
  else if [4, 6, 9, 11].contains month then 30
  else 31

private def isDay (year month day : List Char) : Bool :=
  let (year, month, day) := (Json.readDigits year, Json.readDigits month, Json.readDigits day)
  1 ≤ year && 1 ≤ month && month ≤ 12 && 1 ≤ day && day ≤ daysIn year month

private def isTime (hour minute second : List Char) : Bool :=
  Json.readDigits hour < 24 && Json.readDigits minute < 60 && Json.readDigits second < 60

/-- A day as it is shown, if the text has the form of one; only some that have it exist. -/
private def day? (text : List Char) : Option (Option String) :=
  match text with
  | [a, b, c, d, '-', e, f, '-', g, h] =>
    if [a, b, c, d, e, f, g, h].all Char.isDigit then
      some (if isDay [a, b, c, d] [e, f] [g, h] then some (String.ofList text) else none)
    else none
  | _ => none

private def digits? (least most : Nat) (text : List Char) : Option (List Char × List Char) :=
  let run := (text.take most).takeWhile Char.isDigit
  if run.length < least then none else some (run, text.drop run.length)

private def expect? (c : Char) : List Char → Option (List Char)
  | d :: rest => if c = d then some rest else none
  | [] => none

private def shownOffset (negative : Bool) (hours minutes : List Char) : Option String :=
  let offset := 60 * Json.readDigits hours + Json.readDigits minutes
  let two (n : Nat) : String := (if n < 10 then "0" else "") ++ toString n
  if offset < 24 * 60 then
    some ((if negative && offset ≠ 0 then "-" else "+") ++ two (offset / 60) ++ ":" ++ two (offset % 60))
  else none

/-- A moment as it is shown, if the text has the form of one: date, time, and offset from universal time if one is
given. Only some that have the form exist. -/
private def moment? (text : List Char) : Option (Option String) := do
  let (year, rest) ← digits? 4 4 text
  let rest ← expect? '-' rest
  let (month, rest) ← digits? 1 2 rest
  let rest ← expect? '-' rest
  let (day, rest) ← digits? 1 2 rest
  let rest ← match rest with
    | 'T' :: rest => some rest
    | 't' :: rest => some rest
    | ' ' :: rest => some (rest.dropWhile fun c => c = ' ' || c = '\t')
    | '\t' :: rest => some (rest.dropWhile fun c => c = ' ' || c = '\t')
    | _ => none
  let (hour, rest) ← digits? 1 2 rest
  let rest ← expect? ':' rest
  let (minute, rest) ← digits? 2 2 rest
  let rest ← expect? ':' rest
  let (second, rest) ← digits? 2 2 rest
  let (fraction, rest) := match rest with
    | '.' :: rest => (rest.takeWhile Char.isDigit, rest.dropWhile Char.isDigit)
    | rest => ([], rest)
  let rest := rest.dropWhile fun c => c = ' ' || c = '\t'
  let two (digits : List Char) : String :=
    String.ofList (List.replicate (2 - digits.length) '0' ++ digits)
  let offset ← match rest with
    | [] => some (some "")
    | ['Z'] => some (some "+00:00")
    | sign :: rest =>
      if sign = '+' || sign = '-' then do
        let (hours, rest) ← digits? 1 2 rest
        let minutes ← match rest with
          | [] => some ['0', '0']
          | ':' :: rest => do
            let (minutes, rest) ← digits? 2 2 rest
            if rest.isEmpty then some minutes else none
          | _ => none
        some (shownOffset (sign = '-') hours minutes)
      else none
  let micro := (fraction ++ List.replicate 6 '0').take 6
  let time := String.ofList year ++ "-" ++ two month ++ "-" ++ two day ++ " " ++ two hour ++ ":" ++
    two minute ++ ":" ++ two second ++ if micro.all (· = '0') then "" else "." ++ String.ofList micro
  return if isDay year month day && isTime hour minute second then offset.map (time ++ ·) else none

private def timestamp? (text : String) : Option (Option String) :=
  (day? text.toList).orElse fun _ => moment? text.toList

def kindOf (text : String) : ScalarKind :=
  let chars := text.toList
  if truths.contains text || falsehoods.contains text then .bool
  else if isFloat chars then .float
  else if isInt chars then .int
  else if text = "<<" then .merge
  else if ["", "~", "null", "Null", "NULL"].contains text then .null
  else if (timestamp? text).isSome then .timestamp
  else if text = "=" then .default
  else .text

private def isNegative (text : List Char) : Bool := text.head? = some '-'

private def readIn (base : Nat) (digits : List Char) : Int :=
  digits.foldl (fun n c => base * n + (((Text.hexValue? c).getD 0 : Nat) : Int)) 0

private def readSixtieths (parts : List (List Char)) : Int :=
  parts.foldl (fun n part => 60 * n + readIn 10 part) 0

def toInt (text : String) : Int :=
  let chars := text.toList.filter (· ≠ '_')
  let n := match unsigned chars with
    | '0' :: 'b' :: digits => readIn 2 digits
    | '0' :: 'x' :: digits => readIn 16 digits
    | '0' :: digits => readIn 8 digits
    | body => readSixtieths (colonParts body)
  if isNegative chars then -n else n

private def readFloat (negative : Bool) (text : List Char) : Binary64 :=
  let whole := text.takeWhile Char.isDigit
  let rest := text.dropWhile Char.isDigit
  let (fraction, rest) := match rest with
    | '.' :: rest => (rest.takeWhile Char.isDigit, rest.dropWhile Char.isDigit)
    | rest => ([], rest)
  let power : Int := match rest with
    | _ :: '-' :: digits => -readIn 10 digits
    | _ :: '+' :: digits => readIn 10 digits
    | _ :: digits => readIn 10 digits
    | [] => 0
  Binary64.ofDecimal negative (Json.readDigits (whole ++ fraction)) (power - (fraction.length : Int))

def toFloat (text : String) : Binary64 :=
  let chars := (text.toList.filter (· ≠ '_')).map Char.toLower
  let negative := isNegative chars
  let body := unsigned chars
  if body = ".inf".toList then Binary64.infinity negative
  else if body = ".nan".toList then Binary64.nan
  else match colonParts body with
    | [only] => readFloat negative only
    | parts =>
      -- The part after the last colon may have a point; all are counted in its unit.
      let last := parts.getLast?.getD []
      let fraction := (last.dropWhile (· ≠ '.')).drop 1
      let seconds := readSixtieths (parts.dropLast ++ [last.takeWhile (· ≠ '.')])
      Binary64.ofDecimal negative
        (seconds.toNat * tenTo fraction.length + Json.readDigits fraction) (-(fraction.length : Int))

/-- The value of a scalar of the given kind. Dates are kept as the text that shows them; one that does not exist is no
value. -/
def toValue? (kind : ScalarKind) (text : String) : Option Value :=
  match kind with
  | .bool => some (.bool (truths.contains text))
  | .float => some (.float (toFloat text))
  | .int => some (.int (toInt text))
  | .null => some .null
  | .timestamp => ((timestamp? text).getD none).map .text
  | _ => some (.text text)

end Scalar

end ClientGen.Document.Yaml
