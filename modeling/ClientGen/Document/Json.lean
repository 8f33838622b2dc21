import ClientGen.Document.Access
import ClientGen.Text.Escaped

/-! The JSON text of a value, in ASCII: items are separated by a comma and a space, a key and its value by
a colon and a space. -/

set_option autoImplicit false

namespace ClientGen

namespace Key

def json : Key → String
  | .text s => Text.escape s
  | .null => "\"null\""
  | .bool true => "\"true\""
  | .bool false => "\"false\""
  | .int n => "\"" ++ toString n ++ "\""
  | .float x => "\"" ++ x.writeWith "Infinity" "NaN" ++ "\""

/-- The number a key counts as, in units so small that every finite number is whole; infinities lie
beyond all others. -/
private def scaled? : Key → Option Int
  | .bool b => some (if b then twoTo 1074 else 0)
  | .int n => some (n * twoTo 1074)
  | .float x =>
    let magnitude : Int := x.mantissa * twoTo (x.exponent + 1074).toNat
    some (if x.isNegative then -magnitude else magnitude)
  | _ => none

/-- Whether one key comes before another; texts are compared by code points, numbers by value, and other
pairs of keys have no order. -/
def before? (a b : Key) : Option Bool :=
  match a, b with
  | .text s, .text t => some (decide (s < t))
  | a, b => match a.scaled?, b.scaled? with
    | some m, some n => some (decide (m < n))
    | _, _ => none

variable {α : Type}

private def insertOrdered (entry : Key × α) : List (Key × α) → Option (List (Key × α))
  | [] => some [entry]
  | other :: rest =>
    match entry.1.before? other.1 with
    | none => none
    | some true => some (entry :: other :: rest)
    | some false => (insertOrdered entry rest).map (other :: ·)

def sorted? : List (Key × α) → Option (List (Key × α))
  | [] => some []
  | entry :: rest => (sorted? rest).bind (insertOrdered entry)

end Key

namespace Value

mutual

def json : Value → String
  | .null => "null"
  | .bool true => "true"
  | .bool false => "false"
  | .int n => toString n
  | .float x => x.writeWith "Infinity" "NaN"
  | .text s => Text.escape s
  | .list items => "[" ++ ", ".intercalate (jsonItems items) ++ "]"
  | .object entries => "\x7b" ++ ", ".intercalate (jsonEntries entries) ++ "\x7d"

def jsonItems : List Value → List String
  | [] => []
  | v :: rest => v.json :: jsonItems rest

def jsonEntries : List (Key × Value) → List String
  | [] => []
  | (k, v) :: rest => (k.json ++ ": " ++ v.json) :: jsonEntries rest

end

mutual

/-- The value with the entries of all its objects in the order of their keys, if they have one. -/
def sortKeys? : Value → Option Value
  | .list items => (sortItems? items).map .list
  | .object entries => (sortEntries? entries).bind fun sorted => (Key.sorted? sorted).map .object
  | v => some v

def sortItems? : List Value → Option (List Value)
  | [] => some []
  | v :: rest => v.sortKeys?.bind fun w => (sortItems? rest).map (w :: ·)

def sortEntries? : List (Key × Value) → Option (List (Key × Value))
  | [] => some []
  | (k, v) :: rest => v.sortKeys?.bind fun w => (sortEntries? rest).map ((k, w) :: ·)

end

end Value

end ClientGen
