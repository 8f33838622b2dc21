import ClientGen.Document.Value
import ClientGen.Number.Shortest
import ClientGen.Text.Quoted

/-! Values shown as text, in comments and messages: a text by itself is shown as it is, and between quotes
wherever it stands inside another value. -/

set_option autoImplicit false

namespace ClientGen

namespace Binary64

/-- The text of any value, with the given spelling of infinity and of what is not a number. -/
def writeWith (infinite undefinedNumber : String) (x : Binary64) : String :=
  if x.isNaN then undefinedNumber
  else if !x.isFinite then (if x.isNegative then "-" else "") ++ infinite
  else x.write

end Binary64

namespace Value

private def truthWord (b : Bool) : String := if b then "True" else "False"

end Value

namespace Key

def quoted : Key → String
  | .text s => Text.quoted s
  | .null => "None"
  | .bool b => Value.truthWord b
  | .int n => toString n
  | .float x => x.writeWith "inf" "nan"

def shown : Key → String
  | .text s => s
  | k => k.quoted

end Key

namespace Value

mutual

def quoted : Value → String
  | .null => "None"
  | .bool b => truthWord b
  | .int n => toString n
  | .float x => x.writeWith "inf" "nan"
  | .text s => Text.quoted s
  | .list items => "[" ++ ", ".intercalate (quotedItems items) ++ "]"
  | .object entries => "\x7b" ++ ", ".intercalate (quotedEntries entries) ++ "\x7d"

def quotedItems : List Value → List String
  | [] => []
  | v :: rest => v.quoted :: quotedItems rest

def quotedEntries : List (Key × Value) → List String
  | [] => []
  | (k, v) :: rest => (k.quoted ++ ": " ++ v.quoted) :: quotedEntries rest

end

def shown : Value → String
  | .text s => s
  | v => v.quoted

end Value

end ClientGen
