import ClientGen.Failure
import ClientGen.Text.Part

/-! Reading documents whose shape is not known in advance: each use of a value says what it fails with
when the value is of another kind. -/

set_option autoImplicit false

namespace ClientGen.Value

def entries : Value → Except Failure (List (Key × Value))
  | .object entries => .ok entries
  | _ => .error .noOperation

def field? (v : Value) (name : String) : Except Failure (Option Value) :=
  match v with
  | .object entries => .ok ((Key.text name).lookup entries)
  | _ => .error .noOperation

def field (v : Value) (name : String) : Except Failure Value :=
  (v.field? name).map (·.getD .null)

/-- Whether a name is a key of an object, a part of a text or an element of a list. -/
def has (v : Value) (name : String) : Except Failure Bool :=
  match v with
  | .object entries => .ok ((Key.text name).lookup entries).isSome
  | .text s => .ok (Text.contains s name)
  | .list items => .ok (items.any fun | .text s => s == name | _ => false)
  | _ => .error .wrongKind

def elements : Value → Except Failure (List Value)
  | .list items => .ok items
  | .text s => .ok (s.toList.map fun c => .text (String.singleton c))
  | .object entries => .ok (entries.map fun (k, _) => k.toValue)
  | _ => .error .wrongKind

def count : Value → Except Failure Nat
  | .list items => .ok items.length
  | .text s => .ok s.length
  | .object entries => .ok entries.length
  | _ => .error .wrongKind

/-- The element, character or entry at a whole number; the caller has checked that a list or a text is
that long. -/
def at? (v : Value) (i : Nat) : Except Failure Value :=
  match v with
  | .list items => (items[i]?).elim (.error .wrongKind) .ok
  | .text s => (s.toList[i]?).elim (.error .wrongKind) fun c => .ok (.text (String.singleton c))
  | .object entries => ((Key.int i).lookup entries).elim (.error .noEntry) .ok
  | _ => .error .wrongKind

def asText : Value → Option String
  | .text s => some s
  | _ => none

def keySet (v : Value) : Except Failure (List Key) := do
  (← v.elements).mapM fun element => element.toKey?.elim (.error .wrongKind) .ok

/-- The elements of a list, the characters of a text or the keys of an object, with a text between each
two; all have to be texts. -/
def join (between : String) (v : Value) : Except Failure String := do
  let parts ← (← v.elements).mapM fun element => element.asText.elim (.error .wrongKind) .ok
  return between.intercalate parts

def pair (v : Value) : Except Failure (Key × Value) := do
  match ← v.elements with
  | [name, value] => return (← name.toKey?.elim (throw .wrongKind) pure, value)
  | _ => throw .notAPair

/-- The entries of an object, or those that a list gives as pairs. -/
def pairs : Value → Except Failure (List (Key × Value))
  | .object entries => .ok entries
  | other => do (← other.elements).mapM pair

def isNonnegative : Value → Except Failure Bool
  | .int n => .ok (decide (0 ≤ n))
  | .float x => .ok x.isNonnegative
  | .bool _ => .ok true
  | _ => .error .wrongKind

end ClientGen.Value
