import ClientGen.Document.Access
import ClientGen.Naming.Word
import ClientGen.Text.Case
import ClientGen.Text.Class

/-! The name of an operation's method: its own identifier, or else its verb followed by the words of its path. A name
that is taken gets the first free number. -/

set_option autoImplicit false

namespace ClientGen.Naming

/-- An operation identifier with an underscore for each point, hyphen, brace and blank. -/
def normalize (identifier : String) : String :=
  String.ofList (identifier.toList.map fun c =>
    if c = '.' || c = '-' || c = '\x7b' || c = '\x7d' || Text.isBlank c then '_' else c)

def splitAt (separator : Char) : List Char → List (List Char)
  | [] => [[]]
  | c :: rest =>
    if c = separator then [] :: splitAt separator rest
    else match splitAt separator rest with
      | [] => [[c]]
      | part :: parts => (c :: part) :: parts

/-- A part of a path in braces names a parameter, which the method name says with `by`. -/
def segmentWord (segment : List Char) : List Char :=
  match segment with
  | '\x7b' :: first :: rest =>
    -- Braces around nothing are no parameter.
    if !rest.isEmpty && rest.getLast? == some '\x7d' then
      'b' :: 'y' :: (Text.upperChar first ++ rest.dropLast)
    else segment
  | _ => segment

/-- The words of a path, run together; what stands before its first slash does not count. -/
def pathWords (path : List Char) : List Char :=
  -- One slash at the end separates nothing; a second one would leave an empty segment.
  let clean := if path.getLast? = some '/' then path.dropLast else path
  let segments := ((splitAt '/' clean).drop 1).map segmentWord
  camelCaseChars (['-'].intercalate segments)

def pathMethodName (verb path : String) : String :=
  let verb := Text.lower verb
  match pathWords path.toList with
  | [] => verb
  | c :: rest => verb ++ String.ofList (c.toUpper :: rest)

/-- The name before it is made unique. Only a text has a letter case or parts. -/
def candidate (operation : Value) (verb path : Key) : Except Failure String := do
  let identifier ← operation.field "operationId"
  if identifier.isTrue then return normalize identifier.shown
  match verb, path with
  | .text verb, .text path => return pathMethodName verb path
  | _, _ => throw .noOperation

def numbered (name : String) (n : Nat) : String := name ++ "_" ++ toString n

/-- The name itself, or with the least number from 1 on that makes it new; among one more numbers than
there are names in use, one is free. -/
def unique (name : String) (used : List String) : String :=
  if used.contains name then
    let free := (List.range' 1 (used.length + 1)).find? fun n => !used.contains (numbered name n)
    numbered name (free.getD 0)
  else name

def giveOut (name : String) (used : List String) : String × List String :=
  let chosen := unique name used
  (chosen, used ++ [chosen])

end ClientGen.Naming
