import ClientGen.Schema.Type
import ClientGen.Text.Identifier

/-! Type expressions: the text of a type in TypeScript or in Flow, together with the structure it was
written from. The dialects differ in the brackets of arrays and objects, and Flow sets names that it has a
meaning for apart. Each kind of type is written from types that have been written already. -/

set_option autoImplicit false

namespace ClientGen

inductive Dialect where
  | typescript
  | flow
  deriving DecidableEq, Repr

inductive TypeKind where
  | ref
  | enum
  | string
  | number
  | boolean
  | any
  | array
  | object
  deriving DecidableEq, Repr

namespace TypeKind

def isAtomic : TypeKind → Bool
  | .ref | .array | .object => false
  | _ => true

def word : TypeKind → String
  | .ref => "ref"
  | .enum => "enum"
  | .string => "string"
  | .number => "number"
  | .boolean => "boolean"
  | .any => "any"
  | .array => "array"
  | .object => "object"

end TypeKind

/-- A type written in a dialect. A property has a name and may be optional. -/
structure TypeExpr where
  kind : TypeKind
  text : String
  description : Value
  target : Option String
  element : Option TypeExpr
  properties : List TypeExpr
  name : Option Key
  optional : Bool

namespace TypeExpr

def plain (kind : TypeKind) (text : String) (description : Value) : TypeExpr :=
  ⟨kind, text, description, none, none, [], none, false⟩

def primitive (description : Value) : Primitive → TypeExpr
  | .string => plain .string "string" description
  | .number => plain .number "number" description
  | .boolean => plain .boolean "boolean" description
  | .any => plain .any "any" description

/-- The union of literals; a union of none is any value. -/
def unionText (literals : List String) : String :=
  if literals.isEmpty then "any" else " | ".intercalate literals

def enum (description : Value) (literals : List String) : TypeExpr :=
  plain .enum (unionText literals) description

def asProperty (type : TypeExpr) (name : Key) (optional : Bool) : TypeExpr :=
  { type with name := some name, optional }

/-- A property name as it is written in front of its type: identifiers stand for themselves. -/
def propertyKey (name : String) : String :=
  if Text.isIdentifier name.toList then name else Text.escape name

/-- The name of a property as it is written. A value that is not true names as an empty text does; any other
name has to be a text. -/
def nameText : Option Key → Except Failure String
  | some (.text name) => .ok (propertyKey name)
  | some name => if name.toValue.isTrue then .error .noOperation else .ok (propertyKey "")
  | none => .ok (propertyKey "")

def memberText (property : TypeExpr) : Except Failure String := do
  return (← nameText property.name) ++ (if property.optional then "?" else "") ++ ": " ++ property.text

end TypeExpr

namespace Dialect

def reservedWords : Dialect → List String
  | .typescript => []
  | .flow => [
    "Array", "ArrayBuffer", "Boolean", "Buffer", "Class", "DataView", "Date", "Error",
    "Function", "Iterable", "Iterator", "Map", "Number", "Object", "Promise", "Proxy",
    "RegExp", "Set", "String", "Symbol", "WeakMap", "WeakSet", "any", "boolean", "empty",
    "mixed", "number", "string", "void"]

def typeName (dialect : Dialect) (name : String) : String :=
  if dialect.reservedWords.contains name then name ++ "Type" else name

/-- The text of an array whose elements have the given type. A union is put into parentheses where the
brackets would otherwise apply to its last literal only. -/
def arrayText (dialect : Dialect) (element : TypeExpr) : String :=
  match dialect with
  | .typescript =>
    if element.kind = .enum && Text.contains element.text " | " then "(" ++ element.text ++ ")[]"
    else element.text ++ "[]"
  | .flow => "Array<" ++ element.text ++ ">"

def membersText (dialect : Dialect) (members : List String) : String :=
  match dialect, members with
  | .typescript, [] => "\x7b\x7d"
  | .typescript, members => "\x7b " ++ "; ".intercalate members ++ " \x7d"
  | .flow, [] => "\x7b||\x7d"
  | .flow, members => "\x7b| " ++ ", ".intercalate members ++ " |\x7d"

def ref (dialect : Dialect) (description : Value) (target : String) : TypeExpr :=
  ⟨.ref, dialect.typeName target, description, some target, none, [], none, false⟩

def array (dialect : Dialect) (description : Value) (element : TypeExpr) : TypeExpr :=
  ⟨.array, dialect.arrayText element, description, none, some element, [], none, false⟩

def object (dialect : Dialect) (description : Value) (properties : List TypeExpr) :
    Except Failure TypeExpr := do
  let members ← properties.mapM TypeExpr.memberText
  return ⟨.object, dialect.membersText members, description, none, none, properties, none, false⟩

end Dialect

end ClientGen
