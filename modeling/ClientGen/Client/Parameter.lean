import ClientGen.Naming.Word
import ClientGen.Schema.Conversion

/-! Parameters of a method. The entries that an operation and its path list are taken one by one: an entry
may be hidden from clients, stand for a shared parameter of the document, or be a parameter itself. -/

set_option autoImplicit false

namespace ClientGen

inductive Location where
  | body
  | path
  | query
  | header
  | form
  deriving DecidableEq, Repr

namespace Location

def word : Location → String
  | .body => "body"
  | .path => "path"
  | .query => "query"
  | .header => "header"
  | .form => "form"

def ofName? : String → Option Location
  | "body" => some .body
  | "path" => some .path
  | "query" => some .query
  | "header" => some .header
  | "form" | "formData" => some .form
  | _ => none

end Location

structure Parameter where
  name : String
  /-- The key under which a method takes the argument. -/
  argument : String
  location : Location
  required : Bool
  tsType : TypeExpr
  flowType : TypeExpr
  declaredType : Value
  description : Value
  singleton : Option Value
  pattern : Option Value

namespace Parameter

def cardinality (parameter : Parameter) : String := if parameter.required then "" else "?"

/-- Whether an entry is hidden from clients: marked so, or a header that a proxy adds. -/
def isExcluded (entry : Value) : Except Failure Bool := do
  match ← entry.field "x-exclude-from-bindings" with
  | .bool true => return true
  | _ => return (← entry.field "x-proxy-header").isTrue

def resolve (document : Value) (path : String) : Except Failure Value := do
  let shared := (← document.field "parameters").orElse (.object [])
  match ← shared.field (SchemaType.refName path) with
  | .null => throw (.unresolved path)
  | found => return found

/-- The location of an entry; a document without one names the empty location. -/
def locate (entry : Value) : Except Failure Location := do
  -- Both entries are read before the location is known to be none.
  let unsupported := Failure.unsupportedLocation (← entry.field "name") (← entry.field "in")
  match ← entry.field? "in" with
  | some (.text name) => (Location.ofName? name).elim (throw unsupported) pure
  | _ => throw unsupported

def ofEntry (document entry : Value) : Except Failure Parameter := do
  let location ← locate entry
  -- A parameter of one literal has its value fixed, and the method does not ask for it.
  let singleton := match ← entry.field "enum" with
    | .list [only] => some only
    | _ => none
  let pattern ← if location = .query then entry.field "x-name-pattern" else pure .null
  let declaredType := match ← entry.field "type" with
    | .text "integer" => .text "number"
    | declared => declared
  let name ← match ← entry.field? "name" with
    | none => throw .noEntry
    | some (.text name) => pure name
    | some _ => throw .wrongKind
  return {
    name
    argument := Naming.camelCase name
    location
    required := (← entry.field "required").isTrue
    tsType := ← Dialect.typescript.typeOf document entry
    flowType := ← Dialect.flow.typeOf document entry
    declaredType
    description := (← entry.field? "description").getD (.text "")
    singleton
    pattern := if pattern.isTrue then some pattern else none }

/-- What one entry contributes: nothing when it is excluded, or when it refers to a parameter that is. -/
def contribution (document entry : Value) : Except Failure (Option Parameter) := do
  if ← isExcluded entry then return none
  match ← entry.field "$ref" with
  | .text path =>
    -- What is referred to is a parameter itself; a reference in it is not followed.
    let shared ← resolve document path
    if ← isExcluded shared then return none
    return some (← ofEntry document shared)
  | _ => return some (← ofEntry document entry)

def listed (own shared : Value) : Except Failure (List Value) := do
  return (← (own.orElse (.list [])).elements) ++ (← (shared.orElse (.list [])).elements)

def ofEntries (document : Value) (entries : List Value) : Except Failure (List Parameter) := do
  return (← entries.mapM (contribution document)).filterMap id

def parse (document own shared : Value) : Except Failure (List Parameter) := do
  ofEntries document (← listed own shared)

end Parameter

end ClientGen
