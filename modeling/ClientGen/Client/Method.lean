import ClientGen.Client.Parameter
import ClientGen.Client.Response
import ClientGen.Client.Security
import ClientGen.Naming.MethodName

/-! Methods of the client: one for each operation. -/

set_option autoImplicit false

namespace ClientGen

structure Header where
  name : String
  value : String
  deriving DecidableEq, Repr

structure Method where
  path : Key
  verb : String
  name : String
  summary : Value
  security : Security
  response : Response
  parameters : List Parameter
  headers : List Header
  className : Option String
  externalDocs : Value

structure Operation where
  path : Key
  verb : Key
  details : Value
  sharedParameters : Value

def supportedVerbs : List String :=
  ["GET", "POST", "PUT", "DELETE", "PATCH", "COPY", "HEAD", "OPTIONS",
    "LINK", "UNLINK", "PURGE", "LOCK", "UNLOCK", "PROPFIND"]

namespace Method

def isGet (method : Method) : Bool := method.verb == "GET"

def isPost (method : Method) : Bool := method.verb == "POST"

def hasParameters (method : Method) : Bool := !method.parameters.isEmpty

def hasRequiredParameters (method : Method) : Bool := method.parameters.any (·.required)

end Method

/-- Media types between quotes, as a header gives them; none when nothing is said of them. An operation
that says something speaks for itself, even if it says null. -/
def mediaHeader (document operation : Value) (field name between : String) :
    Except Failure (List Header) := do
  let types ← match ← operation.field? field with
    | some types => pure types
    | none => document.field field
  match types with
  | .null => return []
  | types => return [⟨name, "'" ++ (← types.join between) ++ "'"⟩]

def headersOf (document operation : Value) : Except Failure (List Header) := do
  return (← mediaHeader document operation "produces" "Accept" ", ") ++
    (← mediaHeader document operation "consumes" "Content-Type" ",")

namespace Operation

def candidate (operation : Operation) : Except Failure String :=
  Naming.candidate operation.details operation.verb operation.path

def verbWord (operation : Operation) : Except Failure String :=
  match operation.verb with
  | .text verb => .ok (Text.upper verb)
  | _ => .error .noOperation

def method (document : Value) (operation : Operation) (name : String) (className : Option String) :
    Except Failure Method := do
  -- The first of these parts that cannot be read decides what the method fails with.
  let details := operation.details
  let verb ← operation.verbWord
  let summary := (← details.field "description").orElse (← details.field "summary")
  let security ← Security.ofOperation document details
  let response ← Response.ofOperation document details
  let parameters ← Parameter.parse document (← details.field "parameters") operation.sharedParameters
  let headers ← headersOf document details
  let externalDocs ← details.field "externalDocs"
  return {
    path := operation.path
    verb, name, summary, security, response, parameters, headers, className, externalDocs }

end Operation

end ClientGen
