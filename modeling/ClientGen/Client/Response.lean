import ClientGen.Schema.Conversion

/-! What a method answers with when it succeeds. -/

set_option autoImplicit false

namespace ClientGen

/-- A successful response: a type, or a description, or neither. -/
structure Response where
  tsType : Option TypeExpr
  flowType : Option TypeExpr
  description : Value

namespace Response

def unknown : Response := ⟨none, none, .null⟩

def isInlineType (response : Response) : Bool := response.tsType.isSome

def isSuccess (status : Key) : Bool := status.shown.startsWith "2"

def ofEntry (document entry : Value) : Except Failure Response := do
  let entry := entry.orElse (.object [])
  let schema ← entry.field "schema"
  -- The description of a response with a type is not used.
  if schema.isTrue then
    return ⟨some (← Dialect.typescript.typeOf document schema),
      some (← Dialect.flow.typeOf document schema), .null⟩
  else
    return ⟨none, none, (← entry.field? "description").getD (.text "")⟩

/-- Every entry of success is read, and the last one counts. -/
def ofEntries (document : Value) (entries : List (Key × Value)) : Except Failure Response :=
  entries.foldlM (fun response (status, entry) =>
    if isSuccess status then ofEntry document entry else pure response) unknown

def ofOperation (document operation : Value) : Except Failure Response := do
  let responses := (← operation.field "responses").orElse (.object [])
  ofEntries document (← responses.entries)

end Response

end ClientGen
