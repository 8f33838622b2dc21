import ClientGen.Document.Access

/-! What an operation needs for authorisation. The requirements of the document and of the operation are
merged place by place; the schemes they name are looked up among the security definitions. -/

set_option autoImplicit false

namespace ClientGen

/-- Whether requests are secured, and by which kinds of scheme. -/
structure Security where
  isSecure : Bool := false
  token : Bool := false
  apiKey : Bool := false
  basic : Bool := false
  deriving DecidableEq, Repr

namespace Security

def overlay (below above : List (Key × Value)) : List (Key × Value) :=
  above.foldl (fun entries (name, value) => name.put value entries) below

def requirementAt (v : Value) (length i : Nat) : Except Failure (List (Key × Value)) :=
  if i < length then do (← v.at? i).pairs else .ok []

def mergeRequirements (document operation : Value) : Except Failure (List (List (Key × Value))) := do
  -- The longer list decides how many places there are.
  let shared ← document.count
  let own ← operation.count
  (List.range (max shared own)).mapM fun i => do
    let below ← requirementAt document shared i
    let above ← requirementAt operation own i
    return overlay (overlay [] below) above

def schemeKinds (referenced : List Key) (schemes : List (Key × Value)) : Except Failure (List Key) :=
  (schemes.filter fun (name, _) => referenced.any name.same).mapM fun (_, scheme) => do
    (← scheme.field "type").toKey?.elim (throw .wrongKind) pure

def ofOperation (document operation : Value) : Except Failure Security := do
  let isSecure ← if ← document.has "security" then pure true else operation.has "security"
  -- Without definitions there is nothing to look up, unless the operation says something of security.
  let definitions ← document.field "securityDefinitions"
  let looksUp ← match definitions with
    | .null => operation.has "security"
    | _ => pure true
  if !looksUp then return { isSecure := isSecure }
  let merged ← mergeRequirements ((← document.field "security").orElse (.list []))
    ((← operation.field "security").orElse (.list []))
  let referenced := merged.flatMap fun entries => entries.map (·.1)
  let kinds ← schemeKinds referenced (← (definitions.orElse (.object [])).entries)
  return {
    isSecure
    token := kinds.contains (.text "oauth2")
    apiKey := kinds.contains (.text "apiKey")
    basic := kinds.contains (.text "basic") }

/-- The flags after a method has joined: kinds of a secured method are added. -/
def raise (security method : Security) : Security :=
  if method.isSecure then
    { security with
      token := security.token || method.token
      apiKey := security.apiKey || method.apiKey
      basic := security.basic || method.basic }
  else security

end Security

end ClientGen
